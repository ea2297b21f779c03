import ConfigAudit.FileAccess

/-!
# Workspaces

A `Workspace` is a directory tree held in memory, in which a command can be run and looked at. A
path is followed one step after the other, so each step before the last one has to lead to a
directory, even where dots take it back.
-/

namespace ConfigAudit

/-- What stands at a place. -/
inductive FileNode where
  | file (text : String)
  | directory
  | missing
deriving DecidableEq, Repr

/-- A directory tree in memory. -/
structure Workspace where
  /-- Files by place, each with its text. -/
  files : List (Place × String) := []
  /-- Directories that were made, whether or not a file lies in them. -/
  directories : List Place := []
deriving DecidableEq, Repr, Inhabited

namespace Workspace

/-- The most bytes of a name. -/
def maxNameSize : Nat := 255

/-- The most bytes of a path. -/
def maxPathSize : Nat := 4095

/-- The workspace of files given by the texts of their paths. -/
def ofFiles (files : List (String × String)) : Workspace where
  files := files.map fun (path, text) => (FilePath.follow path, text)

/-- The files in the working directory, each by the text of its path. -/
def toFiles (workspace : Workspace) : List (String × String) :=
  (workspace.files.filter fun (place, _) => place.isWithin .here).map fun (place, text) =>
    ("/".intercalate place.names, text)

/-- What stands at a place. A directory is where a path can start, one that was made, or a place in
which something lies. -/
def node (workspace : Workspace) (place : Place) : FileNode :=
  match workspace.files.lookup place with
  | some text => .file text
  | none =>
    if place.names.isEmpty || workspace.directories.any (·.isWithin place) ||
        workspace.files.any (·.1.isWithin place) then
      .directory
    else .missing

/-- Where a step leads from a directory, unless the name is too long. -/
def reach (place : Place) (step : PathStep) : Except FileError Place :=
  match step with
  | .down name =>
    if maxNameSize < name.utf8ByteSize then .error .nameTooLong else .ok (place.child name)
  | step => .ok (place.take step)

/-- The directory that a step leads to from a directory. -/
def enter (workspace : Workspace) (place : Place) (step : PathStep) : Except FileError Place := do
  let next ← reach place step
  match workspace.node next with
  | .file _ => .error .notDirectory
  | .directory => .ok next
  | .missing => .error .notFound

/-- The steps of a path, and the directory in which its last step is taken. -/
def approach (workspace : Workspace) (path : String) : Except FileError (FilePath × Place) :=
  if path.isEmpty then .error .notFound
  else if maxPathSize < path.utf8ByteSize then .error .nameTooLong
  else do
    let steps := FilePath.ofText path
    let directory ← steps.lead.foldlM workspace.enter ⟨steps.anchor, []⟩
    pure (steps, directory)

/-- What stands at the end of a path. -/
def find (workspace : Workspace) (path : String) : Except FileError FileNode := do
  let (steps, directory) ← workspace.approach path
  let place ← reach directory steps.last
  match workspace.node place with
  | .file text => if steps.endsInSlash then .error .notDirectory else pure (.file text)
  | node => pure node

/-- The text of a file. -/
def readText (workspace : Workspace) (path : String) : Except FileError String := do
  match ← workspace.find path with
  | .file text => pure text
  | .directory => .error .isDirectory
  | .missing => .error .notFound

/-- Whether a directory stands at the end of a path. -/
def isDirectory (workspace : Workspace) (path : String) : Bool :=
  match workspace.find path with
  | .ok .directory => true
  | _ => false

/-- Make a directory. Dots name one that is there. -/
def makeDirectory (workspace : Workspace) (path : String) : Except FileError Workspace := do
  let (steps, directory) ← workspace.approach path
  match steps.last with
  | .stay | .up => .error .alreadyThere
  | step =>
    let place ← reach directory step
    match workspace.node place with
    | .missing => pure { workspace with directories := place :: workspace.directories }
    | _ => .error .alreadyThere

/-- Put a text in place of what a file holds. -/
def putFile (place : Place) (text : String) : List (Place × String) → List (Place × String)
  | [] => [(place, text)]
  | (other, old) :: rest =>
    if other = place then (place, text) :: rest else (other, old) :: putFile place text rest

/-- Write a file. Dots name a directory, and so does a path with a slash at its end, whatever
stands there. -/
def writeText (workspace : Workspace) (path text : String) : Except FileError Workspace := do
  let (steps, directory) ← workspace.approach path
  match steps.last with
  | .stay | .up => .error .isDirectory
  | step =>
    if steps.endsInSlash then .error .isDirectory
    else
      let place ← reach directory step
      match workspace.node place with
      | .directory => .error .isDirectory
      | _ => pure { workspace with files := putFile place text workspace.files }

/-- Keep the workspace as it is if a change fails. -/
def change (attempt : Workspace → Except FileError Workspace) :
    StateM Workspace (Except FileError Unit) :=
  fun workspace =>
    match attempt workspace with
    | .ok changed => (.ok (), changed)
    | .error error => (.error error, workspace)

/-- Access to the files of a workspace. -/
def access : FileAccess (StateM Workspace) where
  readText path := fun workspace => (workspace.readText path, workspace)
  isDirectory path := fun workspace => (workspace.isDirectory path, workspace)
  makeDirectory path := change (·.makeDirectory path)
  writeText path text := change (·.writeText path text)

end Workspace

end ConfigAudit
