import ConfigAudit.CauseChain
import ConfigAudit.FilePath

/-!
# Access to files

What a command may do with files, and the ways in which that fails. A file is written together with
the directories in which it lies, `FileAccess.writeWithDirectories`.
-/

namespace ConfigAudit

/-- The reason why a file cannot be read or written. -/
inductive FileError where
  | notFound
  | denied
  | alreadyThere
  | notDirectory
  | isDirectory
  | nameTooLong
  /-- Any other reason in the system's own words. -/
  | other (words : String)
deriving DecidableEq, Repr

namespace FileError

/-- The wording of the reason. -/
def message : FileError → String
  | notFound => "No such file or directory (os error 2)"
  | denied => "Permission denied (os error 13)"
  | alreadyThere => "File exists (os error 17)"
  | notDirectory => "Not a directory (os error 20)"
  | isDirectory => "Is a directory (os error 21)"
  | nameTooLong => "File name too long (os error 36)"
  | other words => words

end FileError

/-- What a command may do with files. -/
structure FileAccess (m : Type → Type) where
  readText : (path : String) → m (Except FileError String)
  isDirectory : (path : String) → m Bool
  /-- Make a directory in one that exists. -/
  makeDirectory : (path : String) → m (Except FileError Unit)
  /-- Write a file in place of what was there. -/
  writeText : (path text : String) → m (Except FileError Unit)

namespace FileAccess

/-- Access to the same files from computations that can do more. -/
def lift {m n : Type → Type} [MonadLift m n] (files : FileAccess m) : FileAccess n where
  readText path := liftM (files.readText path)
  isDirectory path := liftM (files.isDirectory path)
  makeDirectory path := liftM (files.makeDirectory path)
  writeText path text := liftM (files.writeText path text)

variable {m : Type → Type} [Monad m]

/-- Make a directory; one that is there already will do. -/
def ensureDirectory (files : FileAccess m) (path : String) : m (Except FileError Unit) := do
  match ← files.makeDirectory path with
  | .error .alreadyThere =>
    if ← files.isDirectory path then pure (.ok ()) else pure (.error .alreadyThere)
  | result => pure result

/-- Make the first of some directories, each of which lies in the next one. Those further out are
made only if that fails without them. -/
def ensureDirectories (files : FileAccess m) : List String → m (Except FileError Unit)
  | [] => pure (.ok ())
  | path :: outer => do
    match ← files.ensureDirectory path with
    | .error .notFound =>
      match ← files.ensureDirectories outer with
      | .error error => pure (.error error)
      | .ok () => files.ensureDirectory path
    | result => pure result

/-- Write a file and the directories in which it lies. -/
def writeWithDirectories (files : FileAccess m) (path text : String) :
    m (Except CauseChain Unit) := do
  let outer := FilePath.outerDirectories path
  match ← files.ensureDirectories outer with
  | .error error => pure (.error ⟨"create dir " ++ outer.headD "", [error.message]⟩)
  | .ok () =>
    match ← files.writeText path text with
    | .error error => pure (.error ⟨"write " ++ path, [error.message]⟩)
    | .ok () => pure (.ok ())

end FileAccess

end ConfigAudit
