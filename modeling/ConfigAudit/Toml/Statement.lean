import ConfigAudit.Toml.Basic

/-!
# Statements of a TOML document

A document is a sequence of statements: headers that open a table, and assignments of values to
dotted keys. `Table.ofStatements?` carries them out and refuses one that defines a table twice,
gives a key two values, or extends a value that is closed.
-/

namespace ConfigAudit

namespace Toml

/-- The parts of a dotted key. -/
abbrev Path := List String

/-- A line of a document. -/
inductive Statement where
  /-- Open the table at a path. -/
  | openTable (path : Path)
  /-- Open a new table at the end of the sequence of tables at a path. -/
  | openElement (path : Path)
  | assign (path : Path) (value : Toml)

/-- What brought a table into being. -/
inductive Origin where
  /-- A header of its own. -/
  | header
  /-- A header of a table inside it. -/
  | implied
  /-- A dotted key. -/
  | dotted
deriving DecidableEq, Repr

/-- What a key of a table under construction stands for. -/
inductive Node where
  /-- A value, which nothing can be added to. -/
  | closed (value : Toml)
  | table (origin : Origin) (members : List (String × Node))
  /-- The tables of a sequence, last first: the last one and those before it. -/
  | sequence (last : List (String × Node)) (earlier : List (List (String × Node)))

/-- The members of a table under construction. -/
abbrev Table := List (String × Node)

mutual

/-- The value of a finished node. -/
def Node.value : Node → Toml
  | .closed value => value
  | .table _ members => .table (valuesOfMembers members)
  | .sequence last earlier => .array (valuesOfTables earlier [.table (valuesOfMembers last)])

/-- The members of a finished table. -/
def valuesOfMembers : List (String × Node) → List (String × Toml)
  | [] => []
  | (key, node) :: rest => (key, node.value) :: valuesOfMembers rest

/-- The values of tables that stand last first, before given ones. -/
def valuesOfTables : List (List (String × Node)) → List Toml → List Toml
  | [], after => after
  | members :: earlier, after => valuesOfTables earlier (.table (valuesOfMembers members) :: after)

end

namespace Table

/-- Change what a key stands for, or refuse to. -/
def alter? (key : String) (change : Option Node → Option Node) (contents : Table) :
    Option Table := do
  let node ← change (contents.lookup key)
  pure (Members.insert key node contents)

/-- Change the table at a path of headers. Tables that are missing come into being by implication,
and of a sequence of tables the last one is meant. -/
def alterOpened? (change : Table → Option Table) : Path → Table → Option Table
  | [], contents => change contents
  | key :: path, contents =>
    contents.alter? key fun
      | none => (alterOpened? change path []).map (.table .implied)
      | some (.table origin members) => (alterOpened? change path members).map (.table origin)
      | some (.sequence last earlier) =>
        (alterOpened? change path last).map fun last => .sequence last earlier
      | some (.closed _) => none

/-- Open a table that has no header yet and no dotted key has begun. -/
def openTable? (key : String) (contents : Table) : Option Table :=
  contents.alter? key fun
    | none => some (.table .header [])
    | some (.table .implied members) => some (.table .header members)
    | _ => none

/-- Open a new table of a sequence. -/
def openElement? (key : String) (contents : Table) : Option Table :=
  contents.alter? key fun
    | none => some (.sequence [] [])
    | some (.sequence last earlier) => some (.sequence [] (last :: earlier))
    | _ => none

/-- Give a key its only value. -/
def assignKey? (key : String) (value : Toml) (contents : Table) : Option Table :=
  contents.alter? key fun
    | none => some (.closed value)
    | some _ => none

/-- Give a dotted key its only value. The table that holds its last part has to be one that dotted
keys have made, and none on the way may have a header. -/
def assign? (value : Toml) : Path → Table → Option Table
  | [], _ => none
  | [key], contents => contents.assignKey? key value
  | key :: path, contents =>
    contents.alter? key fun
      | none => (assign? value path []).map (.table .dotted)
      | some (.table .dotted members) => (assign? value path members).map (.table .dotted)
      | some (.table .implied members) =>
        if path.length ≤ 1 then none else (assign? value path members).map (.table .implied)
      | some (.sequence last earlier) =>
        if path.length ≤ 1 then none
        else (assign? value path last).map fun last => .sequence last earlier
      | some (.table .header _) | some (.closed _) => none

/-- Split a path into what leads to its last part, and that part. -/
def splitLast? (path : Path) : Option (Path × String) :=
  path.getLast?.map fun key => (path.dropLast, key)

/-- Carry out a statement on a document, of which the table at a path is open. -/
def carryOut? : Path × Table → Statement → Option (Path × Table)
  | (_, document), .openTable path => do
    let (parent, key) ← splitLast? path
    let document ← alterOpened? (openTable? key) parent document
    pure (path, document)
  | (_, document), .openElement path => do
    let (parent, key) ← splitLast? path
    let document ← alterOpened? (openElement? key) parent document
    pure (path, document)
  | (opened, document), .assign path value => do
    let document ← alterOpened? (assign? value path) opened document
    pure (opened, document)

/-- The table that results from the statements of a document. -/
def ofStatements? (statements : List Statement) : Option Table :=
  (statements.foldlM carryOut? ([], [])).map (·.2)

/-- The table of an inline table's assignments. -/
def ofAssignments? (assignments : List (Path × Toml)) : Option Table :=
  assignments.foldlM (fun contents assignment => assign? assignment.2 assignment.1 contents) []

end Table

end Toml

end ConfigAudit
