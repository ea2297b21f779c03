import ConfigAudit.Tree.Value

/-!
# Configuration trees

A tree maps each resource kind to its instances in the order of declaration. `Tree.resources`
identifies every instance: by name if the name is told apart from all others of the kind, otherwise
by its position.
-/

namespace ConfigAudit

/-- The identity of one resource instance in a tree. -/
structure Resource where
  kind : String
  /-- The position among the instances of the kind, from zero. -/
  index : Nat
  name : Option String
deriving DecidableEq, Repr

namespace Resource

/-- `kind.name` for a named resource, `kind[index]` for any other. -/
def address (resource : Resource) : String :=
  match resource.name with
  | some name => resource.kind ++ "." ++ name
  | none => resource.kind ++ "[" ++ Numeral.text resource.index ++ "]"

end Resource

/-- Resource kinds in ascending order, each with its instances in the order of declaration. -/
structure Tree where
  kinds : List (String × List Attributes)
  sorted : Members.Sorted kinds := by exact Members.sorted_nil

namespace Attributes

/-- The attribute that carries the address under which a resource was declared. -/
def declaredAddress : String := "__address__"

/-- The text by which an instance could be named: the first entry of its declared address, else
the first entry of its `name`. -/
def candidateName? (attributes : Attributes) : Option String :=
  (attributes.text? declaredAddress).or (attributes.text? "name")

end Attributes

namespace Tree

/-- The tree without kinds. -/
def empty : Tree := { kinds := [] }

/-- Append instances to a kind, which exists from then on. -/
def declare (tree : Tree) (kind : String) (instances : List Attributes) : Tree where
  kinds := Members.update kind (fun known => known.getD [] ++ instances) tree.kinds
  sorted := tree.sorted.update kind _

/-- Append one instance to a kind. -/
def push (tree : Tree) (kind : String) (attributes : Attributes) : Tree :=
  tree.declare kind [attributes]

/-- The instances of a kind, none if it does not exist. -/
def instances (tree : Tree) (kind : String) : List Attributes :=
  (tree.kinds.lookup kind).getD []

/-- The instances of one kind with their identities. A candidate name that several of them share,
such as an unresolved variable, names none of them. -/
def resourcesOfKind (kind : String) (instances : List Attributes) :
    List (Resource × Attributes) :=
  let candidates := instances.map Attributes.candidateName?
  instances.zipIdx.map fun (attributes, index) =>
    let name := attributes.candidateName?.filter fun name => candidates.count (some name) == 1
    ({ kind, index, name }, attributes)

/-- All instances with their identities: kinds in ascending order, the instances of a kind in the
order of declaration. -/
def resources (tree : Tree) : List (Resource × Attributes) :=
  tree.kinds.flatMap fun (kind, instances) => resourcesOfKind kind instances

/-- The number of instances of all kinds. -/
def resourceCount (tree : Tree) : Nat :=
  (tree.kinds.flatMap fun entry => entry.2).length

/-- Whether there is no instance. -/
def isEmpty (tree : Tree) : Bool :=
  tree.resourceCount == 0

end Tree

end ConfigAudit
