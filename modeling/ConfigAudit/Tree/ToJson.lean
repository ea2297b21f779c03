import ConfigAudit.Tree.OfJson

/-!
# Writing a configuration tree as JSON

The document of a tree: an object of kinds, each an array of instances, each an object of
attributes, each an array of entries. A nested block and a plain map are both objects, told apart
by their members alone.
-/

namespace ConfigAudit

namespace Value

mutual

/-- The JSON value of an entry. -/
def toJson : Value → Json
  | .null => .null
  | .bool value => .bool value
  | .int value => .number (.whole value)
  | .float value => .number (.fraction value)
  | .text value => .text value
  | .list items => .array (itemsToJson items)
  | .map members => .object (membersToJson members)
  | .block attributes => .object (attributesToJson attributes)

/-- The JSON values of a sequence. -/
def itemsToJson : List Value → List Json
  | [] => []
  | item :: rest => toJson item :: itemsToJson rest

/-- The members of an object for a plain map. -/
def membersToJson : List (String × Value) → List (String × Json)
  | [] => []
  | (key, value) :: rest => (key, toJson value) :: membersToJson rest

/-- The members of an object for attributes. -/
def attributesToJson : List (String × List Value) → List (String × Json)
  | [] => []
  | (name, entries) :: rest => (name, .array (itemsToJson entries)) :: attributesToJson rest

end

end Value

namespace Tree

/-- The JSON value of an instance. -/
def instanceToJson (attributes : Attributes) : Json :=
  .object (Value.attributesToJson attributes)

/-- The JSON value of a tree. -/
def toJson (tree : Tree) : Json :=
  .object (tree.kinds.map fun (kind, instances) => (kind, .array (instances.map instanceToJson)))

end Tree

end ConfigAudit
