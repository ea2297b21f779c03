import ConfigAudit.Proofs.Except
import ConfigAudit.Proofs.Tree.Resources
import ConfigAudit.Tree.OfJson

/-!
# What a configuration tree says of its document

An instance of a tree is a nested block like any other, and an attribute has the entries that stand
in the document under its name. `Json.entries`, `Json.isBlock` and `Json.HasText` say of a document
what `Attributes.get`, `Value.block?` and `Value.leafTexts` say of what is read from it.
-/

namespace ConfigAudit

namespace Json

/-- The items of an array; none in any other value. -/
def items : Json → List Json
  | .array items => items
  | _ => []

/-- The items of the array that an object has under a name; none if it has no such array. -/
def entries (name : String) (value : Json) : List Json :=
  (value.member? name).elim [] items

/-- Whether a value is an object whose members are all arrays. -/
def isBlock : Json → Bool
  | .object members => members.all fun member => member.2.isArray
  | _ => false

/-- The text as which a truth value, a number or a text reads. -/
def scalarText? : Json → Option String
  | .text value => some value
  | .number value => (Value.ofNumber value).scalarText?
  | .bool true => some "true"
  | .bool false => some "false"
  | .null | .array _ | .object _ => none

/-- A text stands in a value, at any depth of nested arrays. -/
inductive HasText (text : String) : Json → Prop where
  | scalar {value : Json} (reads : value.scalarText? = some text) : HasText text value
  | item {items : List Json} {item : Json} (member : item ∈ items) (inside : HasText text item) :
    HasText text (.array items)

theorem entries_object_cons (name key : String) (value : Json) (members : List (String × Json)) :
    (Json.object ((key, value) :: members)).entries name =
      if name = key then value.items else (Json.object members).entries name := by
  rw [entries, entries, member?, member?]
  split
  case isTrue same =>
    rw [same, List.lookup_cons_self]
    rfl
  case isFalse different => rw [Members.lookup_cons_of_ne different]

theorem hasText_array {text : String} {items : List Json} :
    (Json.array items).HasText text ↔ ∃ item ∈ items, item.HasText text := by
  constructor
  · rintro (⟨reads⟩ | ⟨member, inside⟩)
    · exact nomatch reads
    · exact ⟨_, member, inside⟩
  · rintro ⟨_, member, inside⟩
    exact .item member inside

theorem hasText_iff_of_isArray {text : String} {value : Json} (noArray : value.isArray = false) :
    value.HasText text ↔ value.scalarText? = some text := by
  constructor
  · rintro (⟨reads⟩ | ⟨_, _⟩)
    · exact reads
    · exact nomatch noArray
  · exact .scalar

end Json

namespace Value

/-! ## Entries -/

theorem ofItems_eq_map (items : List Json) : ofItems items = items.map ofJson := by
  induction items with
  | nil => rfl
  | cons item items inductionHypothesis => rw [ofItems, inductionHypothesis, List.map_cons]

theorem scalarText?_ofJson (value : Json) : (ofJson value).scalarText? = value.scalarText? := by
  cases value with
  | bool value => cases value <;> rfl
  | object members =>
    rw [ofJson]
    split <;> rfl
  | null | number | text | array => rfl

theorem ofNumber_eq (number : JsonNumber) :
    (∃ value, ofNumber number = .int value) ∨ ∃ value, ofNumber number = .float value := by
  cases number with
  | whole value =>
    rw [ofNumber]
    split
    · exact .inl ⟨_, rfl⟩
    · exact .inr ⟨_, rfl⟩
  | fraction value => exact .inr ⟨value, rfl⟩

theorem leafTexts_ofJson_of_isArray {value : Json} (noArray : value.isArray = false) :
    (ofJson value).leafTexts = value.scalarText?.toList := by
  rw [← scalarText?_ofJson]
  cases value with
  | array => exact nomatch noArray
  | object members =>
    rw [ofJson]
    split <;> rfl
  | number number =>
    rw [ofJson]
    obtain ⟨value, read⟩ | ⟨value, read⟩ := ofNumber_eq number <;> rw [read] <;> rfl
  | null | bool | text => rfl

theorem ofJson_eq_bool_iff {value : Json} {truth : Bool} :
    Value.ofJson value = .bool truth ↔ value = .bool truth := by
  cases value with
  | number number =>
    rw [Value.ofJson]
    obtain ⟨value, read⟩ | ⟨value, read⟩ := Value.ofNumber_eq number <;> simp [read]
  | object members =>
    rw [Value.ofJson]
    split <;> simp
  | null | bool | text | array => simp [Value.ofJson]

theorem ofJson_eq_text_iff {value : Json} {characters : String} :
    Value.ofJson value = .text characters ↔ value = .text characters := by
  cases value with
  | number number =>
    rw [Value.ofJson]
    obtain ⟨value, read⟩ | ⟨value, read⟩ := Value.ofNumber_eq number <;> simp [read]
  | object members =>
    rw [Value.ofJson]
    split <;> simp
  | null | bool | text | array => simp [Value.ofJson]

mutual

/-- The texts of a value that is read are those that stand in the document. -/
theorem mem_leafTexts_ofJson {text : String} (value : Json) :
    text ∈ (ofJson value).leafTexts ↔ value.HasText text := by
  match value with
  | .array items =>
    rw [ofJson, leafTexts, mem_leafTexts_ofItems items, Json.hasText_array]
  | .null | .bool _ | .number _ | .text _ | .object _ =>
    rw [leafTexts_ofJson_of_isArray rfl, Json.hasText_iff_of_isArray rfl, Option.mem_toList]

theorem mem_leafTexts_ofItems {text : String} (items : List Json) :
    text ∈ leafTextsOfAll (ofItems items) ↔ ∃ item ∈ items, item.HasText text := by
  match items with
  | [] => simp [ofItems, leafTextsOfAll]
  | item :: items =>
    simp [ofItems, leafTextsOfAll, mem_leafTexts_ofJson item, mem_leafTexts_ofItems items]

end

mutual

/-- Every entry is read, whatever stands in it. A nested block is read as such only if each of its
attributes is an array, so that none of them is refused. -/
theorem read_eq_ok (path : String) (value : Json) : read path value = .ok (ofJson value) := by
  match value with
  | .null | .bool _ | .number _ | .text _ => rfl
  | .array items =>
    rw [read, readItems_eq_ok path 0 items, ofJson]
    rfl
  | .object members =>
    rw [read, ofJson]
    split
    case isTrue arrays =>
      rw [readAttributes_eq_ok path members arrays]
      rfl
    case isFalse =>
      rw [readMembers_eq_ok path members]
      rfl

theorem readItems_eq_ok (path : String) (position : Nat) (items : List Json) :
    readItems path position items = .ok (ofItems items) := by
  match items with
  | [] => rfl
  | item :: items =>
    rw [readItems, read_eq_ok _ item, readItems_eq_ok path (position + 1) items, ofItems]
    rfl

theorem readMembers_eq_ok (path : String) (members : List (String × Json)) :
    readMembers path members = .ok (ofMembers members) := by
  match members with
  | [] => rfl
  | (key, value) :: members =>
    rw [readMembers, read_eq_ok _ value, readMembers_eq_ok path members, ofMembers]
    rfl

theorem readAttributes_eq_ok (path : String) (members : List (String × Json))
    (arrays : members.all (fun member => member.2.isArray) = true) :
    readAttributes path members = .ok (ofAttributes members) := by
  match members with
  | [] => rfl
  | (name, .array entries) :: members =>
    rw [readAttributes, readItems_eq_ok _ 0 entries, readAttributes_eq_ok path members arrays,
      ofAttributes]
    rfl
  | (_, .null) :: _ | (_, .bool _) :: _ | (_, .number _) :: _ | (_, .text _) :: _
  | (_, .object _) :: _ => exact nomatch arrays

end

/-! ## Blocks -/

theorem block?_ofJson_object (members : List (String × Json)) :
    (ofJson (.object members)).block? =
      if (Json.object members).isBlock then some (ofAttributes members) else none := by
  rw [ofJson, Json.isBlock]
  split <;> rfl

/-- A value is read as a nested block if its members are all arrays. -/
theorem isSome_block?_ofJson (value : Json) : (ofJson value).block?.isSome = value.isBlock := by
  cases value with
  | object members =>
    rw [block?_ofJson_object]
    cases (Json.object members).isBlock <;> rfl
  | number number =>
    rw [ofJson]
    obtain ⟨value, read⟩ | ⟨value, read⟩ := ofNumber_eq number <;> rw [read] <;> rfl
  | null | bool | text | array => rfl

/-- Exactly the attributes that are arrays are read. -/
theorem get_ofAttributes {members : List (String × Json)}
    (arrays : ∀ member ∈ members, member.2.isArray = true) (name : String) :
    Attributes.get (ofAttributes members) name =
      ((Json.object members).entries name).map ofJson := by
  induction members with
  | nil => rfl
  | cons member members inductionHypothesis =>
    obtain ⟨array, others⟩ := List.forall_mem_cons.1 arrays
    obtain ⟨key, value⟩ := member
    cases value with
    | array items =>
      rw [Json.entries_object_cons]
      split
      case isTrue same =>
        rw [ofAttributes, Attributes.get, same, List.lookup_cons_self]
        exact ofItems_eq_map items
      case isFalse different =>
        rw [ofAttributes, Attributes.get, Members.lookup_cons_of_ne different]
        exact inductionHypothesis others
    | null | bool | number | text | object => exact nomatch array

/-- The attributes of a nested block have the entries that stand in the document. -/
theorem get_of_block?_ofJson {value : Json} {attributes : Attributes}
    (block : (ofJson value).block? = some attributes) (name : String) :
    attributes.get name = (value.entries name).map ofJson := by
  have isBlock : value.isBlock = true := by
    rw [← isSome_block?_ofJson, block, Option.isSome_some]
  cases value with
  | object members =>
    rw [block?_ofJson_object, if_pos isBlock, Option.some.injEq] at block
    rw [← block]
    exact get_ofAttributes (List.all_eq_true.1 isBlock) name
  | null | bool | number | text | array => exact nomatch isBlock

end Value

namespace Tree

/-! ## Instances -/

/-- What stands in the array of an attribute is no reason for refusing it. -/
theorem attributeOfJson_array (kind : String) (index : Nat) (name : String) (entries : List Json) :
    attributeOfJson kind index (name, .array entries) = .ok (name, Value.ofItems entries) := by
  rw [attributeOfJson, Value.readItems_eq_ok]
  rfl

/-- An instance is read as the nested block that it is. -/
theorem toOption_instanceOfJson (kind : String) (item : Json) (index : Nat) :
    (instanceOfJson kind (item, index)).toOption = (Value.ofJson item).block? := by
  cases item with
  | object members =>
    rw [instanceOfJson, Value.block?_ofJson_object, Json.isBlock]
    induction members with
    | nil => rfl
    | cons member members inductionHypothesis =>
      obtain ⟨name, value⟩ := member
      rw [List.mapM_cons]
      cases value with
      | array items =>
        rw [List.all_cons, Json.isArray, Bool.true_and, Value.ofAttributes, attributeOfJson_array]
        cases read : members.mapM (attributeOfJson kind index) with
        | error error =>
          rw [read] at inductionHypothesis
          split at inductionHypothesis
          · exact nomatch inductionHypothesis
          case isFalse none => rw [if_neg none]; rfl
        | ok attributes =>
          rw [read] at inductionHypothesis
          split at inductionHypothesis
          case isTrue arrays =>
            rw [if_pos arrays]
            cases inductionHypothesis
            rfl
          · exact nomatch inductionHypothesis
      | null | bool | number | text | object => rfl
  | number number =>
    rw [Value.ofJson]
    obtain ⟨value, read⟩ | ⟨value, read⟩ := Value.ofNumber_eq number <;> rw [read] <;> rfl
  | null | bool | text | array => rfl

/-- The instances of a kind are the nested blocks that stand under it. -/
theorem map_instancesOfJson {kind : String} {value : Json} {instances : List Attributes}
    (read : instancesOfJson kind value = .ok instances) :
    value.items.map (fun item => (Value.ofJson item).block?) = instances.map some := by
  cases value with
  | array items =>
    have each := congrArg (List.map Except.toOption) (mapM_eq_ok.1 read)
    rw [List.map_map, List.map_map] at each
    have blocks : items.zipIdx.map (Except.toOption ∘ instanceOfJson kind) =
        (items.zipIdx.map Prod.fst).map fun item => (Value.ofJson item).block? := by
      rw [List.map_map]
      exact List.map_congr_left fun entry _ => toOption_instanceOfJson kind entry.1 entry.2
    rw [blocks, List.zipIdx_map_fst] at each
    exact each
  | null | bool | number | text | object => exact nomatch read

/-- Declaring the kinds of an object, each given once, appends what stands under each. -/
theorem map_instances_of_declareAll {members : List (String × Json)}
    (sorted : Members.Sorted members) {tree final : Tree}
    (declared : declareAll tree members = .ok final) (kind : String) :
    (final.instances kind).map some =
      (tree.instances kind).map some ++
        ((Json.object members).entries kind).map fun item => (Value.ofJson item).block? := by
  induction members generalizing tree with
  | nil =>
    cases declared
    exact (List.append_nil _).symm
  | cons member members inductionHypothesis =>
    obtain ⟨key, value⟩ := member
    obtain ⟨below, sortedRest⟩ := List.pairwise_cons.1 sorted
    rw [declareAll] at declared
    obtain ⟨instances, read, declared⟩ := bind_eq_ok.1 declared
    rw [inductionHypothesis sortedRest declared, instances_declare, Json.entries_object_cons]
    split
    case isTrue same =>
      have absent : (Json.object members).entries kind = [] := by
        rw [Json.entries, Json.member?, Members.lookup_eq_none_of_lt (same ▸ below)]
        rfl
      rw [absent, List.map_append, map_instancesOfJson read, List.map_nil, List.append_nil]
    case isFalse => rfl

/-- The instances of a kind are the nested blocks that the document holds under it. -/
theorem map_instances_of_ofJson {document : Json} (canonical : document.Canonical) {tree : Tree}
    (read : ofJson document = .ok tree) (kind : String) :
    (tree.instances kind).map some =
      (document.entries kind).map fun item => (Value.ofJson item).block? := by
  cases document with
  | object members => exact map_instances_of_declareAll canonical.1 read kind
  | null | bool | number | text | array => exact nomatch read

/-- What can be said of the instances of a kind can be said of the blocks under it. -/
theorem exists_instance_iff {document : Json} (canonical : document.Canonical) {tree : Tree}
    (read : ofJson document = .ok tree) {kind : String} {holds : Attributes → Prop}
    {declares : Json → Prop}
    (agree : ∀ {item attributes}, (Value.ofJson item).block? = some attributes →
      (holds attributes ↔ declares item)) :
    (∃ attributes ∈ tree.instances kind, holds attributes) ↔
      ∃ item ∈ document.entries kind, declares item := by
  have same := map_instances_of_ofJson canonical read kind
  constructor
  · rintro ⟨attributes, member, holds⟩
    have known : some attributes ∈ (tree.instances kind).map some := List.mem_map_of_mem member
    rw [same] at known
    obtain ⟨item, ofDocument, block⟩ := List.mem_map.1 known
    exact ⟨item, ofDocument, (agree block).1 holds⟩
  · rintro ⟨item, ofDocument, declared⟩
    have known : (Value.ofJson item).block? ∈ (tree.instances kind).map some :=
      same ▸ List.mem_map_of_mem ofDocument
    obtain ⟨attributes, member, block⟩ := List.mem_map.1 known
    exact ⟨attributes, member, (agree block.symm).2 declared⟩

end Tree

end ConfigAudit
