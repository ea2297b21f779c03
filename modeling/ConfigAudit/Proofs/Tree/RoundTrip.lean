import ConfigAudit.Proofs.Tree.Blocks
import ConfigAudit.Proofs.Tree.Shape
import ConfigAudit.Tree.ToJson

/-!
# Reading a configuration tree loses nothing

A tree is written as the document from which it was read, and what is written is read as the same
tree: `Tree.ofJson_loses_nothing`. Below the tree this is a statement about values. Reading keeps
the members and items of a value in place, so that `Value.ofJson` commutes with every step into a
value (`Value.child?_ofJson`), and therefore with every way through it (`Value.at?_ofJson`). A tree
is the block that `Value.ofJson` makes of its document.
-/

namespace ConfigAudit

namespace Json

/-- Induction on a value, given the statement for the items of an array and for the members of an
object. -/
@[elab_as_elim]
theorem inductionOn {motive : Json → Prop} (value : Json) (null : motive .null)
    (bool : ∀ value, motive (.bool value)) (number : ∀ value, motive (.number value))
    (text : ∀ value, motive (.text value))
    (array : ∀ items, (∀ item ∈ items, motive item) → motive (.array items))
    (object : ∀ members, (∀ member ∈ members, motive member.2) → motive (.object members)) :
    motive value := by
  cases value with
  | null => exact null
  | bool value => exact bool value
  | number value => exact number value
  | text value => exact text value
  | array items =>
    exact array items fun item given => inductionOn item null bool number text array object
  | object members =>
    exact object members fun member given => inductionOn member.2 null bool number text array object
termination_by sizeOf value
decreasing_by
  · have smaller := List.sizeOf_lt_of_mem given
    rw [Json.array.sizeOf_spec]
    omega
  · have smaller := List.sizeOf_lt_of_mem given
    obtain ⟨key, value⟩ := member
    rw [Prod.mk.sizeOf_spec] at smaller
    rw [Json.object.sizeOf_spec]
    dsimp only
    omega

/-! ## Whole numbers of 64 bits -/

mutual

/-- Every whole number in a value fits 64 bits with a sign. -/
def IsNarrow : Json → Prop
  | .number (.whole value) => Width.fitsSigned 64 value = true
  | .null | .bool _ | .number (.fraction _) | .text _ => True
  | .array items => AreNarrowItems items
  | .object members => AreNarrowMembers members

/-- Every whole number in the items of an array fits. -/
def AreNarrowItems : List Json → Prop
  | [] => True
  | item :: rest => IsNarrow item ∧ AreNarrowItems rest

/-- Every whole number in the members of an object fits. -/
def AreNarrowMembers : List (String × Json) → Prop
  | [] => True
  | (_, value) :: rest => IsNarrow value ∧ AreNarrowMembers rest

end

theorem areNarrowItems_iff {items : List Json} :
    AreNarrowItems items ↔ ∀ item ∈ items, item.IsNarrow := by
  induction items with
  | nil => simp [AreNarrowItems]
  | cons item items inductionHypothesis => simp [AreNarrowItems, inductionHypothesis]

theorem areNarrowMembers_iff {members : List (String × Json)} :
    AreNarrowMembers members ↔ ∀ member ∈ members, member.2.IsNarrow := by
  induction members with
  | nil => simp [AreNarrowMembers]
  | cons member members inductionHypothesis => simp [AreNarrowMembers, inductionHypothesis]

/-! ## Ways through a value -/

/-- A step from a value into it. -/
inductive Step where
  | item (position : Nat)
  | member (key : String)
deriving DecidableEq, Repr

/-- The value to which a step leads. -/
def child? (value : Json) : Step → Option Json
  | .item position => value.items[position]?
  | .member key => value.member? key

/-- The value to which a way leads. -/
def at? (value : Json) (way : List Step) : Option Json :=
  way.foldlM child? value

theorem at?_cons (value : Json) (step : Step) (way : List Step) :
    value.at? (step :: way) = (value.child? step).bind fun child => child.at? way :=
  rfl

end Json

namespace Value

/-- The value to which a step leads. The entries of an attribute are a list. -/
def child? : Value → Json.Step → Option Value
  | .list items, .item position => items[position]?
  | .map members, .member key => members.lookup key
  | .block attributes, .member name => (attributes.lookup name).map .list
  | _, _ => none

/-- The value to which a way leads. -/
def at? (value : Value) (way : List Json.Step) : Option Value :=
  way.foldlM child? value

theorem at?_cons (value : Value) (step : Json.Step) (way : List Json.Step) :
    value.at? (step :: way) = (value.child? step).bind fun child => child.at? way :=
  rfl

theorem list?_eq_some_iff {value : Value} {items : List Value} :
    value.list? = some items ↔ value = .list items := by
  cases value <;> simp [list?]

theorem eq_map_block {values : List Value} {blocks : List Attributes}
    (read : values.map block? = blocks.map some) : values = blocks.map block := by
  induction values generalizing blocks with
  | nil =>
    cases blocks with
    | nil => rfl
    | cons => exact nomatch read
  | cons value values inductionHypothesis =>
    cases blocks with
    | nil => exact nomatch read
    | cons attributes blocks =>
      obtain ⟨same, rest⟩ := List.cons.inj read
      rw [block?_eq_some_iff.1 same, inductionHypothesis rest, List.map_cons]

/-! ## Objects

Whether an object is a nested block or a plain map can be told from the values of its members, so
that these values are all there is to say of it. -/

/-- The nested block or plain map whose members have these values. -/
def objectOf (members : List (String × Value)) : Value :=
  if members.all (fun member => member.2.list?.isSome) then
    .block (members.map fun member => (member.1, member.2.list?.getD []))
  else .map members

/-- The two forms of an object, and when it has them. -/
theorem objectOf_eq (members : List (String × Value)) :
    (∀ member ∈ members, member.2.list?.isSome = true) ∧
        objectOf members =
          .block (members.map fun member => (member.1, member.2.list?.getD [])) ∨
      (∃ member ∈ members, member.2.list? = none) ∧ objectOf members = .map members := by
  unfold objectOf
  split
  case isTrue lists => exact .inl ⟨List.all_eq_true.1 lists, rfl⟩
  case isFalse noBlock =>
    refine .inr ⟨?_, rfl⟩
    simpa only [List.all_eq_true, not_forall, Bool.not_eq_true, Option.isSome_eq_false_iff,
      Option.isNone_iff_eq_none, exists_prop] using noBlock

theorem list_getD_list? {value : Value} (list : value.list?.isSome = true) :
    Value.list (value.list?.getD []) = value := by
  obtain ⟨items, found⟩ := Option.isSome_iff_exists.1 list
  rw [found, Option.getD_some, list?_eq_some_iff.1 found]

/-- A member of a nested block or plain map has the value from which it was made. -/
theorem child?_objectOf (members : List (String × Value)) (key : String) :
    (objectOf members).child? (.member key) = members.lookup key := by
  obtain ⟨lists, block⟩ | ⟨_, map⟩ := objectOf_eq members
  · rw [block, child?,
      Members.lookup_map fun value : Value => value.list?.getD [], Option.map_map]
    cases found : members.lookup key with
    | none => rfl
    | some value =>
      have list := lists _ (Members.mem_of_lookup_eq_some found)
      exact congrArg some (list_getD_list? list)
  · rw [map, child?]

theorem child?_item_objectOf (members : List (String × Value)) (position : Nat) :
    (objectOf members).child? (.item position) = none := by
  unfold objectOf
  split <;> rfl

/-! ## What is read, member by member -/

theorem ofJson_array (items : List Json) : ofJson (.array items) = .list (items.map ofJson) := by
  rw [ofJson, ofItems_eq_map]

/-- The arrays of a document are the lists of a tree. -/
theorem isSome_list?_ofJson (value : Json) : (ofJson value).list?.isSome = value.isArray := by
  cases value with
  | array items => rfl
  | object members =>
    rw [ofJson]
    split <;> rfl
  | number number =>
    rw [ofJson]
    obtain ⟨value, read⟩ | ⟨value, read⟩ := ofNumber_eq number <;> rw [read] <;> rfl
  | null | bool | text => rfl

theorem ofMembers_eq_map (members : List (String × Json)) :
    ofMembers members = members.map fun member => (member.1, ofJson member.2) := by
  induction members with
  | nil => rfl
  | cons member members inductionHypothesis =>
    rw [ofMembers, inductionHypothesis, List.map_cons]

theorem ofAttributes_eq_map {members : List (String × Json)}
    (arrays : ∀ member ∈ members, member.2.isArray = true) :
    ofAttributes members =
      members.map fun member => (member.1, (ofJson member.2).list?.getD []) := by
  induction members with
  | nil => rfl
  | cons member members inductionHypothesis =>
    obtain ⟨array, others⟩ := List.forall_mem_cons.1 arrays
    obtain ⟨name, value⟩ := member
    cases value with
    | array entries =>
      rw [ofAttributes, inductionHypothesis others, List.map_cons, ofJson]
      rfl
    | null | bool | number | text | object => exact nomatch array

theorem ofJson_object (members : List (String × Json)) :
    ofJson (.object members) =
      objectOf (members.map fun member => (member.1, ofJson member.2)) := by
  rw [ofJson, objectOf, List.all_map, ofMembers_eq_map, List.map_map]
  have same : (fun member : String × Value => member.2.list?.isSome) ∘
      (fun member : String × Json => (member.1, ofJson member.2)) =
        fun member => member.2.isArray :=
    funext fun member => isSome_list?_ofJson member.2
  rw [same]
  split
  case isTrue arrays =>
    rw [ofAttributes_eq_map (List.all_eq_true.1 arrays)]
    rfl
  case isFalse => rfl

/-- A step into a value that is read leads to what is read of the value to which it leads. -/
theorem child?_ofJson (value : Json) (step : Json.Step) :
    (ofJson value).child? step = (value.child? step).map ofJson := by
  cases value with
  | array items =>
    rw [ofJson_array]
    cases step with
    | item position => exact List.getElem?_map
    | member key => rfl
  | object members =>
    rw [ofJson_object]
    cases step with
    | item position => exact child?_item_objectOf _ position
    | member key =>
      rw [child?_objectOf, Members.lookup_map]
      rfl
  | number number =>
    rw [ofJson]
    obtain ⟨value, read⟩ | ⟨value, read⟩ := ofNumber_eq number <;> rw [read] <;>
      cases step <;> rfl
  | null | bool | text => cases step <;> rfl

/-- So does every way through it. -/
theorem at?_ofJson (value : Json) (way : List Json.Step) :
    (ofJson value).at? way = (value.at? way).map ofJson := by
  induction way generalizing value with
  | nil => rfl
  | cons step way inductionHypothesis =>
    rw [at?_cons, Json.at?_cons, child?_ofJson]
    cases value.child? step with
    | none => rfl
    | some child => exact inductionHypothesis child

/-! ## What is written, member by member -/

theorem itemsToJson_eq_map (items : List Value) : itemsToJson items = items.map toJson := by
  induction items with
  | nil => rfl
  | cons item items inductionHypothesis => rw [itemsToJson, inductionHypothesis, List.map_cons]

theorem toJson_list (items : List Value) : toJson (.list items) = .array (items.map toJson) := by
  rw [toJson, itemsToJson_eq_map]

theorem membersToJson_eq_map (members : List (String × Value)) :
    membersToJson members = members.map fun member => (member.1, toJson member.2) := by
  induction members with
  | nil => rfl
  | cons member members inductionHypothesis =>
    rw [membersToJson, inductionHypothesis, List.map_cons]

theorem attributesToJson_eq_map (attributes : Attributes) :
    attributesToJson attributes =
      attributes.map fun member => (member.1, toJson (.list member.2)) := by
  induction attributes with
  | nil => rfl
  | cons member attributes inductionHypothesis =>
    rw [attributesToJson, inductionHypothesis, List.map_cons, toJson]

/-- Nested blocks and plain maps are written alike. -/
theorem toJson_objectOf (members : List (String × Value)) :
    toJson (objectOf members) = .object (members.map fun member => (member.1, toJson member.2)) := by
  obtain ⟨lists, block⟩ | ⟨_, map⟩ := objectOf_eq members
  · rw [block, toJson, attributesToJson_eq_map, List.map_map]
    refine congrArg Json.object (List.map_congr_left fun member given => ?_)
    rw [Function.comp_apply, list_getD_list? (lists member given)]
  · rw [map, toJson, membersToJson_eq_map]

/-! ## Round trips of values -/

/-- What was read is written as a document that is read alike. -/
theorem ofJson_toJson_ofJson (value : Json) : ofJson (toJson (ofJson value)) = ofJson value := by
  induction value using Json.inductionOn with
  | null | bool | text => rfl
  | number number =>
    cases number with
    | fraction value => rfl
    | whole value =>
      rw [ofJson, ofNumber]
      split
      case isTrue fits => rw [toJson, ofJson, ofNumber, if_pos fits]
      case isFalse => rfl
  | array items inductionHypothesis =>
    rw [ofJson_array, toJson_list, ofJson_array, List.map_map, List.map_map]
    exact congrArg Value.list (List.map_congr_left inductionHypothesis)
  | object members inductionHypothesis =>
    rw [ofJson_object, toJson_objectOf, ofJson_object, List.map_map, List.map_map]
    refine congrArg objectOf (List.map_congr_left fun member given => ?_)
    exact congrArg (Prod.mk member.1) (inductionHypothesis member given)

/-- What was read is written as it stood in the document, if no whole number was too wide. -/
theorem toJson_ofJson {value : Json} (narrow : value.IsNarrow) :
    toJson (ofJson value) = value := by
  induction value using Json.inductionOn with
  | null | bool | text => rfl
  | number number =>
    cases number with
    | fraction value => rfl
    | whole value =>
      rw [Json.IsNarrow] at narrow
      rw [ofJson, ofNumber, if_pos narrow, toJson]
  | array items inductionHypothesis =>
    rw [Json.IsNarrow, Json.areNarrowItems_iff] at narrow
    rw [ofJson_array, toJson_list, List.map_map]
    refine congrArg Json.array ((List.map_congr_left fun item given => ?_).trans (List.map_id _))
    exact inductionHypothesis item given (narrow item given)
  | object members inductionHypothesis =>
    rw [Json.IsNarrow, Json.areNarrowMembers_iff] at narrow
    rw [ofJson_object, toJson_objectOf, List.map_map]
    refine congrArg Json.object ((List.map_congr_left fun member given => ?_).trans (List.map_id _))
    exact congrArg (Prod.mk member.1) (inductionHypothesis member given (narrow member given))

/-! ## The form of what is read -/

/-- A value has the form that the value of a document asks for. An object is a nested block if its
members are all arrays, and otherwise a plain map, which then has a member that is no list. A whole
number that does not fit 64 bits with a sign is a floating-point number. -/
inductive Mirrors : Value → Json → Prop where
  | null : Mirrors .null .null
  | bool (value : Bool) : Mirrors (.bool value) (.bool value)
  | int {number : Int} (fits : Width.fitsSigned 64 number = true) :
    Mirrors (.int number) (.number (.whole number))
  | wide {number : Int} (exceeds : Width.fitsSigned 64 number = false) (rounded : Binary64) :
    Mirrors (.float rounded) (.number (.whole number))
  | float (number : Binary64) : Mirrors (.float number) (.number (.fraction number))
  | text (value : String) : Mirrors (.text value) (.text value)
  | list {values : List Value} {items : List Json} (length : values.length = items.length) :
    Mirrors (.list values) (.array items)
  | block {attributes : Attributes} {members : List (String × Json)}
    (names : attributes.map Prod.fst = members.map Prod.fst)
    (arrays : ∀ member ∈ members, member.2.isArray = true) :
    Mirrors (.block attributes) (.object members)
  | map {values : List (String × Value)} {members : List (String × Json)}
    (names : values.map Prod.fst = members.map Prod.fst)
    (noBlock : ∃ member ∈ members, member.2.isArray = false)
    (noList : ∃ member ∈ values, member.2.list? = none) :
    Mirrors (.map values) (.object members)

theorem mirrors_ofJson (value : Json) : Mirrors (ofJson value) value := by
  cases value with
  | null => exact .null
  | bool value => exact .bool value
  | text value => exact .text value
  | number number =>
    cases number with
    | fraction value => exact .float value
    | whole value =>
      rw [ofJson, ofNumber]
      split
      case isTrue fits => exact .int fits
      case isFalse exceeds => exact .wide (Bool.eq_false_iff.2 exceeds) _
  | array items =>
    rw [ofJson_array]
    exact .list (List.length_map ofJson)
  | object members =>
    rw [ofJson_object]
    obtain ⟨lists, block⟩ | ⟨noBlock, map⟩ :=
      objectOf_eq (members.map fun member => (member.1, ofJson member.2))
    · rw [block]
      refine .block ?_ fun member given => ?_
      · rw [List.map_map, List.map_map]
        rfl
      · rw [← isSome_list?_ofJson]
        exact lists _ (List.mem_map_of_mem given)
    · rw [map]
      obtain ⟨_, given, noList⟩ := noBlock
      obtain ⟨member, ofDocument, rfl⟩ := List.mem_map.1 given
      refine .map ?_ ⟨member, ofDocument, ?_⟩ ⟨_, given, noList⟩
      · rw [List.map_map]
        rfl
      · rw [← isSome_list?_ofJson, noList]
        rfl

end Value

namespace Tree

/-! ## Trees as values -/

/-- The kinds of a tree as attributes, each with its instances as entries. -/
def asAttributes (tree : Tree) : Attributes :=
  tree.kinds.map fun (kind, instances) => (kind, instances.map Value.block)

/-- A tree as the nested block of its kinds. -/
def asBlock (tree : Tree) : Value :=
  .block tree.asAttributes

theorem asBlock_injective {tree other : Tree} (same : tree.asBlock = other.asBlock) :
    tree = other := by
  have sameKinds : tree.kinds = other.kinds := by
    refine (List.map_inj_right ?_).1 (Value.block.inj same)
    rintro ⟨kind, instances⟩ ⟨otherKind, otherInstances⟩ equal
    obtain ⟨sameKind, sameInstances⟩ := Prod.mk.inj equal
    exact Prod.ext sameKind ((List.map_inj_right fun _ _ => Value.block.inj).1 sameInstances)
  cases tree
  cases other
  cases sameKinds
  rfl

theorem toJson_asBlock (tree : Tree) : tree.asBlock.toJson = tree.toJson := by
  rw [asBlock, Value.toJson, Value.attributesToJson_eq_map, asAttributes, toJson, List.map_map]
  refine congrArg Json.object (List.map_congr_left fun entry _ => ?_)
  have instances : (entry.2.map Value.block).map Value.toJson = entry.2.map instanceToJson := by
    rw [List.map_map]
    refine List.map_congr_left fun attributes _ => ?_
    rw [Function.comp_apply, Value.toJson, instanceToJson]
  rw [Function.comp_apply, Value.toJson_list, instances]

theorem asAttributes_declare {tree : Tree} {kind : String}
    (above : ∀ entry ∈ tree.kinds, entry.1 < kind) (instances : List Attributes) :
    (tree.declare kind instances).asAttributes =
      tree.asAttributes ++ [(kind, instances.map Value.block)] := by
  have kinds : (tree.declare kind instances).kinds = tree.kinds ++ [(kind, instances)] :=
    Members.update_eq_append above _
  rw [asAttributes, kinds, List.map_append]
  rfl

/-- The instances of a kind are the entries that stand under it. -/
theorem map_block_of_instancesOfJson {kind : String} {value : Json} {instances : List Attributes}
    (read : instancesOfJson kind value = .ok instances) :
    (Value.ofJson value).list?.getD [] = instances.map Value.block := by
  cases value with
  | array items =>
    have blocks : (items.map Value.ofJson).map Value.block? = instances.map some := by
      rw [List.map_map]
      exact map_instancesOfJson read
    rw [Value.ofJson_array]
    exact Value.eq_map_block blocks
  | null | bool | number | text | object => exact nomatch read

/-- Declaring kinds in order appends what stands under each. -/
theorem asAttributes_of_declareAll {members : List (String × Json)}
    (sorted : Members.Sorted members) {tree final : Tree}
    (above : ∀ entry ∈ tree.kinds, ∀ member ∈ members, entry.1 < member.1)
    (declared : declareAll tree members = .ok final) :
    final.asAttributes = tree.asAttributes ++
      members.map fun member => (member.1, (Value.ofJson member.2).list?.getD []) := by
  induction members generalizing tree with
  | nil =>
    cases declared
    exact (List.append_nil _).symm
  | cons member members inductionHypothesis =>
    obtain ⟨kind, value⟩ := member
    obtain ⟨below, sortedRest⟩ := List.pairwise_cons.1 sorted
    rw [declareAll] at declared
    obtain ⟨instances, read, declared⟩ := bind_eq_ok.1 declared
    have aboveKind : ∀ entry ∈ tree.kinds, entry.1 < kind :=
      fun entry known => above entry known _ List.mem_cons_self
    have aboveRest : ∀ entry ∈ (tree.declare kind instances).kinds, ∀ member ∈ members,
        entry.1 < member.1 := by
      intro entry known member given
      rcases Members.mem_update known with same | known
      · exact same ▸ below member given
      · exact above entry known member (List.mem_cons_of_mem _ given)
    rw [inductionHypothesis sortedRest aboveRest declared, asAttributes_declare aboveKind,
      List.map_cons, map_block_of_instancesOfJson read, List.append_assoc, List.singleton_append]

/-- A tree is the nested block that its document is. -/
theorem ofJson_eq_asBlock {document : Json} (sorted : Members.Sorted document.members)
    {tree : Tree} (read : ofJson document = .ok tree) : Value.ofJson document = tree.asBlock := by
  obtain ⟨kinds, rfl, ofKinds⟩ := exists_ofJson_eq_ok_iff.1 ⟨tree, read⟩
  have arrays : ∀ member ∈ kinds, member.2.isArray = true := by
    intro member given
    obtain ⟨instances, same, _⟩ := ofKinds member given
    rw [same, Json.isArray]
  have above : ∀ entry ∈ empty.kinds, ∀ member ∈ kinds, entry.1 < member.1 :=
    fun _ known => absurd known List.not_mem_nil
  have attributes := asAttributes_of_declareAll sorted above read
  rw [asBlock, attributes, Value.ofJson, if_pos (List.all_eq_true.2 arrays),
    Value.ofAttributes_eq_map arrays]
  rfl

theorem hasTreeShape_toJson (tree : Tree) : tree.toJson.HasTreeShape := by
  refine ⟨_, rfl, fun member given => ?_⟩
  obtain ⟨entry, _, rfl⟩ := List.mem_map.1 given
  refine ⟨_, rfl, fun item given => ?_⟩
  obtain ⟨attributes, _, rfl⟩ := List.mem_map.1 given
  refine ⟨_, rfl, fun member given => ?_⟩
  rw [Value.attributesToJson_eq_map] at given
  obtain ⟨member, _, rfl⟩ := List.mem_map.1 given
  exact ⟨_, Value.toJson_list member.2⟩

theorem sorted_members_toJson (tree : Tree) : Members.Sorted tree.toJson.members :=
  List.pairwise_map.2 tree.sorted

/-- What is written of a tree that was read is read as the same tree. -/
theorem ofJson_toJson {document : Json} (canonical : document.Canonical) {tree : Tree}
    (read : ofJson document = .ok tree) : ofJson tree.toJson = .ok tree := by
  obtain ⟨again, readAgain⟩ := exists_ofJson_eq_ok_iff.2 tree.hasTreeShape_toJson
  have same : again.asBlock = tree.asBlock := by
    calc again.asBlock
      _ = Value.ofJson tree.toJson := (ofJson_eq_asBlock tree.sorted_members_toJson readAgain).symm
      _ = Value.ofJson (Value.ofJson document).toJson := by
        rw [ofJson_eq_asBlock canonical.sorted_members read, toJson_asBlock]
      _ = Value.ofJson document := Value.ofJson_toJson_ofJson document
      _ = tree.asBlock := ofJson_eq_asBlock canonical.sorted_members read
  rw [readAgain, asBlock_injective same]

/-- A tree whose whole numbers all fit is written as the document from which it was read. -/
theorem toJson_of_ofJson {document : Json} (canonical : document.Canonical)
    (narrow : document.IsNarrow) {tree : Tree} (read : ofJson document = .ok tree) :
    tree.toJson = document := by
  rw [← toJson_asBlock, ← ofJson_eq_asBlock canonical.sorted_members read,
    Value.toJson_ofJson narrow]

/-- A tree is written as the document from which it was read if every whole number of the document
fits 64 bits with a sign, so that no other such document is read as this tree. What is written of
any tree that was read is read as the same tree. A way leads to a value of the tree iff it leads to
one of the document, and the value has the form that the document asks for. -/
theorem ofJson_loses_nothing {document : Json} (canonical : document.Canonical) {tree : Tree}
    (read : ofJson document = .ok tree) :
    (document.IsNarrow →
        tree.toJson = document ∧
          ∀ other : Json, other.Canonical → other.IsNarrow → ofJson other = .ok tree →
            other = document) ∧
      ofJson tree.toJson = .ok tree ∧
      ∀ way, Option.Rel Value.Mirrors (tree.asBlock.at? way) (document.at? way) := by
  refine ⟨fun narrow => ⟨toJson_of_ofJson canonical narrow read, ?_⟩,
    ofJson_toJson canonical read, fun way => ?_⟩
  · intro other otherCanonical otherNarrow otherRead
    exact (toJson_of_ofJson otherCanonical otherNarrow otherRead).symm.trans
      (toJson_of_ofJson canonical narrow read)
  · rw [← ofJson_eq_asBlock canonical.sorted_members read, Value.at?_ofJson]
    cases document.at? way with
    | none => exact .none
    | some value => exact .some (Value.mirrors_ofJson value)

/-- A block stands in a map, that in a list, and a block without attributes in the block. -/
theorem ofJson_loses_nothing_of_nested_objects :
    let block : Json := .object [("x", .array [.object []]), ("y", .array [.number (.whole (-1))])]
    let map : Json := .object [("x", .array []), ("y", block)]
    let document : Json := .object [("kind", .array [.object [("name", .array [.array [map]])]])]
    let way : List Json.Step :=
      [.member "kind", .item 0, .member "name", .item 0, .item 0, .member "y"]
    ∃ tree, document.Canonical ∧ document.IsNarrow ∧ ofJson document = .ok tree ∧
      tree.toJson = document ∧ ofJson tree.toJson = .ok tree ∧ document.at? way = some block ∧
        ∃ value, tree.asBlock.at? way = some value ∧ value.Mirrors block := by
  intro block map document way
  have canonical : document.Canonical := by
    simp only [document, map, block, Json.Canonical, Json.CanonicalMembers, Json.CanonicalItems]
    decide
  have narrow : document.IsNarrow := by
    simp only [document, map, block, Json.IsNarrow, Json.AreNarrowMembers, Json.AreNarrowItems]
    decide
  obtain ⟨tree, read⟩ : ∃ tree, ofJson document = .ok tree := ⟨_, rfl⟩
  obtain ⟨written, readAgain, mirrors⟩ := ofJson_loses_nothing canonical read
  have found : document.at? way = some block := by rfl
  have mirrored := mirrors way
  rw [found] at mirrored
  cases leads : tree.asBlock.at? way with
  | none =>
    rw [leads] at mirrored
    cases mirrored
  | some value =>
    rw [leads] at mirrored
    cases mirrored with | some mirrored =>
    exact ⟨tree, canonical, narrow, read, (written narrow).1, readAgain, found, value, leads,
      mirrored⟩

end Tree

end ConfigAudit
