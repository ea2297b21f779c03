import Mathlib.Data.List.Forall2
import ConfigAudit.Proofs.Tree.RoundTrip

/-!
# Two ways of asking for nested blocks

`Attributes.blocks` passes over the entries of an attribute that are no nested blocks, and
`Attributes.blocks?` complains of the first of them. The two say the same of entries that are
nothing but nested blocks, and one can be told from the other in all cases
(`Attributes.blocks_agree_unless_stray`). In a tree that was read, an entry is a nested block iff it
is an object of arrays in the document.
-/

namespace ConfigAudit

namespace Json

/-- A value is an object whose members are all arrays. -/
def IsObjectOfArrays (value : Json) : Prop :=
  ∃ members, value = .object members ∧ ∀ member ∈ members, ∃ items, member.2 = .array items

theorem isArray_iff {value : Json} : value.isArray = true ↔ ∃ items, value = .array items := by
  cases value <;> simp [isArray]

theorem isBlock_iff {value : Json} : value.isBlock = true ↔ value.IsObjectOfArrays := by
  cases value with
  | object members => simp [isBlock, IsObjectOfArrays, isArray_iff]
  | null | bool | number | text | array => simp [isBlock, IsObjectOfArrays]

end Json

namespace Value

instance (value : Value) : Decidable value.IsBlock :=
  decidable_of_iff _ isSome_block?_iff

/-- A value is read as a nested block iff it is an object of arrays. -/
theorem isBlock_ofJson_iff {value : Json} : (ofJson value).IsBlock ↔ value.IsObjectOfArrays := by
  rw [← isSome_block?_iff, isSome_block?_ofJson, Json.isBlock_iff]

/-- The nested blocks among some values are those values that are nested blocks. -/
theorem map_block_filterMap (values : List Value) :
    (values.filterMap block?).map block = values.filter fun value => value.IsBlock := by
  induction values with
  | nil => rfl
  | cons value values inductionHypothesis =>
    rw [List.filter_cons]
    by_cases isBlock : value.IsBlock
    · rw [if_pos (decide_eq_true isBlock)]
      obtain ⟨attributes, rfl⟩ := isBlock
      rw [List.filterMap_cons_some (block?_eq_some_iff.2 rfl), List.map_cons, inductionHypothesis]
    · rw [if_neg (by simpa using isBlock), List.filterMap_cons_none (block?_eq_none_iff.2 isBlock),
        inductionHypothesis]

end Value

namespace Attributes

variable {attributes : Attributes} {name : String}

/-- All entries are given iff they are nothing but nested blocks. -/
theorem blocks?_eq_ok_iff {blocks : List Attributes} :
    attributes.blocks? name = .ok blocks ↔ attributes.get name = blocks.map .block := by
  refine ⟨fun given => ?_, blocks?_of_map_block⟩
  rcases Value.exists_blocks_or_exists_firstStrayAt (attributes.get name) with
    ⟨others, areBlocks⟩ | ⟨position, stray⟩
  · rw [blocks?_of_map_block areBlocks] at given
    cases given
    exact areBlocks
  · rw [blocks?_of_firstStrayAt stray] at given
    cases given

/-- A complaint is about the first entry that is no nested block. -/
theorem blocks?_eq_error_iff {fault : RuleFault} :
    attributes.blocks? name = .error fault ↔
      ∃ position, Value.FirstStrayAt (attributes.get name) position ∧
        fault = .strayEntry name position := by
  constructor
  · intro refused
    rcases Value.exists_blocks_or_exists_firstStrayAt (attributes.get name) with
      ⟨blocks, areBlocks⟩ | ⟨position, stray⟩
    · rw [blocks?_of_map_block areBlocks] at refused
      cases refused
    · rw [blocks?_of_firstStrayAt stray] at refused
      cases refused
      exact ⟨position, stray, rfl⟩
  · rintro ⟨position, stray, rfl⟩
    exact blocks?_of_firstStrayAt stray

theorem exists_blocks?_eq_ok_iff :
    (∃ blocks, attributes.blocks? name = .ok blocks) ↔
      ∀ entry ∈ attributes.get name, entry.IsBlock := by
  simp only [blocks?_eq_ok_iff, Value.forall_isBlock_iff]

/-- Passing over entries makes no difference if all of them are nested blocks. -/
theorem blocks_of_blocks?_eq_ok {blocks : List Attributes}
    (given : attributes.blocks? name = .ok blocks) :
    attributes.blocks name = blocks ∧ blocks.length = (attributes.get name).length := by
  rw [Attributes.blocks, blocks?_eq_ok_iff.1 given, List.filterMap_map, List.length_map]
  have each : Value.block? ∘ Value.block = some := funext fun _ => rfl
  exact ⟨by rw [each, List.filterMap_some], rfl⟩

end Attributes

namespace Tree

/-- The instances of a tree are the nested blocks under their kinds. -/
theorem at?_asBlock_instance (tree : Tree) (kind : String) (index : Nat) :
    tree.asBlock.at? [.member kind, .item index] =
      ((tree.instances kind)[index]?).map .block := by
  have ofKind : tree.asBlock.child? (.member kind) =
      (tree.kinds.lookup kind).map fun instances => .list (instances.map .block) := by
    rw [asBlock, asAttributes, Value.child?, Members.lookup_map, Option.map_map]
    rfl
  rw [Value.at?_cons, ofKind, instances]
  cases tree.kinds.lookup kind with
  | none => rfl
  | some instances =>
    rw [Option.map_some, Option.bind_some, Value.at?_cons, Value.child?, List.getElem?_map,
      Option.getD_some]
    cases instances[index]? <;> rfl

/-- The entries of any nested block in a tree are read from those that stand in the document at the
same place. -/
theorem exists_entries_of_at? {document : Json} (canonical : document.Canonical) {tree : Tree}
    (read : ofJson document = .ok tree) {way : List Json.Step} {attributes : Attributes}
    (leads : tree.asBlock.at? way = some (.block attributes)) :
    ∃ value, document.at? way = some value ∧
      ∀ name, attributes.get name = (value.entries name).map Value.ofJson := by
  rw [← ofJson_eq_asBlock canonical.sorted_members read, Value.at?_ofJson] at leads
  obtain ⟨value, found, same⟩ := Option.map_eq_some_iff.1 leads
  exact ⟨value, found, Value.get_of_block?_ofJson (Value.block?_eq_some_iff.2 same)⟩

end Tree

namespace Attributes

/-- All nested blocks of an attribute are given iff its entries are nothing else, and these are then
as many as the entries and the same as if entries had been passed over. Otherwise the complaint
tells where the first entry stands that is none, and passing over such entries leaves the others in
order. For any nested block in a tree that was read, wherever it stands, the entries complained of
are those that are no objects of arrays in the document. -/
theorem blocks_agree_unless_stray (attributes : Attributes) (name : String) :
    ((∃ blocks, attributes.blocks? name = .ok blocks) ↔
        ∀ entry ∈ attributes.get name, entry.IsBlock) ∧
      (∀ blocks, attributes.blocks? name = .ok blocks →
        attributes.blocks name = blocks ∧ blocks.length = (attributes.get name).length) ∧
      (∀ fault, attributes.blocks? name = .error fault ↔
        ∃ position, Value.FirstStrayAt (attributes.get name) position ∧
          fault = .strayEntry name position) ∧
      (∀ position, (RuleFault.strayEntry name position).message =
        name ++ " entry #" ++ Numeral.text position ++ " is not a nested block") ∧
      (attributes.blocks name).map Value.block =
        (attributes.get name).filter (fun entry => entry.IsBlock) ∧
      ∀ document tree, document.Canonical → Tree.ofJson document = .ok tree →
        (∀ kind index, tree.asBlock.at? [.member kind, .item index] =
          ((tree.instances kind)[index]?).map .block) ∧
        ∀ way, tree.asBlock.at? way = some (.block attributes) →
          ∃ value, document.at? way = some value ∧
            List.Forall₂ (fun entry declared => ¬ entry.IsBlock ↔ ¬ declared.IsObjectOfArrays)
              (attributes.get name) (value.entries name) := by
  refine ⟨exists_blocks?_eq_ok_iff, fun blocks => blocks_of_blocks?_eq_ok,
    fun fault => blocks?_eq_error_iff, fun position => rfl, Value.map_block_filterMap _, ?_⟩
  intro document tree canonical read
  refine ⟨tree.at?_asBlock_instance, fun way leads => ?_⟩
  obtain ⟨value, found, entries⟩ := Tree.exists_entries_of_at? canonical read leads
  refine ⟨value, found, ?_⟩
  rw [entries name, List.forall₂_map_left_iff, List.forall₂_same]
  exact fun declared _ => not_congr Value.isBlock_ofJson_iff

/-- Two blocks stand before a map and a text, and a block with a map in it after them. -/
theorem blocks_agree_unless_stray_of_mixed_entries :
    let declared : List Json :=
      [.object [], .object [("x", .array [])], .object [("x", .null)], .text "x",
        .object [("x", .array [.object [("y", .null)]])]]
    let document : Json := .object [("kind", .array [.object [("rule", .array declared)]])]
    let blocks : List Attributes := [[], [("x", [])], [("x", [.map [("y", .null)]])]]
    let attributes : Attributes :=
      [("rule", [.block [], .block [("x", [])], .map [("x", .null)], .text "x",
        .block [("x", [.map [("y", .null)]])]])]
    ∃ tree, document.Canonical ∧ Tree.ofJson document = .ok tree ∧
      tree.instances "kind" = [attributes] ∧
      attributes.blocks? "rule" = .error (.strayEntry "rule" 3) ∧
      (RuleFault.strayEntry "rule" 3).message = "rule entry #3 is not a nested block" ∧
      attributes.blocks "rule" = blocks ∧
      blocks.map Value.block =
        (attributes.get "rule").filter (fun entry => entry.IsBlock) ∧
      List.Forall₂ (fun entry declared => ¬ entry.IsBlock ↔ ¬ declared.IsObjectOfArrays)
        (attributes.get "rule") declared := by
  intro declared document blocks attributes
  have canonical : document.Canonical := by
    simp only [document, declared, Json.Canonical, Json.CanonicalMembers, Json.CanonicalItems]
    decide
  obtain ⟨tree, read, instances⟩ : ∃ tree, Tree.ofJson document = .ok tree ∧
      tree.instances "kind" = [attributes] := ⟨_, rfl, rfl⟩
  have stray : Value.FirstStrayAt (attributes.get "rule") 3 :=
    ⟨[[], [("x", [])]], _, _, rfl, by decide, rfl⟩
  obtain ⟨_, _, refused, told, filtered, ofTree⟩ := blocks_agree_unless_stray attributes "rule"
  obtain ⟨ofInstances, ofEntries⟩ := ofTree document tree canonical read
  have reached : tree.asBlock.at? [.member "kind", .item 0] = some (.block attributes) := by
    rw [ofInstances, instances]
    rfl
  obtain ⟨_, found, faulting⟩ := ofEntries _ reached
  cases found
  exact ⟨tree, canonical, read, instances, (refused _).2 ⟨3, stray, rfl⟩,
    (told 3).trans (by decide), rfl, filtered, faulting⟩

end Attributes

end ConfigAudit
