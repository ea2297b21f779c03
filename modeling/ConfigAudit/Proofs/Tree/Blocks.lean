import ConfigAudit.Tree.Value

/-!
# Entries that are nested blocks

`Attributes.blocks?` gives the nested blocks of an attribute whose entries are nothing else. It
complains of the first entry that is no nested block otherwise, and tells its position.
-/

namespace ConfigAudit

namespace Value

/-- A value is a nested block. -/
def IsBlock (value : Value) : Prop :=
  ∃ attributes, value = .block attributes

theorem block?_eq_some_iff {value : Value} {attributes : Attributes} :
    value.block? = some attributes ↔ value = .block attributes := by
  cases value <;> simp [block?]

theorem isSome_block?_iff {value : Value} : value.block?.isSome = true ↔ value.IsBlock := by
  simp only [Option.isSome_iff_exists, block?_eq_some_iff, IsBlock]

theorem block?_eq_none_iff {value : Value} : value.block? = none ↔ ¬ value.IsBlock := by
  rw [← isSome_block?_iff, Option.not_isSome_iff_eq_none]

/-- Values are nested blocks, each of them, iff they are the blocks of some attributes. -/
theorem forall_isBlock_iff {values : List Value} :
    (∀ value ∈ values, value.IsBlock) ↔ ∃ blocks : List Attributes, values = blocks.map block := by
  constructor
  · intro areBlocks
    induction values with
    | nil => exact ⟨[], rfl⟩
    | cons value values inductionHypothesis =>
      obtain ⟨⟨attributes, rfl⟩, others⟩ := List.forall_mem_cons.1 areBlocks
      obtain ⟨blocks, rfl⟩ := inductionHypothesis others
      exact ⟨attributes :: blocks, rfl⟩
  · rintro ⟨blocks, rfl⟩ value member
    obtain ⟨attributes, _, rfl⟩ := List.mem_map.1 member
    exact ⟨attributes, rfl⟩

/-- The first of some values that is no nested block stands at a position, counted from one. -/
def FirstStrayAt (values : List Value) (position : Nat) : Prop :=
  ∃ (before : List Attributes) (stray : Value) (after : List Value),
    values = before.map block ++ stray :: after ∧ ¬ stray.IsBlock ∧ position = before.length + 1

/-- There is no such position iff the values are all nested blocks. -/
theorem exists_firstStrayAt_iff {values : List Value} :
    (∃ position, FirstStrayAt values position) ↔ ∃ value ∈ values, ¬ value.IsBlock := by
  constructor
  · rintro ⟨_, before, stray, after, rfl, noBlock, _⟩
    exact ⟨stray, by simp, noBlock⟩
  · rintro ⟨stray, member, noBlock⟩
    induction values with
    | nil => exact nomatch member
    | cons value values inductionHypothesis =>
      by_cases isBlock : value.IsBlock
      · obtain ⟨attributes, rfl⟩ := isBlock
        have later : stray ∈ values := by
          rcases List.mem_cons.1 member with rfl | later
          · exact absurd ⟨attributes, rfl⟩ noBlock
          · exact later
        obtain ⟨_, before, first, after, rfl, noBlock, _⟩ := inductionHypothesis later
        exact ⟨_, attributes :: before, first, after, rfl, noBlock, rfl⟩
      · exact ⟨_, [], value, values, rfl, isBlock, rfl⟩

/-- Either the values are all nested blocks, or there is a first one that is none. -/
theorem exists_blocks_or_exists_firstStrayAt (values : List Value) :
    (∃ blocks : List Attributes, values = blocks.map block) ∨
      ∃ position, FirstStrayAt values position := by
  rw [← forall_isBlock_iff, exists_firstStrayAt_iff]
  by_cases stray : ∃ value ∈ values, ¬ value.IsBlock
  · exact .inr stray
  · refine .inl fun value member => Classical.byContradiction fun noBlock => ?_
    exact stray ⟨value, member, noBlock⟩

end Value

namespace Attributes

theorem get_eq_nil_iff {attributes : Attributes} {name : String} :
    attributes.get name = [] ↔
      attributes.lookup name = none ∨ attributes.lookup name = some [] := by
  unfold get
  cases attributes.lookup name <;> simp

/-- Entries that are nested blocks are given as such. -/
theorem blocksFrom_map_block (name : String) (position : Nat) (blocks : List Attributes) :
    blocksFrom name position (blocks.map .block) = .ok blocks := by
  induction blocks generalizing position with
  | nil => rfl
  | cons block blocks inductionHypothesis =>
    rw [List.map_cons, blocksFrom, Value.block?, inductionHypothesis]
    rfl

/-- Nested blocks before an entry that is none only move the position that is told. -/
theorem blocksFrom_append_stray (name : String) (position : Nat) (before : List Attributes)
    {stray : Value} (noBlock : ¬ stray.IsBlock) (after : List Value) :
    blocksFrom name position (before.map .block ++ stray :: after) =
      .error (.strayEntry name (position + before.length)) := by
  induction before generalizing position with
  | nil =>
    rw [List.map_nil, List.nil_append, blocksFrom, Value.block?_eq_none_iff.2 noBlock]
    rfl
  | cons block before inductionHypothesis =>
    rw [List.map_cons, List.cons_append, blocksFrom, Value.block?, inductionHypothesis,
      List.length_cons, Nat.add_right_comm, Nat.add_assoc]
    rfl

variable {attributes : Attributes} {name : String}

theorem blocks?_of_map_block {blocks : List Attributes}
    (areBlocks : attributes.get name = blocks.map .block) :
    attributes.blocks? name = .ok blocks := by
  rw [blocks?, areBlocks, blocksFrom_map_block]

theorem blocks?_of_firstStrayAt {position : Nat}
    (stray : Value.FirstStrayAt (attributes.get name) position) :
    attributes.blocks? name = .error (.strayEntry name position) := by
  obtain ⟨before, stray, after, entries, noBlock, rfl⟩ := stray
  rw [blocks?, entries, blocksFrom_append_stray name 1 before noBlock after, Nat.add_comm]

end Attributes

end ConfigAudit
