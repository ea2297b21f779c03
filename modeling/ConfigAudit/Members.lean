/-!
# Members: association lists kept in key order

A mapping from texts to values is a list of pairs whose keys ascend strictly. The order is that of
the code points, which is also the order of the keys' UTF-8 bytes. The lists are plain, so that the
nested value types can hold them; `Members.Sorted` is the invariant that `insert` and `update`
keep, and `lookup` is `List.lookup`.
-/

namespace ConfigAudit

namespace Members

variable {Value : Type}

/-- Give `key` the value computed from the one it has, if any. -/
def update (key : String) (change : Option Value → Value) :
    List (String × Value) → List (String × Value)
  | [] => [(key, change none)]
  | (otherKey, other) :: rest =>
    if key < otherKey then (key, change none) :: (otherKey, other) :: rest
    else if key = otherKey then (key, change (some other)) :: rest
    else (otherKey, other) :: update key change rest

/-- Give `key` a value, in place of the one it has. -/
def insert (key : String) (value : Value) (members : List (String × Value)) :
    List (String × Value) :=
  update key (fun _ => value) members

/-- The members of a list of pairs in which the last pair of a key counts. -/
def ofPairs (pairs : List (String × Value)) : List (String × Value) :=
  pairs.foldl (fun members pair => insert pair.1 pair.2 members) []

/-- The keys ascend strictly, so no key stands twice. -/
def Sorted (members : List (String × Value)) : Prop :=
  members.Pairwise fun earlier later => earlier.1 < later.1

theorem mem_update {key : String} {change : Option Value → Value} {pair : String × Value}
    {members : List (String × Value)} (member : pair ∈ update key change members) :
    pair.1 = key ∨ pair ∈ members := by
  induction members with
  | nil => simp_all [update]
  | cons head rest inductionHypothesis =>
    obtain ⟨otherKey, other⟩ := head
    rw [update] at member
    split at member
    · rcases List.mem_cons.1 member with rfl | member
      · exact .inl rfl
      · exact .inr member
    · split at member
      · rcases List.mem_cons.1 member with rfl | member
        · exact .inl rfl
        · exact .inr (List.mem_cons_of_mem _ member)
      · rcases List.mem_cons.1 member with rfl | member
        · exact .inr List.mem_cons_self
        · exact (inductionHypothesis member).imp_right (List.mem_cons_of_mem _)

/-- Updating keeps the order of the keys. -/
theorem Sorted.update {members : List (String × Value)} (sorted : Sorted members) (key : String)
    (change : Option Value → Value) : Sorted (update key change members) := by
  induction members with
  | nil => simp [Members.update, Sorted]
  | cons head rest inductionHypothesis =>
    obtain ⟨otherKey, other⟩ := head
    obtain ⟨below, sortedRest⟩ := List.pairwise_cons.1 sorted
    rw [Members.update]
    split
    case isTrue before =>
      refine List.pairwise_cons.2 ⟨fun pair member => ?_, sorted⟩
      rcases List.mem_cons.1 member with rfl | member
      · exact before
      · exact String.lt_trans before (below pair member)
    case isFalse notBefore =>
      split
      case isTrue same =>
        subst same
        exact List.pairwise_cons.2 ⟨below, sortedRest⟩
      case isFalse different =>
        refine List.pairwise_cons.2 ⟨fun pair member => ?_, inductionHypothesis sortedRest⟩
        rcases mem_update member with same | member
        · have after : otherKey < key := by
            apply Decidable.byContradiction
            intro notAfter
            exact different
              (String.le_antisymm (String.not_lt.1 notAfter) (String.not_lt.1 notBefore))
          simpa [same] using after
        · exact below pair member

/-- Inserting keeps the order of the keys. -/
theorem Sorted.insert {members : List (String × Value)} (sorted : Sorted members) (key : String)
    (value : Value) : Sorted (insert key value members) :=
  sorted.update key _

theorem sorted_nil : Sorted ([] : List (String × Value)) :=
  List.Pairwise.nil

end Members

/-- A finite set of texts, kept in ascending order. -/
structure KeySet where
  keys : List String := []
  ascending : keys.Pairwise (· < ·) := by exact List.Pairwise.nil
deriving DecidableEq, Repr

namespace KeySet

/-- The set without texts. -/
def empty : KeySet := {}

instance : Inhabited KeySet := ⟨empty⟩

/-- Put a text where it belongs in an ascending list that may have it. -/
def insertKey (key : String) : List String → List String
  | [] => [key]
  | other :: rest =>
    if key < other then key :: other :: rest
    else if key = other then other :: rest
    else other :: insertKey key rest

theorem mem_insertKey {key text : String} {keys : List String} :
    text ∈ insertKey key keys ↔ text = key ∨ text ∈ keys := by
  induction keys with
  | nil => simp [insertKey]
  | cons other rest inductionHypothesis =>
    rw [insertKey]
    split
    · simp
    · split
      case isTrue same => subst same; simp
      case isFalse => simp [inductionHypothesis, or_left_comm]

theorem ascending_insertKey {key : String} {keys : List String}
    (ascending : keys.Pairwise (· < ·)) : (insertKey key keys).Pairwise (· < ·) := by
  induction keys with
  | nil => simp [insertKey]
  | cons other rest inductionHypothesis =>
    obtain ⟨below, ascendingRest⟩ := List.pairwise_cons.1 ascending
    rw [insertKey]
    split
    case isTrue before =>
      refine List.pairwise_cons.2 ⟨fun text member => ?_, ascending⟩
      rcases List.mem_cons.1 member with rfl | member
      · exact before
      · exact String.lt_trans before (below text member)
    case isFalse notBefore =>
      split
      · exact ascending
      case isFalse different =>
        refine List.pairwise_cons.2 ⟨fun text member => ?_, inductionHypothesis ascendingRest⟩
        rcases mem_insertKey.1 member with rfl | member
        · apply Decidable.byContradiction
          intro notAfter
          exact different
            (String.le_antisymm (String.not_lt.1 notAfter) (String.not_lt.1 notBefore))
        · exact below text member

/-- Add a text. -/
def insert (set : KeySet) (key : String) : KeySet where
  keys := insertKey key set.keys
  ascending := ascending_insertKey set.ascending

/-- The set of the texts of a list. -/
def ofList (keys : List String) : KeySet :=
  keys.foldl insert empty

/-- Whether a text belongs to the set. -/
def contains (set : KeySet) (key : String) : Bool :=
  set.keys.contains key

end KeySet

end ConfigAudit
