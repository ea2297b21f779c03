import ConfigAudit.Members

/-!
# Looking up members

What `List.lookup` finds after a change of some members, and how it relates to membership when the
keys ascend. `Members.lookup_ofPairs` says which of several pairs with one key counts.
-/

namespace ConfigAudit

namespace Members

variable {Value : Type}

instance (members : List (String × Value)) : Decidable (Sorted members) :=
  inferInstanceAs (Decidable (members.Pairwise fun earlier later => earlier.1 < later.1))

/-- A pair with another key does not matter. -/
theorem lookup_cons_of_ne {key headKey : String} (different : key ≠ headKey) (value : Value)
    (rest : List (String × Value)) :
    ((headKey, value) :: rest).lookup key = rest.lookup key := by
  have unequal : (key == headKey) = false := beq_false_of_ne different
  simp only [List.lookup_cons, unequal]

/-- Only the value of the updated key changes. -/
theorem lookup_update_of_ne {key other : String} (different : other ≠ key)
    (change : Option Value → Value) (members : List (String × Value)) :
    (update key change members).lookup other = members.lookup other := by
  induction members with
  | nil => simp [update, lookup_cons_of_ne different]
  | cons head rest inductionHypothesis =>
    obtain ⟨headKey, value⟩ := head
    rw [update]
    split
    · rw [lookup_cons_of_ne different]
    · split
      case isTrue same =>
        rw [lookup_cons_of_ne different, lookup_cons_of_ne (same ▸ different)]
      case isFalse => simp only [List.lookup_cons, inductionHypothesis]

/-- A key before all others has no value. -/
theorem lookup_eq_none_of_lt {key : String} {members : List (String × Value)}
    (below : ∀ pair ∈ members, key < pair.1) : members.lookup key = none := by
  rw [List.lookup_eq_none_iff]
  intro pair member
  have before := below pair member
  simp only [bne_iff_ne, ne_eq]
  rintro rfl
  exact String.lt_irrefl _ before

/-- Among members in key order the updated key has the new value. -/
theorem Sorted.lookup_update_self {members : List (String × Value)} (sorted : Sorted members)
    (key : String) (change : Option Value → Value) :
    (Members.update key change members).lookup key = some (change (members.lookup key)) := by
  induction members with
  | nil => simp [Members.update]
  | cons head rest inductionHypothesis =>
    obtain ⟨headKey, value⟩ := head
    obtain ⟨below, sortedRest⟩ := List.pairwise_cons.1 sorted
    rw [Members.update]
    split
    case isTrue before =>
      have absent : ((headKey, value) :: rest).lookup key = none := by
        refine lookup_eq_none_of_lt fun pair member => ?_
        rcases List.mem_cons.1 member with rfl | member
        · exact before
        · exact String.lt_trans before (below pair member)
      rw [absent, List.lookup_cons_self]
    case isFalse =>
      split
      case isTrue same => subst same; simp
      case isFalse different =>
        rw [lookup_cons_of_ne different, lookup_cons_of_ne different,
          inductionHypothesis sortedRest]

/-- The inserted key has the new value, whatever stood there. -/
theorem lookup_insert_self (key : String) (value : Value) (members : List (String × Value)) :
    (insert key value members).lookup key = some value := by
  unfold insert
  induction members with
  | nil => simp [update]
  | cons head rest inductionHypothesis =>
    obtain ⟨headKey, headValue⟩ := head
    rw [update]
    split
    · simp
    · split
      · simp
      case isFalse different => rw [lookup_cons_of_ne different, inductionHypothesis]

/-- What is found is a member. -/
theorem mem_of_lookup_eq_some {key : String} {value : Value} {members : List (String × Value)}
    (found : members.lookup key = some value) : (key, value) ∈ members := by
  obtain ⟨before, after, split, _⟩ := List.lookup_eq_some_iff.1 found
  rw [split]
  simp

theorem lookup_map {Result : Type} (change : Value → Result) (members : List (String × Value))
    (key : String) :
    (members.map fun member => (member.1, change member.2)).lookup key =
      (members.lookup key).map change := by
  induction members with
  | nil => rfl
  | cons head rest inductionHypothesis =>
    obtain ⟨headKey, value⟩ := head
    by_cases same : key = headKey
    · subst same
      rw [List.map_cons, List.lookup_cons_self, List.lookup_cons_self]
      rfl
    · rw [List.map_cons, lookup_cons_of_ne same, lookup_cons_of_ne same, inductionHypothesis]

/-- A key has a value iff it is the key of a member. -/
theorem isSome_lookup_iff {key : String} {members : List (String × Value)} :
    (members.lookup key).isSome ↔ key ∈ members.map Prod.fst := by
  rw [List.lookup_isSome_iff, List.mem_map]
  exact exists_congr fun pair => and_congr_right fun _ => beq_iff_eq.trans eq_comm

/-- A member after an update is the updated one or was one before. -/
theorem eq_or_mem_of_mem_update {key : String} {change : Option Value → Value}
    {pair : String × Value} {members : List (String × Value)}
    (member : pair ∈ update key change members) :
    (∃ known, pair = (key, change known)) ∨ pair ∈ members := by
  induction members with
  | nil => exact .inl ⟨none, List.mem_singleton.1 member⟩
  | cons head rest inductionHypothesis =>
    obtain ⟨headKey, headValue⟩ := head
    rw [update] at member
    split at member
    · exact (List.mem_cons.1 member).imp_left fun same => ⟨none, same⟩
    · split at member
      · rcases List.mem_cons.1 member with same | member
        · exact .inl ⟨some headValue, same⟩
        · exact .inr (List.mem_cons_of_mem _ member)
      · rcases List.mem_cons.1 member with rfl | member
        · exact .inr List.mem_cons_self
        · exact (inductionHypothesis member).imp_right (List.mem_cons_of_mem _)

/-- A member after an insertion is the inserted one or was one before. -/
theorem mem_insert {key : String} {value : Value} {pair : String × Value}
    {members : List (String × Value)} (member : pair ∈ insert key value members) :
    pair = (key, value) ∨ pair ∈ members :=
  (eq_or_mem_of_mem_update member).imp_left fun ⟨_, same⟩ => same

/-- What is found after an insertion. -/
theorem lookup_insert (key other : String) (value : Value) (members : List (String × Value)) :
    (insert key value members).lookup other =
      if other = key then some value else members.lookup other := by
  split
  case isTrue same => rw [same, lookup_insert_self]
  case isFalse different => exact lookup_update_of_ne different _ members

/-- Among members in key order each pair is the one that is found under its key. -/
theorem Sorted.lookup_eq_some_iff {members : List (String × Value)} (sorted : Sorted members)
    {key : String} {value : Value} :
    members.lookup key = some value ↔ (key, value) ∈ members := by
  induction members with
  | nil => simp
  | cons head rest inductionHypothesis =>
    obtain ⟨headKey, headValue⟩ := head
    obtain ⟨below, sortedRest⟩ := List.pairwise_cons.1 sorted
    by_cases same : key = headKey
    · subst same
      have absent : (key, value) ∉ rest := fun member => String.lt_irrefl key (below _ member)
      simp [absent, eq_comm]
    · rw [lookup_cons_of_ne same, inductionHypothesis sortedRest]
      simp [same]

/-- Among members in key order at most one has a given key. -/
theorem Sorted.flatMap_ite_eq {Result : Type} {members : List (String × Value)}
    (sorted : Sorted members) (key : String) (expand : Value → List Result) :
    (members.flatMap fun (other, value) => if other = key then expand value else []) =
      ((members.lookup key).map expand).getD [] := by
  induction members with
  | nil => rfl
  | cons head rest inductionHypothesis =>
    obtain ⟨headKey, headValue⟩ := head
    obtain ⟨below, sortedRest⟩ := List.pairwise_cons.1 sorted
    rw [List.flatMap_cons, inductionHypothesis sortedRest]
    dsimp only
    split
    case isTrue same =>
      subst same
      rw [lookup_eq_none_of_lt below, List.lookup_cons_self]
      exact List.append_nil _
    case isFalse different =>
      rw [lookup_cons_of_ne (Ne.symm different), List.nil_append]

theorem sorted_foldl_insert (pairs : List (String × Value)) {members : List (String × Value)}
    (sorted : Sorted members) :
    Sorted (pairs.foldl (fun members pair => insert pair.1 pair.2 members) members) := by
  induction pairs generalizing members with
  | nil => exact sorted
  | cons pair rest inductionHypothesis => exact inductionHypothesis (sorted.insert _ _)

/-- The members of a list of pairs are in key order. -/
theorem sorted_ofPairs (pairs : List (String × Value)) : Sorted (ofPairs pairs) :=
  sorted_foldl_insert pairs sorted_nil

theorem lookup_foldl_insert (pairs members : List (String × Value)) (key : String) :
    (pairs.foldl (fun members pair => insert pair.1 pair.2 members) members).lookup key =
      (pairs.reverse.lookup key).or (members.lookup key) := by
  induction pairs generalizing members with
  | nil => simp
  | cons pair rest inductionHypothesis =>
    obtain ⟨pairKey, value⟩ := pair
    rw [List.foldl_cons, inductionHypothesis, lookup_insert, List.reverse_cons,
      List.lookup_append, Option.or_assoc]
    congr 1
    split
    case isTrue same => simp [same]
    case isFalse different => simp [lookup_cons_of_ne different]

/-- Of several pairs with one key the last one counts. -/
theorem lookup_ofPairs (pairs : List (String × Value)) (key : String) :
    (ofPairs pairs).lookup key = pairs.reverse.lookup key := by
  simp [ofPairs, lookup_foldl_insert]

/-- The members come from the pairs. -/
theorem mem_of_mem_ofPairs {pairs : List (String × Value)} {pair : String × Value}
    (member : pair ∈ ofPairs pairs) : pair ∈ pairs := by
  have found := (sorted_ofPairs pairs).lookup_eq_some_iff.2 member
  rw [lookup_ofPairs] at found
  exact List.mem_reverse.1 (mem_of_lookup_eq_some found)

/-- A key after all others comes to stand at the end. -/
theorem update_eq_append {key : String} {members : List (String × Value)}
    (above : ∀ pair ∈ members, pair.1 < key) (change : Option Value → Value) :
    update key change members = members ++ [(key, change none)] := by
  induction members with
  | nil => rfl
  | cons head rest inductionHypothesis =>
    obtain ⟨headKey, headValue⟩ := head
    obtain ⟨headBelow, restBelow⟩ := List.forall_mem_cons.1 above
    have notBefore : ¬ key < headKey := String.lt_asymm headBelow
    have different : key ≠ headKey := by
      rintro rfl
      exact String.lt_irrefl _ headBelow
    rw [update, if_neg notBefore, if_neg different, inductionHypothesis restBelow, List.cons_append]

theorem insert_eq_append {key : String} {value : Value} {members : List (String × Value)}
    (above : ∀ pair ∈ members, pair.1 < key) :
    insert key value members = members ++ [(key, value)] :=
  update_eq_append above _

theorem foldl_insert_eq_append {pairs : List (String × Value)} (members : List (String × Value))
    (sorted : Sorted (members ++ pairs)) :
    pairs.foldl (fun members pair => insert pair.1 pair.2 members) members = members ++ pairs := by
  induction pairs generalizing members with
  | nil => simp
  | cons pair rest inductionHypothesis =>
    have above : ∀ earlier ∈ members, earlier.1 < pair.1 := fun earlier member =>
      (List.pairwise_append.1 sorted).2.2 earlier member pair List.mem_cons_self
    rw [List.append_cons] at sorted
    rw [List.foldl_cons, insert_eq_append above, inductionHypothesis _ sorted, ← List.append_cons]

/-- Pairs in key order are members as they stand. -/
theorem Sorted.ofPairs_eq_self {pairs : List (String × Value)} (sorted : Sorted pairs) :
    ofPairs pairs = pairs :=
  foldl_insert_eq_append [] sorted

end Members

end ConfigAudit
