import ConfigAudit.Proofs.Rule.Set

/-!
# Rule sets as plain lists

Whatever rules are offered to a set in use, well or badly described, new or known, it takes those
that a plain list would take and refuses the others for the same reasons. What it can be asked is
answered by this list, and its index holds the positions in the list: `RuleSet.offers_refine_list`.
-/

namespace ConfigAudit

/-- Some slots are the positions at which a property holds, each once and in order. -/
structure AreSlotsOf (slots : List Nat) (rules : List Rule) (holds : Rule → Bool) : Prop where
  ascending : slots.Pairwise (· < ·)
  mem_iff : ∀ slot, slot ∈ slots ↔ ∃ rule, rules[slot]? = some rule ∧ holds rule = true

theorem areSlotsOf_findIdxs (rules : List Rule) (holds : Rule → Bool) :
    AreSlotsOf (rules.findIdxs holds) rules holds where
  ascending := List.pairwise_findIdxs
  mem_iff := by
    intro slot
    rw [List.mem_findIdxs_iff_exists_getElem_pos]
    constructor
    · rintro ⟨within, found⟩
      exact ⟨rules[slot], List.getElem?_eq_getElem within, found⟩
    · rintro ⟨rule, at_slot, found⟩
      obtain ⟨within, rfl⟩ := List.getElem?_eq_some_iff.1 at_slot
      exact ⟨within, found⟩

/-- Steps in a row, each of them from the state in which the last one leaves. -/
theorem mapM_cons_apply {State Item Result : Type} (step : Item → StateM State Result) (item : Item)
    (rest : List Item) (state : State) :
    (item :: rest).mapM step state =
      ((step item state).1 :: (rest.mapM step (step item state).2).1,
        (rest.mapM step (step item state).2).2) := by
  rw [List.mapM_cons]
  rfl

/-- Add a rule to a plain list of rules, or reply why not. -/
def offerToList (rule : Rule) : StateM (List Rule) (Except RuleSetError Unit) := do
  match rule.info.flaw? with
  | some flaw => return .error (.invalidInfo rule.info.id flaw)
  | none =>
    if (← get).any fun known => known.info.id == rule.info.id then
      return .error (.duplicateId rule.info.id)
    modify (· ++ [rule])
    return .ok ()

/-- The rules among some calls that were taken. -/
def takenOf (calls : List Rule) (replies : List (Except RuleSetError Unit)) : List Rule :=
  ((calls.zip replies).filter fun call => call.2.isOk).map Prod.fst

/-- A list takes a rule that is well described and has an identifier of its own, at its end. -/
theorem offerToList_apply (rule : Rule) (rules : List Rule) :
    offerToList rule rules =
      match rule.info.flaw? with
      | some flaw => (.error (.invalidInfo rule.info.id flaw), rules)
      | none =>
        if rules.any fun known => known.info.id == rule.info.id then
          (.error (.duplicateId rule.info.id), rules)
        else (.ok (), rules ++ [rule]) := by
  change (offerToList rule).run rules = _
  unfold offerToList
  cases rule.info.flaw? with
  | some flaw => rfl
  | none =>
    rw [StateT.run_bind, StateT.run_get, pure_bind]
    cases rules.any fun known => known.info.id == rule.info.id <;> rfl

namespace RuleSet

theorem enterKinds_apply (slot : Nat) (kinds : List String) (set : RuleSet) :
    enterKinds slot kinds set =
      ((), { set with slotsByKind := indexKinds slot kinds set.slotsByKind }) := by
  induction kinds generalizing set with
  | nil => rfl
  | cons kind rest inductionHypothesis => exact inductionHypothesis _

/-- A set in use that takes a rule becomes the set with this rule added. -/
theorem accept_apply (rule : Rule) (set : RuleSet) : accept rule set = ((), set.append rule) := by
  unfold accept append
  cases rule.info.kinds with
  | universal => rfl
  | only kinds =>
    exact congrArg
      (fun entered => ((), { entered.2 with
        ids := entered.2.ids.insert rule.info.id
        rules := entered.2.rules ++ [rule] }))
      (enterKinds_apply set.rules.length kinds.keys set)

/-- A set in use becomes the set with the rule registered, or stays as it is. -/
theorem offer_apply (rule : Rule) (set : RuleSet) :
    offer rule set =
      match set.register rule with
      | .ok next => (.ok (), next)
      | .error error => (.error error, set) := by
  change (offer rule).run set = _
  unfold offer register
  cases rule.info.flaw? with
  | some flaw => rfl
  | none =>
    rw [StateT.run_bind, StateT.run_get, pure_bind]
    cases set.ids.contains rule.info.id with
    | true => rfl
    | false => exact congrArg (fun called => (Except.ok (), called.2)) (accept_apply rule set)

/-- A set answers like a plain list of rules, and its index tells the positions in this list. -/
structure Represents (set : RuleSet) (rules : List Rule) : Prop where
  rules_eq : set.rules = rules
  size_eq : set.size = rules.length
  nodup_ids : (rules.map (·.info.id)).Nodup
  applicable_eq : ∀ kind,
    set.applicable kind = rules.filter fun rule => rule.info.kinds.includes kind
  get?_eq_some_iff : ∀ id rule, set.get? id = some rule ↔ rule ∈ rules ∧ rule.info.id = id
  /-- The rules for a kind are looked up at positions in range, each once and in order. -/
  slots : ∀ kind, AreSlotsOf (set.slots kind) rules fun rule => rule.info.kinds.includes kind
  contains_ids_iff : ∀ id, set.ids.contains id = true ↔ id ∈ rules.map (·.info.id)
  sorted_kinds : Members.Sorted set.slotsByKind
  mem_kinds_iff : ∀ kind, kind ∈ set.slotsByKind.map Prod.fst ↔
    ∃ rule ∈ rules, rule.info.kinds.names kind = true
  slotsByKind : ∀ entry ∈ set.slotsByKind,
    AreSlotsOf entry.2 rules fun rule => rule.info.kinds.names entry.1
  universalSlots : AreSlotsOf set.universalSlots rules fun rule => rule.info.kinds.isUniversal

/-- No kind stands in the index without a slot. -/
def NoneVacant (set : RuleSet) : Prop :=
  ∀ entry ∈ set.slotsByKind, entry.2 ≠ []

theorem noneVacant_empty : empty.NoneVacant :=
  nofun

theorem noneVacant_indexKinds (slot : Nat) (kinds : List String)
    {slotsByKind : List (String × List Nat)} (occupied : ∀ entry ∈ slotsByKind, entry.2 ≠ []) :
    ∀ entry ∈ indexKinds slot kinds slotsByKind, entry.2 ≠ [] := by
  induction kinds generalizing slotsByKind with
  | nil => exact occupied
  | cons kind rest inductionHypothesis =>
    refine inductionHypothesis fun entry member => ?_
    rcases Members.eq_or_mem_of_mem_update member with ⟨known, rfl⟩ | member
    · simp
    · exact occupied entry member

theorem NoneVacant.append {set : RuleSet} (occupied : set.NoneVacant) (rule : Rule) :
    (set.append rule).NoneVacant := by
  unfold RuleSet.append
  cases rule.info.kinds with
  | universal => exact occupied
  | only kinds => exact noneVacant_indexKinds _ _ occupied

/-- A rule is found under its identifier, and no other one is. -/
theorem Indexed.get?_eq_some_iff {set : RuleSet} (indexed : set.Indexed) (id : String)
    (rule : Rule) : set.get? id = some rule ↔ rule ∈ set.rules ∧ rule.info.id = id := by
  unfold get?
  constructor
  · intro found
    exact ⟨List.mem_of_find?_eq_some found, by simpa using List.find?_some found⟩
  · rintro ⟨member, rfl⟩
    cases found : set.rules.find? fun known => known.info.id == rule.info.id with
    | none => exact absurd (List.find?_eq_none.1 found rule member) (by simp)
    | some other =>
      have same : other.info.id = rule.info.id := by simpa using List.find?_some found
      rw [List.inj_on_of_nodup_map indexed.distinct (List.mem_of_find?_eq_some found) member same]

/-- The kinds in the index are those that some rule names. -/
theorem Indexed.mem_kinds_iff {set : RuleSet} (indexed : set.Indexed) (occupied : set.NoneVacant)
    (kind : String) :
    kind ∈ set.slotsByKind.map Prod.fst ↔
      ∃ rule ∈ set.rules, rule.info.kinds.names kind = true := by
  have positions := indexed.slots_of_kind kind
  constructor
  · intro member
    obtain ⟨entry, listed, rfl⟩ := List.mem_map.1 member
    have taken := occupied entry listed
    rw [indexed.sorted.lookup_eq_some_iff.2 listed, Option.getD_some] at positions
    rw [positions, ne_eq, List.findIdxs_eq_nil_iff] at taken
    simpa using taken
  · rintro ⟨rule, member, named⟩
    cases found : set.slotsByKind.lookup kind with
    | none =>
      rw [found, Option.getD_none, eq_comm, List.findIdxs_eq_nil_iff] at positions
      exact absurd named (by simpa using positions rule member)
    | some slots => exact List.mem_map.2 ⟨_, Members.mem_of_lookup_eq_some found, rfl⟩

/-- A set with a true index represents its rules. -/
theorem Indexed.represents {set : RuleSet} (indexed : set.Indexed) (occupied : set.NoneVacant) :
    set.Represents set.rules where
  rules_eq := rfl
  size_eq := rfl
  nodup_ids := indexed.distinct
  applicable_eq := indexed.applicable_eq_filter
  get?_eq_some_iff := indexed.get?_eq_some_iff
  slots := by
    intro kind
    rw [indexed.slots_eq_findIdxs]
    exact areSlotsOf_findIdxs _ _
  contains_ids_iff := indexed.contains_ids
  sorted_kinds := indexed.sorted
  mem_kinds_iff := indexed.mem_kinds_iff occupied
  slotsByKind := by
    rintro ⟨kind, slots⟩ member
    have found := indexed.sorted.lookup_eq_some_iff.2 member
    have positions := indexed.slots_of_kind kind
    rw [found, Option.getD_some] at positions
    exact positions ▸ areSlotsOf_findIdxs _ _
  universalSlots := by
    rw [indexed.slots_of_all]
    exact areSlotsOf_findIdxs _ _

/-- A set in use replies like the list of its rules, takes a rule when the list does, and keeps its
index true. -/
theorem Indexed.offer {set : RuleSet} (indexed : set.Indexed) (occupied : set.NoneVacant)
    (rule : Rule) :
    (RuleSet.offer rule set).1 = (offerToList rule set.rules).1 ∧
      (RuleSet.offer rule set).2.rules = (offerToList rule set.rules).2 ∧
      (RuleSet.offer rule set).2.Indexed ∧ (RuleSet.offer rule set).2.NoneVacant := by
  have known : set.ids.contains rule.info.id =
      set.rules.any fun known => known.info.id == rule.info.id := by
    rw [Bool.eq_iff_iff, indexed.contains_ids]
    simp
  rw [offer_apply, offerToList_apply, RuleSet.register]
  cases rule.info.flaw? with
  | some flaw => exact ⟨rfl, rfl, indexed, occupied⟩
  | none =>
    rw [← known]
    cases fresh : set.ids.contains rule.info.id with
    | true => exact ⟨rfl, rfl, indexed, occupied⟩
    | false => exact ⟨rfl, rules_append set rule, indexed.append fresh, occupied.append rule⟩

/-- What one offer keeps is kept by any number of them. -/
theorem Indexed.mapM_offer {set : RuleSet} (indexed : set.Indexed) (occupied : set.NoneVacant)
    (calls : List Rule) :
    (calls.mapM RuleSet.offer set).1 = (calls.mapM offerToList set.rules).1 ∧
      (calls.mapM RuleSet.offer set).2.rules = (calls.mapM offerToList set.rules).2 ∧
      (calls.mapM RuleSet.offer set).2.Indexed ∧ (calls.mapM RuleSet.offer set).2.NoneVacant := by
  induction calls generalizing set with
  | nil => exact ⟨rfl, rfl, indexed, occupied⟩
  | cons rule rest inductionHypothesis =>
    obtain ⟨reply, taken, indexedNext, occupiedNext⟩ := indexed.offer occupied rule
    obtain ⟨replies, takenRest, kept⟩ := inductionHypothesis indexedNext occupiedNext
    rw [taken] at replies takenRest
    rw [mapM_cons_apply, mapM_cons_apply]
    exact ⟨by rw [reply, replies], takenRest, kept⟩

/-- The rules that are offered to a list are appended as far as they are taken. -/
theorem mapM_offerToList (calls rules : List Rule) :
    (calls.mapM offerToList rules).2 =
      rules ++ takenOf calls (calls.mapM offerToList rules).1 := by
  induction calls generalizing rules with
  | nil =>
    change rules = rules ++ []
    rw [List.append_nil]
  | cons rule rest inductionHypothesis =>
    rw [mapM_cons_apply, inductionHypothesis, offerToList_apply]
    cases rule.info.flaw? with
    | some flaw => simp [takenOf, Except.isOk, Except.toBool]
    | none =>
      cases rules.any fun known => known.info.id == rule.info.id <;>
        simp [takenOf, Except.isOk, Except.toBool]

/-- Offers in a row, to an empty set, get the replies that a plain list gives to them, and leave a
set that represents the list of the rules that were taken. An offer that is refused changes nothing
at all. -/
theorem offers_refine_list (calls : List Rule) :
    ((calls.mapM offer).run empty).1 = ((calls.mapM offerToList).run []).1 ∧
      ((calls.mapM offerToList).run []).2 = takenOf calls ((calls.mapM offer).run empty).1 ∧
      ((calls.mapM offer).run empty).2.Represents
        (takenOf calls ((calls.mapM offer).run empty).1) ∧
      ∀ (set : RuleSet) rule,
        ((offer rule).run set).1 = .ok () ∨ ((offer rule).run set).2 = set := by
  obtain ⟨replies, taken, indexed, occupied⟩ := indexed_empty.mapM_offer noneVacant_empty calls
  have onList := mapM_offerToList calls []
  rw [List.nil_append] at onList
  have rules : ((calls.mapM offer).run empty).2.rules =
      takenOf calls ((calls.mapM offer).run empty).1 := by
    exact taken.trans (onList.trans (congrArg (takenOf calls) replies.symm))
  refine ⟨replies, onList.trans (congrArg (takenOf calls) replies.symm), ?_, fun set rule => ?_⟩
  · exact rules ▸ indexed.represents occupied
  · have called := offer_apply rule set
    cases registered : set.register rule with
    | error error =>
      rw [registered] at called
      exact .inr (congrArg Prod.snd called)
    | ok next =>
      rw [registered] at called
      exact .inl (congrArg Prod.fst called)

end RuleSet

end ConfigAudit
