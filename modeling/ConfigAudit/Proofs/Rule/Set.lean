import Mathlib.Data.List.Sort
import ConfigAudit.Proofs.Except
import ConfigAudit.Proofs.Members
import ConfigAudit.Rule.Set

/-!
# The index of a rule set

`RuleSet.Indexed` ties the index of a rule set to its rules: the slots under a kind are exactly the
positions of the rules that name the kind, and the identifiers are those of the rules, each once.
Every registration keeps this, so a rule set can be read as the plain list of its rules:
`RuleSet.Indexed.applicable_eq_filter`.
-/

namespace ConfigAudit

/-- The elements at the positions where a property holds are those that have it. -/
theorem filterMap_getElem?_findIdxs {Element : Type} (holds : Element → Bool)
    (elements : List Element) :
    (elements.findIdxs holds).filterMap (fun position => elements[position]?) =
      elements.filter holds := by
  induction elements with
  | nil => rfl
  | cons head rest inductionHypothesis =>
    rw [List.findIdxs_cons, List.findIdxs_start, List.filter_cons, ← inductionHypothesis]
    split <;> simp [List.filterMap_map]

/-- The positions of two properties that exclude each other, one after the other, are those of
their disjunction in another order. -/
theorem findIdxs_append_perm {Element : Type} (left right : Element → Bool)
    (elements : List Element) (start : Nat)
    (exclusive : ∀ element, left element = true → right element = false) :
    (elements.findIdxs left start ++ elements.findIdxs right start).Perm
      (elements.findIdxs (fun element => left element || right element) start) := by
  induction elements generalizing start with
  | nil => simp
  | cons head rest inductionHypothesis =>
    have permuted := inductionHypothesis (start + 1)
    rw [List.findIdxs_cons, List.findIdxs_cons, List.findIdxs_cons]
    cases onLeft : left head with
    | true => simpa [exclusive head onLeft] using permuted
    | false =>
      cases right head with
      | true => simpa using List.perm_middle.trans (permuted.cons start)
      | false => simpa using permuted

namespace KeySet

/-- A text belongs to a set after an insertion iff it was inserted or belonged to it before. -/
theorem contains_insert (set : KeySet) (key text : String) :
    (set.insert key).contains text = (text == key || set.contains text) := by
  rw [Bool.eq_iff_iff]
  simp [contains, insert, mem_insertKey]

end KeySet

namespace ResourceKinds

/-- Whether a kind is named, rather than meant with all others. -/
def names : ResourceKinds → String → Bool
  | universal, _ => false
  | only kinds, kind => kinds.contains kind

/-- Whether all kinds are meant. -/
def isUniversal : ResourceKinds → Bool
  | universal => true
  | only _ => false

/-- A rule includes a kind by naming it or by naming none. -/
theorem includes_eq_or (kinds : ResourceKinds) (kind : String) :
    kinds.includes kind = (kinds.names kind || kinds.isUniversal) := by
  cases kinds <;> simp [includes, names, isUniversal]

theorem not_isUniversal_of_names {kinds : ResourceKinds} {kind : String}
    (named : kinds.names kind = true) : kinds.isUniversal = false := by
  cases kinds with
  | universal => cases named
  | only => rfl

end ResourceKinds

namespace RuleSet

/-- The index of a set tells the truth about its rules. -/
structure Indexed (set : RuleSet) : Prop where
  /-- The set knows the identifiers of its rules. -/
  contains_ids : ∀ id, set.ids.contains id = true ↔ id ∈ set.rules.map (·.info.id)
  distinct : (set.rules.map (·.info.id)).Nodup
  sorted : Members.Sorted set.slotsByKind
  slots_of_kind : ∀ kind, (set.slotsByKind.lookup kind).getD [] =
    set.rules.findIdxs fun rule => rule.info.kinds.names kind
  slots_of_all : set.universalSlots = set.rules.findIdxs fun rule => rule.info.kinds.isUniversal

theorem indexed_empty : Indexed empty where
  contains_ids := by simp [empty, KeySet.contains, KeySet.empty]
  distinct := List.nodup_nil
  sorted := Members.sorted_nil
  slots_of_kind := by simp [empty]
  slots_of_all := rfl

theorem sorted_indexKinds (slot : Nat) (kinds : List String)
    {slotsByKind : List (String × List Nat)} (sorted : Members.Sorted slotsByKind) :
    Members.Sorted (indexKinds slot kinds slotsByKind) := by
  induction kinds generalizing slotsByKind with
  | nil => exact sorted
  | cons kind rest inductionHypothesis => exact inductionHypothesis (sorted.update kind _)

/-- A slot is entered once under each of the given kinds and nowhere else. -/
theorem lookup_indexKinds (slot : Nat) {kinds : List String} (distinct : kinds.Nodup)
    {slotsByKind : List (String × List Nat)} (sorted : Members.Sorted slotsByKind)
    (kind : String) :
    ((indexKinds slot kinds slotsByKind).lookup kind).getD [] =
      (slotsByKind.lookup kind).getD [] ++ (if kind ∈ kinds then [slot] else []) := by
  induction kinds generalizing slotsByKind with
  | nil => simp [indexKinds]
  | cons head rest inductionHypothesis =>
    obtain ⟨absent, distinctRest⟩ := List.nodup_cons.1 distinct
    have step := inductionHypothesis distinctRest (sorted.update head fun known =>
      known.getD [] ++ [slot])
    refine step.trans ?_
    by_cases same : kind = head
    · subst same
      simp [sorted.lookup_update_self, absent]
    · rw [Members.lookup_update_of_ne same]
      simp [same]

/-- Appending a rule with an identifier of its own keeps the index true. -/
theorem Indexed.append {set : RuleSet} (indexed : set.Indexed) {rule : Rule}
    (fresh : set.ids.contains rule.info.id = false) : (set.append rule).Indexed := by
  have absent : rule.info.id ∉ set.rules.map (·.info.id) := by
    rw [← indexed.contains_ids, fresh]
    exact Bool.false_ne_true
  have ids (id : String) : (set.ids.insert rule.info.id).contains id = true ↔
      id ∈ (set.rules ++ [rule]).map (·.info.id) := by
    simp only [KeySet.contains_insert, Bool.or_eq_true, beq_iff_eq, indexed.contains_ids,
      List.map_append, List.mem_append, List.map_cons, List.map_nil, List.mem_singleton]
    exact or_comm
  have distinct : ((set.rules ++ [rule]).map (·.info.id)).Nodup := by
    rw [List.map_append, List.nodup_append]
    refine ⟨indexed.distinct, by simp, ?_⟩
    rintro id member _ (_ | ⟨_, ⟨⟩⟩) rfl
    exact absent member
  unfold RuleSet.append
  cases kinds : rule.info.kinds with
  | universal =>
    exact {
      contains_ids := ids
      distinct := distinct
      sorted := indexed.sorted
      slots_of_kind := by
        intro kind
        simp [indexed.slots_of_kind, List.findIdxs_append, kinds, ResourceKinds.names]
      slots_of_all := by
        simp [indexed.slots_of_all, List.findIdxs_append, kinds, ResourceKinds.isUniversal] }
  | only names =>
    have distinctNames : names.keys.Nodup := names.ascending.imp String.ne_of_lt
    exact {
      contains_ids := ids
      distinct := distinct
      sorted := sorted_indexKinds _ _ indexed.sorted
      slots_of_kind := by
        intro kind
        simp [lookup_indexKinds _ distinctNames indexed.sorted, indexed.slots_of_kind,
          List.findIdxs_append, kinds, ResourceKinds.names, KeySet.contains]
      slots_of_all := by
        simp [indexed.slots_of_all, List.findIdxs_append, kinds, ResourceKinds.isUniversal] }

/-- A rule is registered iff it is well described and its identifier is new. -/
theorem register_eq_ok_iff {set next : RuleSet} {rule : Rule} :
    set.register rule = .ok next ↔
      rule.info.flaw? = none ∧ set.ids.contains rule.info.id = false ∧ set.append rule = next := by
  unfold register
  cases rule.info.flaw? with
  | some flaw => simp
  | none => cases set.ids.contains rule.info.id <;> simp

/-- A registration keeps the index true. -/
theorem Indexed.register {set next : RuleSet} (indexed : set.Indexed) {rule : Rule}
    (registered : set.register rule = .ok next) : next.Indexed := by
  obtain ⟨_, fresh, rfl⟩ := register_eq_ok_iff.1 registered
  exact indexed.append fresh

theorem rules_append (set : RuleSet) (rule : Rule) :
    (set.append rule).rules = set.rules ++ [rule] := by
  unfold append
  cases rule.info.kinds <;> rfl

/-- Successful registrations lengthen the list of rules in their order and keep the index true. -/
theorem Indexed.foldlM_register {rules : List Rule} {set final : RuleSet} (indexed : set.Indexed)
    (registered : rules.foldlM RuleSet.register set = .ok final) :
    final.Indexed ∧ final.rules = set.rules ++ rules := by
  induction rules generalizing set with
  | nil =>
    obtain rfl : set = final := by simpa [pure, Except.pure] using registered
    exact ⟨indexed, by simp⟩
  | cons rule rest inductionHypothesis =>
    rw [List.foldlM_cons] at registered
    cases step : set.register rule with
    | error error => simp [step, bind, Except.bind] at registered
    | ok next =>
      simp only [step, bind, Except.bind] at registered
      obtain ⟨kept, lengthened⟩ := inductionHypothesis (indexed.register step) registered
      obtain ⟨_, _, rfl⟩ := register_eq_ok_iff.1 step
      refine ⟨kept, ?_⟩
      rw [lengthened, rules_append, List.append_assoc, List.singleton_append]

/-- The set of a list of rules has these rules and a true index. -/
theorem indexed_of_ofRules {rules : List Rule} {set : RuleSet} (built : ofRules rules = .ok set) :
    set.Indexed ∧ set.rules = rules :=
  indexed_empty.foldlM_register built

/-- Rules that are well described and have identifiers of their own are all registered. -/
theorem Indexed.foldlM_register_eq_ok {rules : List Rule} {set : RuleSet} (indexed : set.Indexed)
    (flawless : ∀ rule ∈ rules, rule.info.flaw? = none)
    (distinct : ((set.rules ++ rules).map (·.info.id)).Nodup) :
    rules.foldlM RuleSet.register set = .ok (rules.foldl RuleSet.append set) := by
  induction rules generalizing set with
  | nil => rfl
  | cons rule rest inductionHypothesis =>
    have fresh : set.ids.contains rule.info.id = false := by
      rw [← Bool.not_eq_true, indexed.contains_ids]
      intro member
      rw [List.map_append, List.nodup_append] at distinct
      exact distinct.2.2 _ member rule.info.id (by simp) rfl
    have registered : set.register rule = .ok (set.append rule) :=
      register_eq_ok_iff.2 ⟨flawless rule List.mem_cons_self, fresh, rfl⟩
    rw [List.foldlM_cons, registered]
    refine inductionHypothesis (indexed.append fresh)
      (fun other member => flawless other (List.mem_cons_of_mem _ member)) ?_
    rwa [rules_append, List.append_assoc, List.singleton_append]

/-- A list of well-described rules with distinct identifiers makes a rule set. -/
theorem ofRules_eq_ok {rules : List Rule} (flawless : ∀ rule ∈ rules, rule.info.flaw? = none)
    (distinct : (rules.map (·.info.id)).Nodup) : ofRules rules = .ok (rules.foldl append empty) :=
  indexed_empty.foldlM_register_eq_ok flawless distinct

/-- The rules of a set are well described. -/
def IsFlawless (set : RuleSet) : Prop :=
  ∀ rule ∈ set.rules, rule.info.flaw? = none

/-- A registration adds no rule with a defect. -/
theorem IsFlawless.register {set next : RuleSet} {rule : Rule} (flawless : set.IsFlawless)
    (registered : set.register rule = .ok next) : next.IsFlawless := by
  obtain ⟨flawlessRule, _, rfl⟩ := register_eq_ok_iff.1 registered
  intro other member
  rw [rules_append, List.mem_append, List.mem_singleton] at member
  rcases member with member | rfl
  · exact flawless other member
  · exact flawlessRule

theorem isFlawless_of_ofRules {rules : List Rule} {set : RuleSet} (built : ofRules rules = .ok set) :
    set.IsFlawless :=
  holds_of_foldlM_eq_ok IsFlawless.register (by simp [IsFlawless, empty]) built

/-- Whichever rules are taken away from a rule set, the others still make one. -/
theorem ofRules_of_sublist {rules kept : List Rule} {set : RuleSet}
    (built : ofRules rules = .ok set) (sublist : kept.Sublist rules) :
    ofRules kept = .ok (kept.foldl append empty) := by
  obtain ⟨indexed, rfl⟩ := indexed_of_ofRules built
  have flawless := isFlawless_of_ofRules built
  exact ofRules_eq_ok (fun rule member => flawless rule (sublist.subset member))
    (indexed.distinct.sublist (sublist.map _))

/-- Rules that are taken from others can be told among them by their identifiers. -/
theorem filter_ids_of_sublist {rules kept : List Rule} (sublist : kept.Sublist rules)
    (distinct : (rules.map (·.info.id)).Nodup) :
    (rules.filter fun rule => (kept.map (·.info.id)).contains rule.info.id) = kept := by
  induction sublist with
  | slnil => rfl
  | @cons kept rest rule sublist inductionHypothesis =>
    obtain ⟨absent, distinctRest⟩ := List.nodup_cons.1 distinct
    have dropped : (kept.map (·.info.id)).contains rule.info.id = false := by
      rw [← Bool.not_eq_true, List.contains_iff_mem]
      exact fun member => absent ((sublist.map _).subset member)
    rw [List.filter_cons, dropped]
    exact inductionHypothesis distinctRest
  | @cons_cons kept rest rule sublist inductionHypothesis =>
    obtain ⟨absent, distinctRest⟩ := List.nodup_cons.1 distinct
    have others : ∀ other ∈ rest, ((rule :: kept).map (·.info.id)).contains other.info.id =
        (kept.map (·.info.id)).contains other.info.id := by
      intro other member
      have different : other.info.id ≠ rule.info.id := fun same =>
        absent (List.mem_map.2 ⟨other, member, same⟩)
      simp [different]
    rw [List.filter_cons, if_pos (by simp), List.filter_congr others,
      inductionHypothesis distinctRest]

/-- The slots for a kind are the positions of the rules that include it, in order. -/
theorem Indexed.slots_eq_findIdxs {set : RuleSet} (indexed : set.Indexed) (kind : String) :
    set.slots kind = set.rules.findIdxs fun rule => rule.info.kinds.includes kind := by
  have permuted := findIdxs_append_perm (fun rule => rule.info.kinds.names kind)
    (fun rule => rule.info.kinds.isUniversal) set.rules 0
    fun _ named => ResourceKinds.not_isUniversal_of_names named
  simp only [← ResourceKinds.includes_eq_or] at permuted
  have sorted : (set.slots kind).Pairwise (· ≤ ·) := by
    have ordered : (set.slots kind).Pairwise fun left right => decide (left ≤ right) = true :=
      List.pairwise_mergeSort (by simpa using fun _ _ _ => Nat.le_trans)
        (by simpa using Nat.le_total) _
    exact ordered.imp of_decide_eq_true
  have ascending :
      (set.rules.findIdxs fun rule => rule.info.kinds.includes kind).Pairwise (· ≤ ·) :=
    List.pairwise_findIdxs.imp Nat.le_of_lt
  refine List.Perm.eq_of_pairwise' sorted ascending ?_
  refine (List.mergeSort_perm _ _).trans ?_
  rw [indexed.slots_of_kind, indexed.slots_of_all]
  exact permuted

/-- The rules that apply to a kind are those that include it, in the order of registration. -/
theorem Indexed.applicable_eq_filter {set : RuleSet} (indexed : set.Indexed) (kind : String) :
    set.applicable kind = set.rules.filter fun rule => rule.info.kinds.includes kind := by
  rw [applicable, indexed.slots_eq_findIdxs, filterMap_getElem?_findIdxs]

end RuleSet

end ConfigAudit
