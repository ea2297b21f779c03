import ConfigAudit.Proofs.Delegation
import ConfigAudit.Proofs.Schedule

/-!
# Runs with a budget

With a budget every judgement is delegated, and one that has not arrived when the wait for it ends
is replaced by a breakdown. That is all a budget does: whichever judgements take too long, the other
entries are those of a run without a budget, in the same places, and the run is complete:
`Engine.run_within_budget`. What is said here of a run holds for any number of workers and every
order of their moves.
-/

namespace ConfigAudit

namespace ResultEntry

/-- The entry of a rule that took too long, under a budget in milliseconds. -/
def overrun (budget : Nat) (entry : ResultEntry) : ResultEntry :=
  { entry with
    outcome := .unknown
    message := some ("rule exceeded its evaluation budget of " ++ Numeral.text budget ++ "ms") }

end ResultEntry

namespace Engine

/-- The engine without a budget. -/
def unlimited (engine : Engine) : Engine :=
  { engine with options := { engine.options with budget := none } }

/-- What a budget makes of an entry if certain rules take too long on certain resources. A rule that
is not asked takes no time. -/
def cutShort (engine : Engine) (budget : Nat) (overran : Resource → String → Bool)
    (entry : ResultEntry) : ResultEntry :=
  if overran entry.resource entry.ruleId = true ∧
      engine.options.suppressions.suppresses entry.ruleId entry.resource.address = false then
    entry.overrun budget
  else entry

/-- How some items are judged, each after the moves in the wait for it, if certain rules and no
others take too long on certain resources. -/
structure Delegates (engine : Engine) (items : List WorkItem) (overran : Resource → String → Bool)
    (moves : WorkItem → List Delegation.Move) (result : WorkItem → ResultEntry) : Prop where
  judged : ∀ item ∈ items, ∃ evaluation,
    engine.judge? item (moves item) = some evaluation ∧ result item = item.entry evaluation
  /-- The judgement is sent before the wait for it ends, unless the rule takes too long. -/
  sent_iff : ∀ item ∈ items, engine.isSuppressed item = false →
    (Delegation.Earlier (moves item) .send .stop ↔
      overran item.resource item.rule.info.id = false)

variable {engine : Engine} {budget : Nat} {item : WorkItem} {overran : Resource → String → Bool}
  {evaluation : Evaluation}

/-- The items whose rules take too long. -/
def overrunning (overran : Resource → String → Bool) (item : WorkItem) : Bool :=
  overran item.resource item.rule.info.id

/-! ## One judgement -/

/-- For an item on an allowlist no move is made. -/
theorem judge?_eq_some_iff_of_isSuppressed (suppressed : engine.isSuppressed item = true)
    {moves : List Delegation.Move} :
    engine.judge? item moves = some evaluation ↔
      moves = [] ∧ .skipped ("suppressed by allowlist for " ++ item.rule.info.id) = evaluation := by
  simp only [judge?, suppressed, if_true, Option.ite_none_right_eq_some, Option.some.injEq,
    List.isEmpty_iff]

/-- With a budget a judgement is what the wait for it ends with. -/
theorem judge?_eq_some_iff (limited : engine.options.budget = some budget)
    (shown : engine.isSuppressed item = false) {moves : List Delegation.Move} :
    engine.judge? item moves = some evaluation ↔
      ∃ moment receipt,
        Delegation.play? (item.rule.evaluate item.attributes) moves = some moment ∧
          moment.receipt = some receipt ∧ receipt.evaluation budget = evaluation := by
  simp only [judge?, shown, limited, Bool.false_eq_true, if_false, Option.bind_eq_bind,
    Option.bind_eq_some_iff, Option.some.injEq, exists_and_left]

theorem evaluation_of_isSuppressed (suppressed : engine.isSuppressed item = true)
    (overruns : WorkItem → Bool) :
    engine.evaluation overruns item =
      .skipped ("suppressed by allowlist for " ++ item.rule.info.id) := by
  rw [Engine.evaluation, if_pos suppressed]

/-- With a budget an engine that knows whether an item takes too long judges like a wait that ends
accordingly. -/
theorem evaluation_of_limited (limited : engine.options.budget = some budget)
    (shown : engine.isSuppressed item = false) (overruns : WorkItem → Bool) :
    engine.evaluation overruns item =
      (if overruns item = false then
        Delegation.Receipt.found (item.rule.evaluate item.attributes).evaluation
      else .timeout).evaluation budget := by
  rw [Engine.evaluation, shown, limited]
  cases overruns item <;> rfl

theorem evaluation_unlimited (shown : engine.isSuppressed item = false)
    (overruns : WorkItem → Bool) :
    engine.unlimited.evaluation overruns item =
      (item.rule.evaluate item.attributes).evaluation := by
  have shownToo : engine.unlimited.isSuppressed item = false := shown
  rw [Engine.evaluation, shownToo]
  rfl

/-- A delegated judgement is that of an engine that knows which items take too long. -/
theorem evaluation_of_judge? (limited : engine.options.budget = some budget)
    {moves : List Delegation.Move} (judged : engine.judge? item moves = some evaluation)
    {overruns : WorkItem → Bool}
    (sent_iff : engine.isSuppressed item = false →
      (Delegation.Earlier moves .send .stop ↔ overruns item = false)) :
    evaluation = engine.evaluation overruns item := by
  cases suppressed : engine.isSuppressed item with
  | true =>
    obtain ⟨_, rfl⟩ := (judge?_eq_some_iff_of_isSuppressed suppressed).1 judged
    exact (evaluation_of_isSuppressed suppressed overruns).symm
  | false =>
    obtain ⟨moment, receipt, played, ended, rfl⟩ := (judge?_eq_some_iff limited suppressed).1 judged
    obtain ⟨rfl, _⟩ := Delegation.receipt_of_play played ended
    simp only [evaluation_of_limited limited suppressed, sent_iff suppressed]

/-- With a budget an item has the entry that it has without one, cut short if need be. -/
theorem resultEntry_eq_cutShort (limited : engine.options.budget = some budget)
    (overran : Resource → String → Bool) (overruns : WorkItem → Bool) (item : WorkItem) :
    engine.resultEntry (overrunning overran) item =
      engine.cutShort budget overran (engine.unlimited.resultEntry overruns item) := by
  have told : engine.options.suppressions.suppresses item.rule.info.id item.resource.address =
      engine.isSuppressed item := rfl
  unfold cutShort resultEntry
  simp only [WorkItem.entry, told]
  cases suppressed : engine.isSuppressed item with
  | true =>
    have suppressedToo : engine.unlimited.isSuppressed item = true := suppressed
    simp [evaluation_of_isSuppressed suppressed, evaluation_of_isSuppressed suppressedToo]
  | false =>
    rw [evaluation_of_limited limited suppressed, evaluation_unlimited suppressed, overrunning]
    cases overran item.resource item.rule.info.id <;> rfl

/-- A worker that sends nothing keeps nobody waiting, and one that sends is listened to. -/
theorem exists_judge? (limited : engine.options.budget = some budget)
    (overran : Resource → String → Bool) (item : WorkItem) :
    ∃ moves, engine.judge? item moves = some (engine.evaluation (overrunning overran) item) ∧
      (engine.isSuppressed item = false →
        (Delegation.Earlier moves .send .stop ↔ overrunning overran item = false)) ∧
      (overrunning overran item = true → .send ∉ moves) := by
  cases suppressed : engine.isSuppressed item with
  | true =>
    refine ⟨[], ?_, nofun, fun _ => List.not_mem_nil⟩
    rw [judge?_eq_some_iff_of_isSuppressed suppressed, evaluation_of_isSuppressed suppressed]
    exact ⟨rfl, rfl⟩
  | false =>
    rw [evaluation_of_limited limited suppressed]
    cases overrunning overran item with
    | true =>
      refine ⟨[.start, .expire, .stop], ?_, fun _ => by decide, fun _ => by decide⟩
      exact (judge?_eq_some_iff limited suppressed).2 ⟨_, _, rfl, rfl, rfl⟩
    | false =>
      refine ⟨[.start, .send, .stop], ?_, fun _ => by decide, nofun⟩
      exact (judge?_eq_some_iff limited suppressed).2 ⟨_, _, rfl, rfl, rfl⟩

/-! ## Whole runs -/

section Delegates

variable {items : List WorkItem} {moves : WorkItem → List Delegation.Move}
  {result : WorkItem → ResultEntry}

/-- However judgements are delegated, the result of an item is the one of an engine that knows which
items take too long. -/
theorem Delegates.result_eq (delegates : engine.Delegates items overran moves result)
    (limited : engine.options.budget = some budget) (member : item ∈ items) :
    result item = engine.resultEntry (overrunning overran) item := by
  obtain ⟨evaluation, judged, told⟩ := delegates.judged item member
  rw [told, resultEntry, ← evaluation_of_judge? limited judged (delegates.sent_iff item member)]

/-- For an item on an allowlist no worker is started. -/
theorem Delegates.of_isSuppressed (delegates : engine.Delegates items overran moves result)
    (member : item ∈ items) (suppressed : engine.isSuppressed item = true) :
    moves item = [] ∧ (result item).outcome = .skipped := by
  obtain ⟨evaluation, judged, told⟩ := delegates.judged item member
  obtain ⟨unmoved, rfl⟩ := (judge?_eq_some_iff_of_isSuppressed suppressed).1 judged
  exact ⟨unmoved, congrArg ResultEntry.outcome told⟩

/-- However judgements are delegated and items shared out, a run that nobody cancels has the results
of an engine that knows which items take too long. -/
theorem Delegates.results_eq_of_play (delegates : engine.Delegates items overran moves result)
    (limited : engine.options.budget = some budget) {workers : Nat} {steps : List Schedule.Move}
    {moment : Schedule.Moment}
    (played : Schedule.play? workers result items false steps = some moment)
    (ended : moment.isOver = true) (fresh : .cancel ∉ steps) :
    moment.results =
      { entries := items.map (engine.resultEntry (overrunning overran)), complete := true } := by
  have results := (Schedule.records_of_play played).results_of_fresh ended fresh
  rwa [List.map_congr_left fun item member => delegates.result_eq limited member] at results

end Delegates

/-- Some items can be judged whichever of them take too long. -/
theorem exists_delegates (limited : engine.options.budget = some budget)
    (overran : Resource → String → Bool) (items : List WorkItem) :
    ∃ moves, engine.Delegates items overran moves (engine.resultEntry (overrunning overran)) ∧
      ∀ item, overran item.resource item.rule.info.id = true → .send ∉ moves item := by
  choose moves judged sent_iff silent using exists_judge? limited overran
  exact ⟨moves, ⟨fun item _ => ⟨_, judged item, rfl⟩, fun item _ => sent_iff item⟩, silent⟩

/-- Whether a run is left alone does not depend on the budget. -/
theorem Undisturbed.unlimited {tree : Tree} (undisturbed : engine.Undisturbed tree {} false) :
    engine.unlimited.Undisturbed tree {} false :=
  ⟨undisturbed.fresh, undisturbed.outside, undisturbed.inside⟩

/-- A budget replaces the entries of the judgements that take too long, and changes nothing else. -/
theorem entries_within_budget {tree : Tree} (limited : engine.options.budget = some budget)
    (undisturbed : engine.Undisturbed tree {} false) (overran : Resource → String → Bool) :
    (engine.workList tree).map (engine.resultEntry (overrunning overran)) =
      (engine.unlimited.run tree {} false).results.entries.map
        (engine.cutShort budget overran) := by
  have sameItems : engine.unlimited.workList tree = engine.workList tree := rfl
  rw [results_run undisturbed.unlimited, List.map_map, sameItems]
  exact List.map_congr_left fun item _ => resultEntry_eq_cutShort limited overran _ item

/-- With a budget, whichever rules take too long on whichever resources, a run that nobody cancels
has the entries of the run without a budget, in which those of the judgements that take too long,
and were asked for, are replaced by breakdowns; and it is complete. So it is for any number of
workers and every order of their moves, and for an engine that takes the items in their order. For a
resource on the allowlist of the rule no worker is started. Such a run can be made even if the
judgements that take too long never arrive at all. -/
theorem run_within_budget {tree : Tree} (limited : engine.options.budget = some budget)
    (undisturbed : engine.Undisturbed tree {} false) (overran : Resource → String → Bool) :
    let items := engine.workList tree
    let expected : ResultSet :=
      { entries := (engine.unlimited.run tree {} false).results.entries.map
          (engine.cutShort budget overran)
        complete := true }
    (∀ moves result, engine.Delegates items overran moves result →
        (∀ item ∈ items, engine.isSuppressed item = true →
          moves item = [] ∧ (result item).outcome = .skipped) ∧
        ∀ workers steps moment,
          Schedule.play? workers result items false steps = some moment →
            moment.isOver = true → .cancel ∉ steps → moment.results = expected) ∧
      (∃ moves result, engine.Delegates items overran moves result ∧
        (∀ item, overran item.resource item.rule.info.id = true → .send ∉ moves item) ∧
        ∀ others, ∃ steps moment,
          Schedule.play? (others + 1) result items false steps = some moment ∧
            moment.isOver = true ∧ .cancel ∉ steps) ∧
      (engine.run tree { overruns := overrunning overran } false).results = expected := by
  intro items expected
  have same : { entries := items.map (engine.resultEntry (overrunning overran))
                complete := true } = expected :=
    congrArg (ResultSet.mk · true) (entries_within_budget limited undisturbed overran)
  have leftAlone : engine.Undisturbed tree { overruns := overrunning overran } false :=
    ⟨undisturbed.fresh, undisturbed.outside, undisturbed.inside⟩
  refine ⟨fun moves result delegates => ⟨fun item => delegates.of_isSuppressed,
    fun workers steps moment played ended fresh => ?_⟩, ?_, ?_⟩
  · exact (delegates.results_eq_of_play limited played ended fresh).trans same
  · obtain ⟨moves, delegates, silent⟩ := exists_delegates limited overran items
    obtain ⟨steps, moment, played, ended, _, fresh⟩ :=
      Schedule.exists_play_of_run engine tree { overruns := overrunning overran } false
    refine ⟨moves, _, delegates, silent, fun others => ⟨steps, moment, ?_, ended, ?_⟩⟩
    · exact Schedule.play?_of_le (Nat.le_add_left 1 others) played
    · exact fresh leftAlone
  · exact (results_run leftAlone).trans same

/-- Three workers on three resources. One rule crashes and is once too late to do so. The other one
is late twice, but for one of the resources it is not asked. -/
theorem run_within_budget_of_late_crash :
    let crashing : Rule :=
      { info := ⟨"R1", "first", .logging, .info, .universal, .skip⟩
        evaluate := fun _ => .crashed (some "boom") }
    let passing : Rule :=
      { info := ⟨"R2", "second", .identity, .error, .ofList ["net"], .skip⟩
        evaluate := fun _ => .concluded .passed }
    let engine : Engine :=
      { rules := (RuleSet.empty.append crashing).append passing
        options := { budget := some 5, suppressions := ⟨[("R2", ⟨["net[0]"], []⟩)]⟩ } }
    let tree := ((Tree.empty.push "net" []).push "disk" []).push "net" []
    let overran (resource : Resource) (ruleId : String) : Bool :=
      [("net[0]", "R1"), ("net[0]", "R2"), ("net[1]", "R2")].contains (resource.address, ruleId)
    engine.options.budget = some 5 ∧ engine.Undisturbed tree {} false ∧
      ∃ moves result steps moment,
        engine.Delegates (engine.workList tree) overran moves result ∧
          Schedule.play? 3 result (engine.workList tree) false steps = some moment ∧
          moment.isOver = true ∧ .cancel ∉ steps ∧ moment.results.complete = true ∧
          moment.results.entries.map
              (fun entry => (entry.resource.address, entry.ruleId, entry.outcome, entry.message)) =
            [("disk[0]", "R1", .unknown, some "rule panicked: boom"),
              ("net[0]", "R1", .unknown, some "rule exceeded its evaluation budget of 5ms"),
              ("net[0]", "R2", .skipped, some "suppressed by allowlist for R2"),
              ("net[1]", "R1", .unknown, some "rule panicked: boom"),
              ("net[1]", "R2", .unknown, some "rule exceeded its evaluation budget of 5ms")] := by
  intro crashing passing engine tree overran
  have calm : ∀ rule ∈ engine.rules.rules, ∀ attributes, rule.cancels attributes = false := by
    simp [engine, RuleSet.rules_append, RuleSet.empty, crashing, passing]
  have undisturbed := undisturbed_of_calm calm tree fun _ => false
  have built : RuleSet.ofRules [crashing, passing] = .ok engine.unlimited.rules :=
    RuleSet.ofRules_eq_ok (by decide +kernel) (by decide)
  have indexed := (RuleSet.indexed_of_ofRules built).1
  obtain ⟨every, ⟨moves, result, delegates, _, possible⟩, _⟩ :=
    run_within_budget rfl undisturbed overran
  obtain ⟨steps, moment, played, ended, fresh⟩ := possible 2
  have results := (every moves result delegates).2 3 steps moment played ended fresh
  refine ⟨rfl, undisturbed, moves, result, steps, moment, delegates, played, ended, fresh, ?_, ?_⟩
  · rw [results]
  · rw [results, entries_run indexed rfl undisturbed.unlimited]
    decide +kernel

end Engine

end ConfigAudit
