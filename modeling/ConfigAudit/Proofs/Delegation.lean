import ConfigAudit.Delegation
import ConfigAudit.Proofs.Except

/-!
# How a wait ends

A wait ends with the judgement if the worker sent it before, and otherwise with the budget used up:
`Delegation.receipt_of_play`. It never ends for the reason that the channel is closed, since a
worker sends before it leaves. A worker that takes too long cannot hold it up:
`Delegation.exists_step?_stop`. `Delegation.Records` is the invariant that ties the state of a wait
to the moves made so far.
-/

namespace ConfigAudit

namespace Delegation

variable {reply : Reply} {moves : List Move}

/-- The first move of some kind comes before the first one of another kind, if there is any. -/
def Earlier (moves : List Move) (first second : Move) : Prop :=
  moves.idxOf first < moves.idxOf second

instance (moves : List Move) (first second : Move) : Decidable (Earlier moves first second) :=
  inferInstanceAs (Decidable (moves.idxOf first < moves.idxOf second))

/-- What was made first is not changed by a further move. -/
theorem earlier_append_iff {first second : Move} (made : second ∈ moves) (move : Move) :
    Earlier (moves ++ [move]) first second ↔ Earlier moves first second := by
  have within := List.idxOf_lt_length_of_mem made
  unfold Earlier
  rw [List.idxOf_append, List.idxOf_append, if_pos made]
  split
  case isTrue => rfl
  case isFalse absent =>
    have beyond := List.idxOf_eq_length absent
    omega

/-- A move that is made for the first time comes after all that was made before. -/
theorem earlier_append_self_iff {first second : Move} (unmade : second ∉ moves) :
    Earlier (moves ++ [second]) first second ↔ first ∈ moves := by
  unfold Earlier
  rw [List.idxOf_append, List.idxOf_append, if_neg unmade]
  by_cases made : first ∈ moves
  · have within := List.idxOf_lt_length_of_mem made
    simp [made]
    omega
  · simp [made]

/-- What a move does, and when it can be made. -/
inductive Step (reply : Reply) : Moment → Move → Moment → Prop where
  | start {moment : Moment} (absent : moment.worker = .absent) :
      Step reply moment .start { moment with worker := .judging }
  | send {moment : Moment} (judging : moment.worker = .judging) :
      Step reply moment .send
        { moment with worker := .sent, channel := some reply.evaluation }
  | leave {moment : Moment} (sent : moment.worker = .sent) :
      Step reply moment .leave { moment with worker := .gone }
  | expire {moment : Moment} (started : moment.worker ≠ .absent) :
      Step reply moment .expire { moment with expired := true }
  | stop {moment : Moment} {receipt : Receipt} (waiting : moment.receipt = none)
      (reason : moment.reason? = some receipt) :
      Step reply moment .stop { moment with receipt := some receipt }

/-- The moves that can be carried out are the steps. -/
theorem step_of_step?_eq_some {moment next : Moment} {move : Move}
    (stepped : moment.step? reply move = some next) : Step reply moment move next := by
  cases move with
  | start =>
    obtain ⟨absent, ⟨⟩⟩ := Option.ite_none_right_eq_some.1 stepped
    exact .start absent
  | send =>
    obtain ⟨judging, ⟨⟩⟩ := Option.ite_none_right_eq_some.1 stepped
    exact .send judging
  | leave =>
    obtain ⟨sent, ⟨⟩⟩ := Option.ite_none_right_eq_some.1 stepped
    exact .leave sent
  | expire =>
    obtain ⟨started, ⟨⟩⟩ := Option.ite_none_left_eq_some.1 stepped
    exact .expire started
  | stop =>
    cases waiting : moment.receipt with
    | some receipt => simp [Moment.step?, waiting] at stepped
    | none =>
      simp only [Moment.step?, waiting, Option.map_eq_some_iff] at stepped
      obtain ⟨receipt, reason, rfl⟩ := stepped
      exact .stop waiting reason

/-- The state of a wait is the record of the moves made so far. -/
structure Records (reply : Reply) (moves : List Move) (moment : Moment) : Prop where
  channel : moment.channel = if .send ∈ moves then some reply.evaluation else none
  /-- A worker sends before it leaves. -/
  gone : moment.worker = .sent ∨ moment.worker = .gone → .send ∈ moves
  expired : moment.expired = true ↔ .expire ∈ moves
  waiting : moment.receipt = none ↔ .stop ∉ moves
  receipt : ∀ receipt, moment.receipt = some receipt →
    receipt = (if Earlier moves .send .stop then .found reply.evaluation else .timeout) ∧
      (Earlier moves .send .stop ∨ Earlier moves .expire .stop)

theorem records_start (reply : Reply) : Records reply [] {} where
  channel := by simp
  gone := by simp
  expired := by simp
  waiting := by simp
  receipt := nofun

/-- A wait ends with what has been sent, or with the budget used up. -/
theorem Records.reason {moment : Moment} (records : Records reply moves moment)
    {receipt : Receipt} (reason : moment.reason? = some receipt) :
    receipt = (if .send ∈ moves then .found reply.evaluation else .timeout) ∧
      (.send ∈ moves ∨ .expire ∈ moves) := by
  unfold Moment.reason? at reason
  rw [records.channel] at reason
  by_cases sent : .send ∈ moves
  · simp only [sent, if_true, Option.some.injEq] at reason
    simp [sent, reason]
  · have present : moment.worker ≠ .gone := fun gone => sent (records.gone (.inr gone))
    simp only [sent, if_false, present, Option.ite_none_right_eq_some, Option.some.injEq,
      records.expired] at reason
    simp [sent, reason.1, reason.2]

/-- A move that leaves the end of the wait as it is keeps what is recorded of it. -/
theorem Records.receipt_append {moment : Moment} (records : Records reply moves moment)
    (move : Move) : ∀ receipt, moment.receipt = some receipt →
      receipt = (if Earlier (moves ++ [move]) .send .stop then .found reply.evaluation
        else .timeout) ∧
      (Earlier (moves ++ [move]) .send .stop ∨ Earlier (moves ++ [move]) .expire .stop) := by
  intro receipt ended
  have stopped : .stop ∈ moves := by
    refine Decidable.byContradiction fun unmade => ?_
    exact nomatch ended.symm.trans (records.waiting.2 unmade)
  simp only [earlier_append_iff stopped]
  exact records.receipt receipt ended

/-- Every move is recorded. -/
theorem Records.step {moment next : Moment} (records : Records reply moves moment) {move : Move}
    (stepped : Step reply moment move next) : Records reply (moves ++ [move]) next := by
  cases stepped with
  | start absent =>
    exact {
      channel := by simpa using records.channel
      gone := by simp
      expired := by simpa using records.expired
      waiting := by simpa using records.waiting
      receipt := records.receipt_append .start }
  | send judging =>
    exact {
      channel := by simp
      gone := by simp
      expired := by simpa using records.expired
      waiting := by simpa using records.waiting
      receipt := records.receipt_append .send }
  | leave sent =>
    exact {
      channel := by simpa using records.channel
      gone := fun _ => List.mem_append_left _ (records.gone (.inl sent))
      expired := by simpa using records.expired
      waiting := by simpa using records.waiting
      receipt := records.receipt_append .leave }
  | expire started =>
    exact {
      channel := by simpa using records.channel
      gone := fun left => List.mem_append_left _ (records.gone left)
      expired := by simp
      waiting := by simpa using records.waiting
      receipt := records.receipt_append .expire }
  | @stop receipt waiting reason =>
    have unmade := records.waiting.1 waiting
    obtain ⟨ending, cause⟩ := records.reason reason
    exact {
      channel := by simpa using records.channel
      gone := fun left => List.mem_append_left _ (records.gone left)
      expired := by simpa using records.expired
      waiting := by simp
      receipt := by
        rintro _ ⟨⟩
        simp only [earlier_append_self_iff unmade]
        exact ⟨ending, cause⟩ }

/-- A wait that has ended did so with the judgement if that was sent before, and otherwise with the
budget used up. -/
theorem receipt_of_play {moment : Moment} {receipt : Receipt}
    (played : play? reply moves = some moment) (ended : moment.receipt = some receipt) :
    receipt = (if Earlier moves .send .stop then .found reply.evaluation else .timeout) ∧
      (Earlier moves .send .stop ∨ Earlier moves .expire .stop) := by
  have records : Records reply moves moment :=
    records_of_foldlM_eq_some (Records reply)
      (fun recorded stepped => recorded.step (step_of_step?_eq_some stepped))
      (records_start reply) played
  exact records.receipt receipt ended

/-- No worker exits without a result. -/
theorem receipt_ne_disconnected {moment : Moment} {receipt : Receipt}
    (played : play? reply moves = some moment) (ended : moment.receipt = some receipt) :
    receipt ≠ .disconnected := by
  obtain ⟨rfl, _⟩ := receipt_of_play played ended
  split <;> exact nofun

/-- Once the budget is used up the wait can end, whatever the worker does. -/
theorem exists_step?_stop {moment : Moment} (expired : moment.expired = true)
    (waiting : moment.receipt = none) :
    ∃ receipt, moment.step? reply .stop = some { moment with receipt := some receipt } := by
  obtain ⟨receipt, reason⟩ : ∃ receipt, moment.reason? = some receipt := by
    unfold Moment.reason?
    cases moment.channel with
    | some evaluation => exact ⟨_, rfl⟩
    | none =>
      by_cases gone : moment.worker = .gone
      · exact ⟨.disconnected, if_pos gone⟩
      · exact ⟨.timeout, by simp [gone, expired]⟩
  refine ⟨receipt, ?_⟩
  simp only [Moment.step?, waiting, reason, Option.map_some]

end Delegation

end ConfigAudit
