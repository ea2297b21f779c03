import Mathlib.Data.List.TakeWhile
import ConfigAudit.Proofs.Engine
import ConfigAudit.Schedule

/-!
# Every order of the moves of a run

Which items a run leaves out is decided by one thing only: whether their worker looked at the token
before the run was cancelled. `Schedule.isAdmitted` reads this off the moves, `Schedule.Records` is
the invariant that ties it to the slots, and `Schedule.results_of_play` says what a run over any
items returns.
-/

namespace ConfigAudit

namespace Schedule

variable {workers : Nat} {result : WorkItem → ResultEntry} {items : List WorkItem}

/-- What a move does, and when it can be made. -/
inductive Step (workers : Nat) (result : WorkItem → ResultEntry) (items : List WorkItem) :
    Moment → Move → Moment → Prop where
  | take {moment : Moment} {position : Nat} (waits : moment.slots[position]? = some .waiting)
      (free : moment.busy < workers) :
      Step workers result items moment (.take position) (moment.put position .taken)
  | check {moment : Moment} {position : Nat} (taken : moment.slots[position]? = some .taken) :
      Step workers result items moment (.check position)
        (moment.put position (if moment.cancelled then .empty else .judging))
  | fill {moment : Moment} {position : Nat} {item : WorkItem}
      (known : items[position]? = some item)
      (judging : moment.slots[position]? = some .judging) :
      Step workers result items moment (.fill position)
        (moment.put position (.filled (result item)))
  | cancel {moment : Moment} :
      Step workers result items moment .cancel { moment with cancelled := true }

theorem replace?_eq_some_iff {moment next : Moment} {position : Nat} {before after : Slot} :
    moment.replace? position before after = some next ↔
      moment.slots[position]? = some before ∧ moment.put position after = next := by
  simp [Moment.replace?]

/-- The moves that can be carried out are the steps. -/
theorem step_of_step?_eq_some {moment next : Moment} {move : Move}
    (stepped : moment.step? workers result items move = some next) :
    Step workers result items moment move next := by
  cases move with
  | take position =>
    simp only [Moment.step?, Option.ite_none_right_eq_some, replace?_eq_some_iff] at stepped
    obtain ⟨free, waits, rfl⟩ := stepped
    exact .take waits free
  | check position =>
    obtain ⟨taken, rfl⟩ := replace?_eq_some_iff.1 stepped
    exact .check taken
  | fill position =>
    simp only [Moment.step?, Option.bind_eq_bind, Option.bind_eq_some_iff,
      replace?_eq_some_iff] at stepped
    obtain ⟨item, known, judging, rfl⟩ := stepped
    exact .fill known judging
  | cancel =>
    obtain rfl : { moment with cancelled := true } = next := Option.some.inj stepped
    exact .cancel

/-- The moves of some workers can be made by more of them. -/
theorem play?_of_le {few many : Nat} {cancelled : Bool} {moves : List Move} {moment : Moment}
    (more : few ≤ many) (played : play? few result items cancelled moves = some moment) :
    play? many result items cancelled moves = some moment := by
  have kept {before after : Moment} {move : Move}
      (stepped : before.step? few result items move = some after) :
      before.step? many result items move = some after := by
    cases move with
    | take position =>
      obtain ⟨free, taken⟩ := Option.ite_none_right_eq_some.1 stepped
      exact Option.ite_none_right_eq_some.2 ⟨Nat.lt_of_lt_of_le free more, taken⟩
    | check | fill | cancel => exact stepped
  unfold play? at played ⊢
  generalize Moment.start cancelled items.length = start at played ⊢
  induction moves generalizing start with
  | nil => exact played
  | cons move rest inductionHypothesis =>
    rw [List.foldlM_cons, Option.bind_eq_bind, Option.bind_eq_some_iff] at played ⊢
    obtain ⟨next, stepped, continued⟩ := played
    exact ⟨next, kept stepped, inductionHypothesis next continued⟩

theorem getElem?_put (moment : Moment) (position other : Nat) (slot : Slot) :
    (moment.put position slot).slots[other]? =
      if position = other ∧ position < moment.slots.length then some slot
      else if position = other then none else moment.slots[other]? := by
  rw [Moment.put, List.getElem?_set]
  grind

/-- Whether the worker who took the item at a position looks at the token before anybody cancels the
run. -/
def isAdmitted (cancelled : Bool) (moves : List Move) (position : Nat) : Bool :=
  !cancelled && (moves.takeWhile (· != .cancel)).contains (.check position)

theorem takeWhile_eq_self {moves : List Move} (fresh : .cancel ∉ moves) :
    moves.takeWhile (· != .cancel) = moves := by
  rw [List.takeWhile_eq_self_iff]
  intro move member
  simpa using ne_of_mem_of_not_mem member fresh

/-- What follows a cancellation does not matter. -/
theorem takeWhile_append_of_mem {moves : List Move} (cancel : .cancel ∈ moves)
    (rest : List Move) :
    (moves ++ rest).takeWhile (· != .cancel) = moves.takeWhile (· != .cancel) := by
  induction moves with
  | nil => cases cancel
  | cons move earlier inductionHypothesis =>
    by_cases same : move = .cancel
    · simp [same]
    · have later : .cancel ∈ earlier := (List.mem_cons.1 cancel).resolve_left (Ne.symm same)
      simp [same, inductionHypothesis later]

/-- As long as nobody does anything but cancel the run, no item is admitted. -/
theorem isAdmitted_of_forall_cancel {moves : List Move} (unworked : ∀ move ∈ moves, move = .cancel)
    (cancelled : Bool) (position : Nat) : isAdmitted cancelled moves position = false := by
  unfold isAdmitted
  cases moves with
  | nil => simp
  | cons move rest =>
    obtain rfl := unworked move List.mem_cons_self
    simp

/-- No other move makes a difference to an item. -/
theorem isAdmitted_append_of_ne {move : Move} {position : Nat} (other : move ≠ .check position)
    (cancelled : Bool) (moves : List Move) :
    isAdmitted cancelled (moves ++ [move]) position = isAdmitted cancelled moves position := by
  unfold isAdmitted
  by_cases cancel : .cancel ∈ moves
  · rw [takeWhile_append_of_mem cancel]
  · rw [List.takeWhile_append_of_pos fun earlier member => by
        simpa using ne_of_mem_of_not_mem member cancel, takeWhile_eq_self cancel]
    cases move with
    | cancel => simp
    | take | fill => simp
    | check looked =>
      have different : position ≠ looked := fun same => other (congrArg Move.check same.symm)
      simp [different]

/-- An item is admitted by the first look at the token iff the run is not cancelled by then. -/
theorem isAdmitted_append_check {moves : List Move} {position : Nat}
    (first : .check position ∉ moves) (cancelled : Bool) :
    isAdmitted cancelled (moves ++ [.check position]) position =
      !(cancelled || moves.contains .cancel) := by
  unfold isAdmitted
  by_cases cancel : .cancel ∈ moves
  · have unseen : .check position ∉ moves.takeWhile (· != .cancel) := fun member =>
      first ((List.takeWhile_prefix _).subset member)
    simp [takeWhile_append_of_mem cancel, cancel, unseen]
  · rw [takeWhile_eq_self (by simp [cancel])]
    simp [cancel]

/-- What a slot says of the moves made so far and of the item at its position. -/
def Tells (result : WorkItem → ResultEntry) (items : List WorkItem) (cancelled : Bool)
    (moves : List Move) (position : Nat) : Slot → Prop
  | .waiting | .taken => .check position ∉ moves
  | .judging => isAdmitted cancelled moves position = true
  | .empty => .check position ∈ moves ∧ isAdmitted cancelled moves position = false
  | .filled entry =>
    isAdmitted cancelled moves position = true ∧ items[position]?.map result = some entry

/-- The state of a run is the record of the moves made so far. -/
structure Records (result : WorkItem → ResultEntry) (items : List WorkItem) (cancelled : Bool)
    (moves : List Move) (moment : Moment) : Prop where
  token : moment.cancelled = (cancelled || moves.contains .cancel)
  size : moment.slots.length = items.length
  slots : ∀ position slot, moment.slots[position]? = some slot →
    Tells result items cancelled moves position slot

theorem records_start (result : WorkItem → ResultEntry) (items : List WorkItem)
    (cancelled : Bool) :
    Records result items cancelled [] (.start cancelled items.length) where
  token := by simp [Moment.start]
  size := by simp [Moment.start]
  slots := by
    intro position slot found
    obtain ⟨_, rfl⟩ : position < items.length ∧ slot = .waiting := by
      simpa [Moment.start, List.getElem?_replicate, eq_comm] using found
    exact List.not_mem_nil

/-- What a slot says stays true as long as nobody looks at the token for its item. -/
theorem Tells.append {cancelled : Bool} {moves : List Move} {position : Nat} {slot : Slot}
    (tells : Tells result items cancelled moves position slot) {move : Move}
    (other : move ≠ .check position) :
    Tells result items cancelled (moves ++ [move]) position slot := by
  cases slot with
  | waiting | taken => simpa [Tells, other.symm] using tells
  | judging | filled => simpa [Tells, isAdmitted_append_of_ne other] using tells
  | empty => simpa [Tells, other.symm, isAdmitted_append_of_ne other] using tells

/-- A move after which one slot is replaced keeps the record if the new slot tells the truth. -/
theorem Records.put {cancelled : Bool} {moves : List Move} {moment : Moment}
    (records : Records result items cancelled moves moment) {move : Move} {position : Nat}
    {slot : Slot} (notCancel : move ≠ .cancel)
    (others : ∀ other, other ≠ position → move ≠ .check other)
    (tells : Tells result items cancelled (moves ++ [move]) position slot) :
    Records result items cancelled (moves ++ [move]) (moment.put position slot) where
  token := by simpa [Moment.put, notCancel.symm] using records.token
  size := by simpa [Moment.put] using records.size
  slots := by
    intro other found at_other
    rw [getElem?_put] at at_other
    by_cases same : position = other
    · subst same
      obtain ⟨_, rfl⟩ : position < moment.slots.length ∧ slot = found := by
        simpa using at_other
      exact tells
    · simp only [same, false_and, if_false] at at_other
      exact (records.slots other found at_other).append (others other (Ne.symm same))

/-- Every move is recorded. -/
theorem Records.step {cancelled : Bool} {moves : List Move} {moment next : Moment}
    (records : Records result items cancelled moves moment) {move : Move}
    (stepped : Step workers result items moment move next) :
    Records result items cancelled (moves ++ [move]) next := by
  cases stepped with
  | @take position waits free =>
    refine records.put (by simp) (by simp) ?_
    exact (records.slots _ _ waits).append (by simp)
  | @check position taken =>
    have unseen : .check position ∉ moves := records.slots _ _ taken
    have admitted := isAdmitted_append_check unseen cancelled
    rw [← records.token] at admitted
    refine records.put (by simp) (fun other different => by simpa using different.symm) ?_
    cases token : moment.cancelled with
    | true => simpa [Tells, token] using admitted
    | false => simpa [Tells, token] using admitted
  | @fill position item known judging =>
    refine records.put (by simp) (by simp) ⟨?_, by simp [known]⟩
    rw [isAdmitted_append_of_ne (by simp)]
    exact records.slots _ _ judging
  | cancel =>
    exact {
      token := by simp
      size := records.size
      slots := fun position slot found => (records.slots position slot found).append (by simp) }

/-- The state that some moves lead to is the record of these moves. -/
theorem records_of_play {cancelled : Bool} {moves : List Move} {moment : Moment}
    (played : play? workers result items cancelled moves = some moment) :
    Records result items cancelled moves moment :=
  records_of_foldlM_eq_some (Records result items cancelled)
    (fun records stepped => records.step (step_of_step?_eq_some stepped))
    (records_start result items cancelled) played

/-- At the end of a run the slot of an item is filled with its result if it was admitted, and empty
otherwise. -/
theorem Records.slots_eq_of_isOver {cancelled : Bool} {moves : List Move} {moment : Moment}
    (records : Records result items cancelled moves moment) (ended : moment.isOver = true) :
    moment.slots = items.zipIdx.map fun (item, position) =>
      if isAdmitted cancelled moves position then .filled (result item) else .empty := by
  refine List.ext_getElem (by simp [records.size]) fun position within _ => ?_
  have settled : moment.slots[position].isSettled = true :=
    List.all_eq_true.1 ended _ (List.getElem_mem within)
  have tells := records.slots position _ (List.getElem?_eq_getElem within)
  have known : position < items.length := records.size ▸ within
  cases slot : moment.slots[position] with
  | waiting | taken | judging => simp [slot, Slot.isSettled] at settled
  | empty =>
    rw [slot] at tells
    have refused : isAdmitted cancelled moves position = false := tells.2
    simp [refused]
  | filled entry =>
    rw [slot] at tells
    obtain ⟨admitted, found⟩ := tells
    obtain rfl : result items[position] = entry := by simpa [known] using found
    simp [admitted]

/-- The results of a run are those of the admitted items, in the order of the work list. -/
theorem Records.entries_of_isOver {cancelled : Bool} {moves : List Move} {moment : Moment}
    (records : Records result items cancelled moves moment) (ended : moment.isOver = true) :
    moment.results.entries =
      (items.zipIdx.filter fun entry => isAdmitted cancelled moves entry.2).map fun entry =>
        result entry.1 := by
  have slots := records.slots_eq_of_isOver ended
  simp only [Moment.results, Engine.collect, slots, List.map_map, List.filterMap_map]
  generalize items.zipIdx = numbered
  induction numbered with
  | nil => rfl
  | cons head rest inductionHypothesis =>
    cases admitted : isAdmitted cancelled moves head.2 <;>
      simpa [admitted, Slot.result?, Function.comp_def] using inductionHypothesis

/-- A run is complete iff no slot is empty at its end. -/
theorem complete_iff_of_isOver {moment : Moment} (ended : moment.isOver = true) :
    moment.results.complete = true ↔ .empty ∉ moment.slots := by
  simp only [Moment.results, Engine.collect, List.all_map, List.all_eq_true, Function.comp_apply]
  constructor
  · intro filled member
    cases filled _ member
  · intro absent slot member
    have settled : slot.isSettled = true := List.all_eq_true.1 ended slot member
    cases slot with
    | waiting | taken | judging => cases settled
    | empty => exact absurd member absent
    | filled => rfl

/-- In a run that nobody cancels every item is admitted. -/
theorem Records.isAdmitted_of_fresh {moves : List Move} {moment : Moment}
    (records : Records result items false moves moment) (ended : moment.isOver = true)
    (fresh : .cancel ∉ moves) {position : Nat} (within : position < items.length) :
    isAdmitted false moves position = true := by
  have inSlots : position < moment.slots.length := records.size ▸ within
  have settled : moment.slots[position].isSettled = true :=
    List.all_eq_true.1 ended _ (List.getElem_mem inSlots)
  have tells := records.slots position _ (List.getElem?_eq_getElem inSlots)
  cases slot : moment.slots[position] with
  | waiting | taken | judging => simp [slot, Slot.isSettled] at settled
  | empty =>
    rw [slot] at tells
    simpa [isAdmitted, takeWhile_eq_self fresh] using tells.1
  | filled entry =>
    rw [slot] at tells
    exact tells.1

/-- A worker has taken the item at a position and is not done with it. -/
def Holds (moment : Moment) (position : Nat) : Prop :=
  moment.slots[position]? = some .taken ∨ moment.slots[position]? = some .judging

/-- Numbering the items makes no difference to their results. -/
theorem map_zipIdx (result : WorkItem → ResultEntry) (items : List WorkItem) :
    (items.zipIdx.map fun entry => result entry.1) = items.map result := by
  have numbered := congrArg (List.map result) (List.zipIdx_map_fst 0 items)
  rwa [List.map_map] at numbered

/-- A run that nobody cancels returns the result of each item. -/
theorem Records.results_of_fresh {moves : List Move} {moment : Moment}
    (records : Records result items false moves moment) (ended : moment.isOver = true)
    (fresh : .cancel ∉ moves) :
    moment.results = { entries := items.map result, complete := true } := by
  have admitted {item : WorkItem} {position : Nat} (member : (item, position) ∈ items.zipIdx) :
      isAdmitted false moves position = true :=
    records.isAdmitted_of_fresh ended fresh (by simpa using List.snd_lt_of_mem_zipIdx member)
  have entries : moment.results.entries = items.map result := by
    rw [records.entries_of_isOver ended, List.filter_eq_self.2 fun entry => admitted, map_zipIdx]
  have complete : moment.results.complete = true := by
    rw [complete_iff_of_isOver ended, records.slots_eq_of_isOver ended]
    simp only [List.mem_map, not_exists, not_and]
    intro entry member
    simp [admitted member]
  rw [← entries, ← complete]

/-- Numbered items below a bound are the first ones. -/
theorem filter_zipIdx_lt (items : List WorkItem) (start count : Nat) :
    (items.zipIdx start).filter (fun entry => entry.2 < start + count) =
      (items.take count).zipIdx start := by
  induction items generalizing start count with
  | nil => simp
  | cons item rest inductionHypothesis =>
    cases count with
    | zero =>
      simp only [List.take_zero, List.zipIdx_nil, List.filter_eq_nil_iff, decide_eq_true_eq]
      intro entry member
      have bound := List.le_snd_of_mem_zipIdx member
      omega
    | succ count =>
      have step := inductionHypothesis (start + 1) count
      rw [Nat.add_right_comm, Nat.add_assoc] at step
      simpa using step

/-- The state of a run by one worker: the worker holds one item at most, and looks at the token for
the items in the order in which they are taken. -/
structure Alone (moves : List Move) (moment : Moment) : Prop where
  holds_one : ∀ left right : Nat, Holds moment left → Holds moment right → left = right
  unchecked : ∀ position : Nat, moment.slots[position]? = some Slot.taken →
    moves.filterMap Move.taken? = moves.filterMap Move.checked? ++ [position]
  checked : (∀ position : Nat, moment.slots[position]? ≠ some Slot.taken) →
    moves.filterMap Move.taken? = moves.filterMap Move.checked?

theorem getElem?_start {cancelled : Bool} {size position : Nat} {slot : Slot}
    (found : (Moment.start cancelled size).slots[position]? = some slot) : slot = .waiting := by
  simp only [Moment.start, List.getElem?_replicate, Option.ite_none_right_eq_some,
    Option.some.injEq] at found
  exact found.2.symm

theorem alone_start (cancelled : Bool) (size : Nat) : Alone [] (.start cancelled size) where
  holds_one := by
    rintro left right (found | found) _ <;> cases getElem?_start found
  unchecked := fun position found => by cases getElem?_start found
  checked := fun _ => rfl

/-- A worker who is not busy holds nothing. -/
theorem not_holds_of_busy_eq_zero {moment : Moment} (idle : moment.busy = 0) (position : Nat) :
    ¬ Holds moment position := by
  have none_held := List.countP_eq_zero.1 idle
  rintro (found | found) <;>
    exact none_held _ (List.mem_of_getElem? found) rfl

/-- A position that holds an item after a replacement held one before, unless it is the place of
the replacement. -/
theorem holds_of_holds_put {moment : Moment} {position other : Nat} {slot : Slot}
    (holds : Holds (moment.put position slot) other) : other = position ∨ Holds moment other := by
  unfold Holds at holds ⊢
  rw [getElem?_put] at holds
  grind

/-- Whatever a single worker puts in the place of its item, it holds no other one. -/
theorem Alone.eq_of_holds_put {moves : List Move} {moment : Moment} (alone : Alone moves moment)
    {position other : Nat} {slot : Slot} (held : Holds moment position)
    (holds : Holds (moment.put position slot) other) : other = position := by
  rcases holds_of_holds_put holds with same | holds
  · exact same
  · exact alone.holds_one _ _ holds held

/-- A single worker stays alone with its item. -/
theorem Alone.step {moves : List Move} {moment next : Moment} (alone : Alone moves moment)
    {move : Move} (stepped : Step 1 result items moment move next) :
    Alone (moves ++ [move]) next := by
  cases stepped with
  | @take position waits free =>
    have idle := not_holds_of_busy_eq_zero (Nat.lt_one_iff.1 free)
    have only {other : Nat} (holds : Holds (moment.put position .taken) other) :
        other = position :=
      (holds_of_holds_put holds).resolve_right (idle other)
    have within := (List.getElem?_eq_some_iff.1 waits).1
    have before := alone.checked fun other taken => idle other (.inl taken)
    refine ⟨fun left right holdsLeft holdsRight => ?_, fun other taken => ?_, fun unheld => ?_⟩
    · rw [only holdsLeft, only holdsRight]
    · simp [List.filterMap_cons, Move.taken?, Move.checked?, before, only (.inl taken)]
    · exact absurd (by simp [getElem?_put, within]) (unheld position)
  | @check position taken =>
    have before := alone.unchecked position taken
    have only {slot : Slot} {other : Nat} (holds : Holds (moment.put position slot) other) :
        other = position :=
      alone.eq_of_holds_put (.inl taken) holds
    refine ⟨fun left right holdsLeft holdsRight => ?_, fun other unchecked => ?_, fun _ => ?_⟩
    · rw [only holdsLeft, only holdsRight]
    · obtain rfl := only (.inl unchecked)
      rw [getElem?_put] at unchecked
      cases token : moment.cancelled <;> simp [token] at unchecked
    · simp [List.filterMap_cons, Move.taken?, Move.checked?, before]
  | @fill position item known judging =>
    have only {slot : Slot} {other : Nat} (holds : Holds (moment.put position slot) other) :
        other = position :=
      alone.eq_of_holds_put (.inr judging) holds
    have before := alone.checked fun other taken => by
      obtain rfl := alone.holds_one _ _ (.inl taken) (.inr judging)
      simp [judging] at taken
    refine ⟨fun left right holdsLeft holdsRight => ?_, fun other taken => ?_, fun _ => ?_⟩
    · rw [only holdsLeft, only holdsRight]
    · obtain rfl := only (.inl taken)
      rw [getElem?_put] at taken
      simp at taken
    · simp [List.filterMap_cons, Move.taken?, Move.checked?, before]
  | cancel =>
    refine ⟨alone.holds_one, ?_, ?_⟩
    · simpa [List.filterMap_cons, Move.taken?, Move.checked?] using alone.unchecked
    · simpa [List.filterMap_cons, Move.taken?, Move.checked?] using alone.checked

/-- A single worker looks at the token for the items in the order in which it takes them. -/
theorem checked_eq_taken_of_play {cancelled : Bool} {moves : List Move} {moment : Moment}
    (played : play? 1 result items cancelled moves = some moment) (ended : moment.isOver = true) :
    moves.filterMap Move.checked? = moves.filterMap Move.taken? := by
  have alone : Alone moves moment :=
    records_of_foldlM_eq_some Alone
      (fun alone stepped => alone.step (step_of_step?_eq_some stepped))
      (alone_start cancelled items.length) played
  refine (alone.checked fun position taken => ?_).symm
  cases List.all_eq_true.1 ended _ (List.mem_of_getElem? taken)

/-- An item is admitted iff its position is among those for which somebody looks at the token in
time. -/
theorem isAdmitted_eq_contains (moves : List Move) (position : Nat) :
    isAdmitted false moves position =
      ((moves.takeWhile (· != .cancel)).filterMap Move.checked?).contains position := by
  rw [Bool.eq_iff_iff]
  simp only [isAdmitted, Bool.not_false, Bool.true_and, List.contains_iff_mem, List.mem_filterMap]
  constructor
  · exact fun member => ⟨_, member, rfl⟩
  · rintro ⟨move, member, checked⟩
    cases move with
    | check looked => exact (Option.some.inj checked) ▸ member
    | take | fill | cancel => cases checked

/-- If the items are looked at in the order of the work list, the admitted ones come first. -/
theorem exists_admitted_iff_lt (cancelled : Bool) {moves : List Move} {size : Nat}
    (ordered : moves.filterMap Move.checked? = List.range size) :
    ∃ count, ∀ position, isAdmitted cancelled moves position = true ↔ position < count := by
  cases cancelled with
  | true => exact ⟨0, by simp [isAdmitted]⟩
  | false =>
    have initial := (List.takeWhile_prefix (l := moves) (· != .cancel)).filterMap Move.checked?
    rw [ordered, List.prefix_iff_eq_take, List.take_range] at initial
    refine ⟨min ((moves.takeWhile (· != .cancel)).filterMap Move.checked?).length size,
      fun position => ?_⟩
    rw [isAdmitted_eq_contains, initial]
    simp

/-- The moves of one worker who looks at items one after the other, the first of them at a position
of the work list. What cancels the run does so before an item is taken or while it is judged. -/
def movesInOrder (engine : Engine) (circumstances : Circumstances) (cancelled : Bool)
    (position : Nat) : List WorkItem → List Move
  | [] => []
  | item :: rest =>
    let stopped := cancelled || circumstances.interruptedBefore position
    let before := if circumstances.interruptedBefore position then [.cancel] else []
    let within := if engine.cancelsRun item then [.cancel] else []
    if stopped then
      before ++ [.take position, .check position] ++
        movesInOrder engine circumstances true (position + 1) rest
    else
      before ++ [.take position, .check position] ++ within ++ [.fill position] ++
        movesInOrder engine circumstances (engine.cancelsRun item) (position + 1) rest

/-- The slot of an item that was looked at. -/
def Slot.ofResult? : Option ResultEntry → Slot
  | none => .empty
  | some entry => .filled entry

theorem isSettled_ofResult? (entry : Option ResultEntry) :
    (Slot.ofResult? entry).isSettled = true := by
  cases entry <;> rfl

/-- If no worker is busy, the next item can be taken and the token looked at for it. -/
theorem foldlM_take_check {cancelled : Bool} {done rest : List Slot}
    (idle : ∀ slot ∈ done ++ rest, slot.isHeld = false) :
    [Move.take done.length, .check done.length].foldlM (Moment.step? 1 result items)
        ⟨cancelled, done ++ .waiting :: rest⟩ =
      some ⟨cancelled, done ++ (if cancelled then .empty else .judging) :: rest⟩ := by
  have unheld : (done ++ Slot.waiting :: rest).countP Slot.isHeld = 0 := by
    rw [List.countP_eq_zero]
    simpa [or_imp, forall_and, Slot.isHeld] using idle
  simp [Moment.step?, Moment.busy, unheld, Moment.replace?, Moment.put]

/-- The item that is being judged can be finished. -/
theorem foldlM_fill {cancelled : Bool} {done rest : List Slot} {item : WorkItem}
    (known : items[done.length]? = some item) :
    [Move.fill done.length].foldlM (Moment.step? workers result items)
        ⟨cancelled, done ++ .judging :: rest⟩ =
      some ⟨cancelled, done ++ .filled (result item) :: rest⟩ := by
  simp [Moment.step?, known, Moment.replace?, Moment.put]

/-- A cancellation that may or may not take place. -/
theorem foldlM_cancel_if {cancelled happens : Bool} {slots : List Slot} :
    (if happens then [Move.cancel] else []).foldlM (Moment.step? workers result items)
        ⟨cancelled, slots⟩ = some ⟨cancelled || happens, slots⟩ := by
  cases happens <;> simp [Moment.step?]

/-- Looking at items one after the other is what one worker does who makes the moves in order. -/
theorem foldlM_movesInOrder (engine : Engine) (circumstances : Circumstances) (cancelled : Bool)
    (looked todo : List WorkItem) (done : List Slot) (position : looked.length = done.length)
    (idle : ∀ slot ∈ done, slot.isHeld = false) :
    (movesInOrder engine circumstances cancelled done.length todo).foldlM
        (Moment.step? 1 (engine.resultEntry circumstances.overruns) (looked ++ todo))
        ⟨cancelled, done ++ List.replicate todo.length .waiting⟩ =
      some ⟨(engine.evaluateItems circumstances cancelled done.length todo).2,
        done ++ (engine.evaluateItems circumstances cancelled done.length todo).1.map
          Slot.ofResult?⟩ := by
  induction todo generalizing cancelled looked done with
  | nil => simp [movesInOrder, Engine.evaluateItems]
  | cons item rest inductionHypothesis =>
    have known : (looked ++ item :: rest)[done.length]? = some item := by
      rw [← position]
      simp
    have idleAround : ∀ slot ∈ done ++ List.replicate rest.length Slot.waiting,
        slot.isHeld = false := by
      simp only [List.mem_append, List.mem_replicate]
      rintro slot (member | ⟨_, rfl⟩)
      · exact idle slot member
      · rfl
    -- the rest of the run, once the slot of the item has been settled
    have continued (slot : Slot) (settled : slot.isHeld = false) (stopped : Bool) :=
      inductionHypothesis stopped (looked ++ [item]) (done ++ [slot]) (by simp [position])
        (by simpa [or_imp, forall_and] using ⟨idle, settled⟩)
    simp only [List.append_assoc, List.singleton_append, List.length_append,
      List.length_singleton] at continued
    rw [movesInOrder, Engine.evaluateItems, List.length_cons, List.replicate_succ]
    cases stopped : cancelled || circumstances.interruptedBefore done.length with
    | true =>
      simp only [if_true, List.foldlM_append, foldlM_cancel_if, stopped, Option.bind_eq_bind,
        Option.bind_some, foldlM_take_check idleAround]
      exact continued .empty rfl true
    | false =>
      simp only [Bool.false_eq_true, if_false, List.foldlM_append, foldlM_cancel_if, stopped,
        Option.bind_eq_bind, Option.bind_some, foldlM_take_check idleAround, Bool.false_or,
        foldlM_fill known]
      exact continued (.filled _) rfl (engine.cancelsRun item)

/-- The moves of one worker hold no cancellation as long as nobody cancels the run. -/
theorem cancel_notMem_movesInOrder {engine : Engine} {circumstances : Circumstances}
    {position : Nat}
    (outside : ∀ offset < items.length, circumstances.interruptedBefore (position + offset) = false)
    (inside : ∀ item ∈ items, engine.cancelsRun item = false) :
    .cancel ∉ movesInOrder engine circumstances false position items := by
  induction items generalizing position with
  | nil => exact List.not_mem_nil
  | cons item rest inductionHypothesis =>
    obtain ⟨notBefore, outsideRest⟩ := Engine.forall_interruptedBefore_succ_iff.1 outside
    obtain ⟨notWithin, insideRest⟩ := List.forall_mem_cons.1 inside
    have absentRest := inductionHypothesis outsideRest insideRest
    simpa [movesInOrder, notBefore, notWithin] using absentRest

/-- What an engine returns is what one worker returns who takes the items in their order. -/
theorem exists_play_of_run (engine : Engine) (tree : Tree) (circumstances : Circumstances)
    (cancelled : Bool) :
    ∃ moves moment,
      play? 1 (engine.resultEntry circumstances.overruns) (engine.workList tree) cancelled moves =
          some moment ∧
        moment.isOver = true ∧
        moment.results = (engine.run tree circumstances cancelled).results ∧
        (engine.Undisturbed tree circumstances cancelled → .cancel ∉ moves) := by
  have played := foldlM_movesInOrder { engine with state := .running } circumstances cancelled []
    (engine.workList tree) [] rfl (by simp)
  refine ⟨_, _, played, ?_, ?_, ?_⟩
  · simp [Moment.isOver, isSettled_ofResult?]
  · have read (entry : Option ResultEntry) : (Slot.ofResult? entry).result? = entry := by
      cases entry <;> rfl
    simp [Moment.results, Engine.run, read, Function.comp_def]
    rfl
  · rintro ⟨rfl, outside, inside⟩
    exact cancel_notMem_movesInOrder (by simpa using outside) inside

/-- Whatever the number of workers and the order of their moves, a run over some items returns the
results of those items for which the token was looked at before anybody cancelled the run, in the
order of the work list. It is complete iff no slot is left empty. A run that nobody cancels returns
the result of each item. One worker who takes the items in their order returns the results of the
first ones. -/
theorem results_of_play {engine : Engine} {overruns : WorkItem → Bool} {cancelled : Bool}
    {moves : List Move} {moment : Moment}
    (played : play? workers (engine.resultEntry overruns) items cancelled moves = some moment)
    (ended : moment.isOver = true) :
    moment.results.entries =
        (items.zipIdx.filter fun entry => isAdmitted cancelled moves entry.2).map
          (fun entry => engine.resultEntry overruns entry.1) ∧
      (moment.results.complete = true ↔ .empty ∉ moment.slots) ∧
      (cancelled = false → .cancel ∉ moves →
        moment.results = { entries := items.map (engine.resultEntry overruns), complete := true }) ∧
      (workers = 1 → moves.filterMap Move.taken? = List.range items.length →
        moment.results.entries <+: items.map (engine.resultEntry overruns)) := by
  have records := records_of_play played
  have entries := records.entries_of_isOver ended
  refine ⟨entries, complete_iff_of_isOver ended, ?_, ?_⟩
  · rintro rfl fresh
    exact records.results_of_fresh ended fresh
  · rintro rfl ordered
    rw [← checked_eq_taken_of_play played ended] at ordered
    obtain ⟨count, admitted⟩ := exists_admitted_iff_lt cancelled ordered
    have first : (items.zipIdx.filter fun entry => isAdmitted cancelled moves entry.2) =
        (items.take count).zipIdx := by
      rw [← filter_zipIdx_lt]
      refine List.filter_congr fun entry _ => ?_
      rw [Bool.eq_iff_iff, admitted, decide_eq_true_eq, Nat.zero_add]
    rw [entries, first, map_zipIdx]
    exact (List.take_prefix count items).map _

/-- Two workers finish two items in the wrong order. One worker is cancelled by the first item while
that is in flight, and leaves out the second one. -/
theorem results_of_play_of_two :
    let rule : Rule :=
      { info := ⟨"R1", "first", .logging, .info, .universal, .skip⟩
        evaluate := fun _ => .concluded .passed }
    let item (index : Nat) : WorkItem := ⟨⟨"net", index, none⟩, [], rule⟩
    let engine : Engine := { rules := .empty }
    let result := engine.resultEntry fun _ => false
    let ended : Moment := ⟨false, [.filled (result (item 0)), .filled (result (item 1))]⟩
    let stopped : Moment := ⟨true, [.filled (result (item 0)), .empty]⟩
    play? 2 result [item 0, item 1] false
          [.take 0, .take 1, .check 1, .fill 1, .check 0, .fill 0] = some ended ∧
      ended.isOver = true ∧
      ended.results = ⟨[result (item 0), result (item 1)], true⟩ ∧
      play? 1 result [item 0, item 1] false
          [.take 0, .check 0, .cancel, .fill 0, .take 1, .check 1] = some stopped ∧
      stopped.isOver = true ∧
      stopped.results.entries <+: [result (item 0), result (item 1)] ∧
      ¬ stopped.results.complete = true := by
  intro rule item engine result ended stopped
  have playedEnded : play? 2 result [item 0, item 1] false
      [.take 0, .take 1, .check 1, .fill 1, .check 0, .fill 0] = some ended := by rfl
  have playedStopped : play? 1 result [item 0, item 1] false
      [.take 0, .check 0, .cancel, .fill 0, .take 1, .check 1] = some stopped := by rfl
  obtain ⟨_, _, uncancelled, _⟩ := results_of_play playedEnded rfl
  obtain ⟨_, complete, _, inOrder⟩ := results_of_play playedStopped rfl
  exact ⟨playedEnded, rfl, uncancelled rfl (by decide), playedStopped, rfl, inOrder rfl rfl,
    by simp [complete, stopped]⟩

end Schedule

end ConfigAudit
