import ConfigAudit.Proofs.Schedule

/-!
# The life of an engine

An engine is called again and again, with trees and with documents, under tokens that are cancelled
before a call, during it or never. `Engine.Returns` holds of whatever can come of one call, and
`Engine.History` of whatever can come of calls one after the other. A call leaves nothing behind but
its own state, so each one returns what it would return as the first one:
`Engine.lifecycle_of_history`.

What becomes of a token between two calls is left open, so calls may share one, and a rule may
cancel the token of a later call.
-/

namespace ConfigAudit

namespace Engine

/-- What an engine is asked to judge. -/
inductive Subject where
  | tree (tree : Tree)
  | document (document : Json)

namespace Subject

/-- The tree that is to be judged, if there is one. -/
def read : Subject → Except TreeError Tree
  | .tree given => .ok given
  | .document given => Tree.ofJson given

end Subject

/-- A call of an engine, with all that happens until it returns. -/
structure Call where
  subject : Subject
  /-- Whether the token is cancelled when the call is made. -/
  cancelled : Bool
  workers : Nat
  /-- Whether the judgement on an item takes longer than any budget. -/
  overruns : WorkItem → Bool
  /-- What the workers do, and when somebody cancels the run. -/
  moves : List Schedule.Move

/-- An engine that has not been called. -/
def new (rules : RuleSet) (options : EngineOptions) : Engine :=
  { rules, options }

/-- An engine in a run. -/
def started (engine : Engine) : Engine :=
  { engine with state := .running }

/-- An engine that was given no tree. -/
def fail (engine : Engine) : Engine :=
  { engine with state := .failed }

/-- What can come of a call: an answer, and the engine after it. What is no tree is refused before
there is a worker to make a move. A tree is judged by as many workers as it takes, in any order of
their moves. -/
inductive Returns (engine : Engine) (call : Call) : Except TreeError ResultSet → Engine → Prop where
  | refuses {error : TreeError} (noTree : call.subject.read = .error error)
      (unworked : ∀ move ∈ call.moves, move = .cancel) :
      Returns engine call (.error error) engine.fail
  | judges {tree : Tree} {moment : Schedule.Moment} (read : call.subject.read = .ok tree)
      (played : Schedule.play? call.workers (engine.started.resultEntry call.overruns)
        (engine.started.workList tree) call.cancelled call.moves = some moment)
      (ended : moment.isOver = true) :
      Returns engine call (.ok moment.results) (engine.started.finish moment.results)

/-- What can come of calls one after the other, the first of them to a new engine: the calls with
their answers, and the engine after the last one. -/
inductive History (rules : RuleSet) (options : EngineOptions) :
    List (Call × Except TreeError ResultSet) → Engine → Prop where
  | start : History rules options [] (new rules options)
  | call {made : List (Call × Except TreeError ResultSet)} {engine next : Engine} {call : Call}
      {answer : Except TreeError ResultSet} (before : History rules options made engine)
      (returned : engine.Returns call answer next) :
      History rules options (made ++ [(call, answer)]) next

/-- The state in which an answer leaves an engine. -/
def stateAfter : Except TreeError ResultSet → RunState
  | .error _ => .failed
  | .ok results => if results.complete then .completed else .cancelled

/-- What the state of an engine says of the last call and its answer. -/
structure Tells (state : RunState) (call : Call) (answer : Except TreeError ResultSet) : Prop where
  failed_iff : state = .failed ↔
    ∃ document error, call.subject = .document document ∧ Tree.ofJson document = .error error
  completed_iff : state = .completed ↔ ∃ results, answer = .ok results ∧ results.complete = true
  cancelled_iff : state = .cancelled ↔ ∃ results, answer = .ok results ∧ results.complete = false
  /-- What is no tree is answered by the reason why, and no worker has judged an item. -/
  answer_of_failed : ∀ document error, call.subject = .document document →
    Tree.ofJson document = .error error →
      answer = .error error ∧
        ∀ position, Schedule.isAdmitted call.cancelled call.moves position = false

variable {rules : RuleSet} {options : EngineOptions} {engine next : Engine} {call : Call}
  {answer : Except TreeError ResultSet}

/-- Only a document can be no tree. -/
theorem read_eq_error_iff {subject : Subject} {error : TreeError} :
    subject.read = .error error ↔
      ∃ document, subject = .document document ∧ Tree.ofJson document = .error error := by
  cases subject with
  | tree tree => simp [Subject.read]
  | document document => simp [Subject.read]

theorem stateAfter_ne_running (answer : Except TreeError ResultSet) :
    stateAfter answer ≠ .running := by
  rcases answer with error | ⟨entries, _ | _⟩ <;> simp [stateAfter]

theorem stateAfter_ne_idle (answer : Except TreeError ResultSet) : stateAfter answer ≠ .idle := by
  rcases answer with error | ⟨entries, _ | _⟩ <;> simp [stateAfter]

/-- A call changes the state of the engine and nothing else. -/
theorem Returns.next_eq (returned : engine.Returns call answer next) :
    next = { engine with state := stateAfter answer } := by
  cases returned <;> rfl

/-- Nothing that comes of a call depends on the state before it. -/
theorem returns_iff_of_same {other : Engine} (sameRules : other.rules = engine.rules)
    (sameOptions : other.options = engine.options) :
    engine.Returns call answer next ↔ other.Returns call answer next := by
  have kept {left right : Engine} (rules : left.rules = right.rules)
      (options : left.options = right.options) (returned : left.Returns call answer next) :
      right.Returns call answer next := by
    obtain ⟨leftRules, leftOptions, leftState⟩ := left
    subst rules options
    cases returned with
    | refuses noTree unworked => exact .refuses noTree unworked
    | judges read played ended => exact .judges read played ended
  exact ⟨kept sameRules.symm sameOptions.symm, kept sameRules sameOptions⟩

/-- A call with something that is no tree is refused for the reason why it is none. -/
theorem Returns.of_read_eq_error (returned : engine.Returns call answer next) {error : TreeError}
    (noTree : call.subject.read = .error error) :
    answer = .error error ∧ ∀ move ∈ call.moves, move = .cancel := by
  cases returned with
  | refuses refused unworked =>
    obtain rfl := Except.error.inj (noTree.symm.trans refused)
    exact ⟨rfl, unworked⟩
  | judges read => exact nomatch noTree.symm.trans read

/-- After a call the state tells of this call. -/
theorem Returns.tells (returned : engine.Returns call answer next) :
    Tells next.state call answer where
  failed_iff := by
    rw [returned.next_eq]
    cases returned with
    | refuses noTree =>
      obtain ⟨document, isDocument, refused⟩ := read_eq_error_iff.1 noTree
      exact ⟨fun _ => ⟨document, _, isDocument, refused⟩, fun _ => rfl⟩
    | @judges tree moment read =>
      constructor
      · intro failed
        cases complete : moment.results.complete <;> simp [stateAfter, complete] at failed
      · rintro ⟨document, error, isDocument, refused⟩
        have noTree := read_eq_error_iff.2 ⟨document, isDocument, refused⟩
        exact nomatch noTree.symm.trans read
  completed_iff := by
    rw [returned.next_eq]
    rcases answer with error | ⟨entries, _ | _⟩ <;> simp [stateAfter]
  cancelled_iff := by
    rw [returned.next_eq]
    rcases answer with error | ⟨entries, _ | _⟩ <;> simp [stateAfter]
  answer_of_failed := by
    intro document error isDocument refused
    have noTree := read_eq_error_iff.2 ⟨document, isDocument, refused⟩
    obtain ⟨answered, unworked⟩ := returned.of_read_eq_error noTree
    exact ⟨answered, Schedule.isAdmitted_of_forall_cancel unworked call.cancelled⟩

/-- Under a cancelled token no item is judged. -/
theorem Returns.of_cancelled (returned : engine.Returns call answer next) {tree : Tree}
    (read : call.subject.read = .ok tree) (cancelled : call.cancelled = true)
    (pending : engine.workList tree ≠ []) :
    answer = .ok { entries := [], complete := false } := by
  cases returned with
  | refuses noTree => exact nomatch read.symm.trans noTree
  | @judges judged moment readJudged played ended =>
    obtain rfl : judged = tree := Except.ok.inj (readJudged.symm.trans read)
    have records := Schedule.records_of_play played
    rw [cancelled] at records
    have unadmitted (position : Nat) : Schedule.isAdmitted true call.moves position = false := rfl
    have entries : moment.results.entries = [] := by
      simp [records.entries_of_isOver ended, unadmitted]
    have incomplete : moment.results.complete = false := by
      rw [← Bool.not_eq_true, Schedule.complete_iff_of_isOver ended, not_not,
        records.slots_eq_of_isOver ended]
      obtain ⟨item, rest, listed⟩ := List.exists_cons_of_ne_nil pending
      have listedStarted : engine.started.workList judged = item :: rest := listed
      simp [listedStarted, unadmitted]
    rw [← entries, ← incomplete]

/-- An engine keeps its rules and options, and its state is that after the last answer. -/
theorem History.engine_eq {made : List (Call × Except TreeError ResultSet)}
    (history : History rules options made engine) :
    engine = { rules, options
               state := (made.getLast?.map fun last => stateAfter last.2).getD .idle } := by
  induction history with
  | start => rfl
  | call before returned inductionHypothesis =>
    rw [returned.next_eq, inductionHypothesis]
    simp

/-- A call returns to an engine with a history what it returns to a new one. -/
theorem History.returns_iff {made : List (Call × Except TreeError ResultSet)}
    (history : History rules options made engine) :
    engine.Returns call answer next ↔ (new rules options).Returns call answer next := by
  rw [history.engine_eq]
  exact returns_iff_of_same rfl rfl

/-- Whatever was returned in a history can be returned by a new engine. -/
theorem History.returns_of_mem {made : List (Call × Except TreeError ResultSet)}
    (history : History rules options made engine) :
    ∀ past ∈ made, ∃ next, (new rules options).Returns past.1 past.2 next := by
  induction history with
  | start => exact fun _ => nofun
  | call before returned inductionHypothesis =>
    intro past member
    rcases List.mem_append.1 member with member | member
    · exact inductionHypothesis past member
    · obtain rfl := List.mem_singleton.1 member
      exact ⟨_, before.returns_iff.1 returned⟩

/-- The last call of a history, in the state of the engine after it. -/
theorem History.tells {earlier : List (Call × Except TreeError ResultSet)}
    (history : History rules options (earlier ++ [(call, answer)]) engine) :
    Tells engine.state call answer := by
  generalize same : earlier ++ [(call, answer)] = made at history
  cases history with
  | start => simp at same
  | call before returned =>
    obtain ⟨rfl, last⟩ := List.append_inj' same rfl
    obtain ⟨rfl, rfl⟩ := Prod.mk.inj (List.singleton_inj.1 last)
    exact returned.tells

/-- What an engine answers that takes the items in their order. -/
def respond (engine : Engine) (subject : Subject) (circumstances : Circumstances)
    (cancelled : Bool) : Engine × Except TreeError RunReport :=
  match subject with
  | .tree tree =>
    let report := engine.run tree circumstances cancelled
    (report.engine, .ok report)
  | .document document => engine.runJson document circumstances cancelled

/-- An engine that takes the items in their order refuses what is no tree and runs over what is. -/
theorem respond_eq (engine : Engine) (subject : Subject) (circumstances : Circumstances)
    (cancelled : Bool) :
    engine.respond subject circumstances cancelled =
      match subject.read with
      | .error error => (engine.fail, .error error)
      | .ok tree =>
        ((engine.run tree circumstances cancelled).engine,
          .ok (engine.run tree circumstances cancelled)) := by
  cases subject <;> rfl

/-- A call returns, with any number of workers, and one of its answers is the one that comes of
taking the items in their order. -/
theorem exists_returns_respond (engine : Engine) (subject : Subject) (circumstances : Circumstances)
    (cancelled : Bool) (others : Nat) :
    ∃ moves,
      engine.Returns ⟨subject, cancelled, others + 1, circumstances.overruns, moves⟩
        ((engine.respond subject circumstances cancelled).2.map RunReport.results)
        (engine.respond subject circumstances cancelled).1 := by
  rw [respond_eq]
  cases read : subject.read with
  | error error => exact ⟨[], .refuses read (by simp)⟩
  | ok tree =>
    obtain ⟨moves, moment, played, ended, results, _⟩ :=
      Schedule.exists_play_of_run engine tree circumstances cancelled
    have finished : (engine.run tree circumstances cancelled).engine =
        engine.started.finish (engine.run tree circumstances cancelled).results := rfl
    have returned : engine.Returns
        ⟨subject, cancelled, others + 1, circumstances.overruns, moves⟩
        (.ok (engine.run tree circumstances cancelled).results)
        (engine.run tree circumstances cancelled).engine := by
      rw [finished, ← results]
      exact .judges read (Schedule.play?_of_le (Nat.le_add_left 1 others) played) ended
    exact ⟨moves, returned⟩

/-- The state of an engine is idle iff it was never called, and no call leaves it running. After a
call the state tells of this call alone: it has failed iff the call was with a document that is no
tree, which is then the answer without a rule having judged anything, and it has completed or was
cancelled iff the answer is a complete or an incomplete set of results. Whatever was called before,
a call returns what it returns to a new engine with the same rules and options; it does return, with
any number of workers; and under a token that is cancelled already it finds nothing and says so, if
there was anything to judge. -/
theorem lifecycle_of_history {made : List (Call × Except TreeError ResultSet)}
    (history : History rules options made engine) :
    (engine.state = .idle ↔ made = []) ∧
      engine.state ≠ .running ∧
      (∀ earlier call answer, made = earlier ++ [(call, answer)] →
        Tells engine.state call answer) ∧
      (∀ call answer next,
        engine.Returns call answer next ↔ (new rules options).Returns call answer next) ∧
      (∀ past ∈ made, ∃ next, (new rules options).Returns past.1 past.2 next) ∧
      (∀ subject circumstances cancelled others, ∃ moves,
        engine.Returns ⟨subject, cancelled, others + 1, circumstances.overruns, moves⟩
          ((engine.respond subject circumstances cancelled).2.map RunReport.results)
          (engine.respond subject circumstances cancelled).1) ∧
      ∀ call answer next tree, engine.Returns call answer next → call.subject.read = .ok tree →
        call.cancelled = true → engine.workList tree ≠ [] →
          answer = .ok { entries := [], complete := false } := by
  refine ⟨?_, ?_, ?_, fun call answer next => history.returns_iff, history.returns_of_mem,
    engine.exists_returns_respond, fun _ _ _ _ returned => returned.of_cancelled⟩
  · rw [history.engine_eq]
    rcases made.eq_nil_or_concat with rfl | ⟨earlier, last, rfl⟩
    · simp
    · simp [stateAfter_ne_idle]
  · rw [history.engine_eq]
    rcases made.eq_nil_or_concat with rfl | ⟨earlier, last, rfl⟩
    · simp
    · simp [stateAfter_ne_running]
  · rintro earlier call answer rfl
    exact history.tells

/-- A document that is no tree, a tree under a cancelled token, and the same tree once more. -/
theorem lifecycle_of_history_of_three_calls :
    let rule : Rule :=
      { info := ⟨"R1", "first", .logging, .info, .universal, .skip⟩
        evaluate := fun _ => .concluded .passed }
    let rules := RuleSet.empty.append rule
    let tree := Tree.empty.push "net" []
    let found : ResultEntry := ⟨⟨"net", 0, none⟩, "R1", "first", .logging, .info, .passed, none⟩
    let unreadable : Call := ⟨.document .null, false, 1, fun _ => false, []⟩
    let stopped : Call := ⟨.tree tree, true, 2, fun _ => false, [.take 0, .check 0]⟩
    let finished : Call := ⟨.tree tree, false, 2, fun _ => false, [.take 0, .check 0, .fill 0]⟩
    let made := [(unreadable, .error (.rootForm .null)), (stopped, .ok ⟨[], false⟩),
      (finished, .ok ⟨[found], true⟩)]
    let engine : Engine := { rules, options := {}, state := .completed }
    History rules {} made engine ∧ engine.state ≠ .idle ∧
      Tells engine.state finished (.ok ⟨[found], true⟩) ∧
      (∃ next, (new rules {}).Returns stopped (.ok ⟨[], false⟩) next) ∧
      ∀ answer next, engine.Returns stopped answer next → answer = .ok ⟨[], false⟩ := by
  intro rule rules tree found unreadable stopped finished made engine
  let failed : Engine := { rules, options := {}, state := .failed }
  let cancelled : Engine := { rules, options := {}, state := .cancelled }
  have refused : (new rules {}).Returns unreadable (.error (.rootForm .null)) failed :=
    .refuses rfl (by simp [unreadable])
  have playedStopped : Schedule.play? 2 (failed.started.resultEntry fun _ => false)
      (failed.started.workList tree) true stopped.moves = some ⟨true, [.empty]⟩ := by
    decide +kernel
  have playedFinished : Schedule.play? 2 (cancelled.started.resultEntry fun _ => false)
      (cancelled.started.workList tree) false finished.moves = some ⟨false, [.filled found]⟩ := by
    decide +kernel
  have left : failed.Returns stopped (.ok ⟨[], false⟩) cancelled :=
    @Returns.judges failed stopped tree ⟨true, [.empty]⟩ rfl playedStopped rfl
  have judged : cancelled.Returns finished (.ok ⟨[found], true⟩) engine :=
    @Returns.judges cancelled finished tree ⟨false, [.filled found]⟩ rfl playedFinished rfl
  have history : History rules {} made engine :=
    ((History.start.call refused).call left).call judged
  obtain ⟨idle, _, tells, _, again, _, nothing⟩ := lifecycle_of_history history
  refine ⟨history, fun state => absurd (idle.1 state) (List.cons_ne_nil _ _), ?_, ?_, ?_⟩
  · exact tells [(unreadable, _), (stopped, _)] _ _ rfl
  · exact again (stopped, .ok ⟨[], false⟩) (by simp [made])
  · exact fun answer next returned => nothing _ _ _ _ returned rfl rfl (by decide +kernel)

end Engine

end ConfigAudit
