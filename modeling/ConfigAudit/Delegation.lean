import ConfigAudit.Engine

/-!
# Delegated judgements

With a budget, a rule is not asked in place. A worker of its own is started, which judges, sends
what it found through a channel and leaves, while the one who asked waits at the other end for as
long as the budget lasts. Nobody stops a worker that takes longer: it goes on alone, and nobody
listens.

`Delegation.play?` carries out any sequence of moves that the two and the clock can make.
`Engine.judge?` is the judgement on an item that comes of such moves. The waits for several items
have no part in each other, since each has its own channel and clock.
-/

namespace ConfigAudit

namespace Delegation

/-- A move in the wait for a judgement. -/
inductive Move where
  /-- A worker is started. From now on the clock runs. -/
  | start
  /-- The worker has judged and sends what it found. -/
  | send
  /-- The worker leaves, so nothing more can arrive. -/
  | leave
  /-- The budget is used up. -/
  | expire
  /-- The one who waits finds a reason not to wait any longer. -/
  | stop
deriving DecidableEq, Repr

/-- How far the worker is. -/
inductive Worker where
  | absent
  | judging
  | sent
  | gone
deriving DecidableEq, Repr

/-- Why the wait has ended. -/
inductive Receipt where
  | found (evaluation : Evaluation)
  | timeout
  | disconnected
deriving DecidableEq, Repr

namespace Receipt

/-- What is made of the end of a wait, under a budget in milliseconds. -/
def evaluation (budget : Nat) : Receipt → Evaluation
  | found evaluation => evaluation
  | timeout =>
    .unknown ("rule exceeded its evaluation budget of " ++ Numeral.text budget ++ "ms")
  | disconnected => .unknown "rule worker exited without a result"

end Receipt

/-- The state of a wait between two moves. -/
structure Moment where
  worker : Worker := .absent
  /-- What has been sent. -/
  channel : Option Evaluation := none
  expired : Bool := false
  receipt : Option Receipt := none
deriving DecidableEq, Repr

namespace Moment

/-- The reason not to wait any longer, if there is one. What has arrived counts, also when the
channel is closed or the budget is used up. -/
def reason? (moment : Moment) : Option Receipt :=
  match moment.channel with
  | some evaluation => some (.found evaluation)
  | none =>
    if moment.worker = .gone then some .disconnected
    else if moment.expired then some .timeout
    else none

/-- Carry out a move in the wait for the judgement of a rule that gives some reply. -/
def step? (reply : Reply) (moment : Moment) : Move → Option Moment
  | .start => if moment.worker = .absent then some { moment with worker := .judging } else none
  | .send =>
    if moment.worker = .judging then
      some { moment with worker := .sent, channel := some reply.evaluation }
    else none
  | .leave => if moment.worker = .sent then some { moment with worker := .gone } else none
  | .expire => if moment.worker = .absent then none else some { moment with expired := true }
  | .stop =>
    match moment.receipt with
    | some _ => none
    | none => moment.reason?.map fun receipt => { moment with receipt := some receipt }

end Moment

/-- Carry out moves one after the other, if they can be made. -/
def play? (reply : Reply) (moves : List Move) : Option Moment :=
  moves.foldlM (Moment.step? reply) {}

end Delegation

namespace Engine

/-- The judgement on an item, if it comes of some moves in the wait for it. Without a budget nobody
waits, and for a resource on the allowlist of the rule no worker is started. -/
def judge? (engine : Engine) (item : WorkItem) (moves : List Delegation.Move) :
    Option Evaluation :=
  let reply := item.rule.evaluate item.attributes
  if engine.isSuppressed item then
    if moves.isEmpty then some (.skipped ("suppressed by allowlist for " ++ item.rule.info.id))
    else none
  else
    match engine.options.budget with
    | none => if moves.isEmpty then some reply.evaluation else none
    | some budget => do
      let moment ← Delegation.play? reply moves
      let receipt ← moment.receipt
      some (receipt.evaluation budget)

end Engine

end ConfigAudit
