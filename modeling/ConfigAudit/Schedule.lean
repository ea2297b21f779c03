import ConfigAudit.Engine

/-!
# Schedules

A run by several workers, one move at a time. A worker takes an item that nobody has taken, then
looks at the token: if the run is cancelled, the slot of the item stays empty, otherwise the worker
judges the item and fills the slot. Between any two moves anybody may cancel the run, a rule at
work included, and nobody takes that back.

`Schedule.play?` carries out any sequence of moves that the workers can make. The moves that
`Engine.evaluateItems` stands for, those of one worker who takes the items in order, are among them.
-/

namespace ConfigAudit

namespace Schedule

/-- A move in a run. -/
inductive Move where
  /-- A worker takes the item at a position. -/
  | take (position : Nat)
  /-- The worker who took the item at a position looks at the token. -/
  | check (position : Nat)
  /-- The worker who took the item at a position has judged it. -/
  | fill (position : Nat)
  /-- Somebody cancels the run. -/
  | cancel
deriving DecidableEq, Repr

namespace Move

/-- The position of the item that a move takes. -/
def taken? : Move → Option Nat
  | take position => some position
  | _ => none

/-- The position of the item for which a move looks at the token. -/
def checked? : Move → Option Nat
  | check position => some position
  | _ => none

end Move

/-- What has become of an item. -/
inductive Slot where
  /-- Nobody has taken the item. -/
  | waiting
  /-- A worker has taken the item and not yet looked at the token. -/
  | taken
  /-- A worker is judging the item. -/
  | judging
  /-- The run was cancelled when the worker looked at the token. -/
  | empty
  | filled (entry : ResultEntry)
deriving DecidableEq, Repr

namespace Slot

/-- The result of an item that was judged. -/
def result? : Slot → Option ResultEntry
  | filled entry => some entry
  | _ => none

/-- Whether a worker is busy with an item. -/
def isHeld : Slot → Bool
  | taken | judging => true
  | waiting | empty | filled _ => false

/-- Whether nothing more happens to an item. -/
def isSettled : Slot → Bool
  | empty | filled _ => true
  | waiting | taken | judging => false

end Slot

/-- The state of a run between two moves. -/
structure Moment where
  cancelled : Bool
  /-- The slots of the items in the order of the work list. -/
  slots : List Slot
deriving DecidableEq, Repr

namespace Moment

/-- The start of a run over so many items, with a token that may be cancelled already. -/
def start (cancelled : Bool) (size : Nat) : Moment where
  cancelled := cancelled
  slots := List.replicate size .waiting

/-- The number of busy workers. -/
def busy (moment : Moment) : Nat :=
  moment.slots.countP Slot.isHeld

/-- Put something in the slot at a position. -/
def put (moment : Moment) (position : Nat) (slot : Slot) : Moment :=
  { moment with slots := moment.slots.set position slot }

/-- Replace what is in the slot at a position, if it is what it has to be. -/
def replace? (moment : Moment) (position : Nat) (before after : Slot) : Option Moment :=
  if moment.slots[position]? = some before then some (moment.put position after) else none

/-- Carry out a move of so many workers on some items, each of which has one result. -/
def step? (workers : Nat) (result : WorkItem → ResultEntry) (items : List WorkItem)
    (moment : Moment) : Move → Option Moment
  | .take position =>
    if moment.busy < workers then moment.replace? position .waiting .taken else none
  | .check position =>
    moment.replace? position .taken (if moment.cancelled then .empty else .judging)
  | .fill position => do
    let item ← items[position]?
    moment.replace? position .judging (.filled (result item))
  | .cancel => some { moment with cancelled := true }

/-- Whether no item waits and no worker is busy. -/
def isOver (moment : Moment) : Bool :=
  moment.slots.all Slot.isSettled

/-- The results of the items that were judged, in the order of the work list. -/
def results (moment : Moment) : ResultSet :=
  Engine.collect (moment.slots.map Slot.result?)

end Moment

/-- Carry out moves one after the other, if so many workers can make them. -/
def play? (workers : Nat) (result : WorkItem → ResultEntry) (items : List WorkItem)
    (cancelled : Bool) (moves : List Move) : Option Moment :=
  moves.foldlM (Moment.step? workers result items) (.start cancelled items.length)

end Schedule

end ConfigAudit
