import ConfigAudit.Rule.Basic
import ConfigAudit.Text

/-!
# Rule sets

A rule set keeps well-described rules with distinct identifiers in the order of registration, and
an index by which the rules for a kind are found without asking each rule. `RuleSet.register` gives
the set with one more rule, `RuleSet.offer` changes a set in use.
-/

namespace ConfigAudit

/-- A defect in the description of a rule. -/
inductive InfoFlaw where
  | blankId
  | blankName
  /-- The rule is not universal and has no kinds. -/
  | noKinds
  | blankKind
deriving DecidableEq, Repr

namespace InfoFlaw

/-- The wording of a defect. -/
def message : InfoFlaw → String
  | blankId => "rule id must not be empty"
  | blankName => "rule name must not be empty"
  | noKinds => "resource kinds must not be empty unless the rule is universal"
  | blankKind => "resource kinds must not contain blank entries"

end InfoFlaw

/-- The reason why a rule cannot be registered. -/
inductive RuleSetError where
  | duplicateId (id : String)
  | invalidInfo (id : String) (flaw : InfoFlaw)
deriving DecidableEq, Repr

namespace RuleSetError

/-- The wording of the reason. -/
def message : RuleSetError → String
  | duplicateId id => "duplicate rule id: " ++ id
  | invalidInfo id flaw => "invalid rule metadata for '" ++ id ++ "': " ++ flaw.message

end RuleSetError

namespace ResourceKinds

/-- The defect of a set of kinds. -/
def flaw? : ResourceKinds → Option InfoFlaw
  | universal => none
  | only kinds =>
    if kinds.keys.isEmpty then some .noKinds
    else if kinds.keys.any Text.isBlankText then some .blankKind
    else none

end ResourceKinds

namespace RuleInfo

/-- The first defect of a description. -/
def flaw? (info : RuleInfo) : Option InfoFlaw :=
  if Text.isBlankText info.id then some .blankId
  else if Text.isBlankText info.name then some .blankName
  else info.kinds.flaw?

end RuleInfo

/-- Rules in the order of registration with their index. A slot is a position among them. -/
structure RuleSet where
  rules : List Rule := []
  ids : KeySet := KeySet.empty
  /-- For each kind the slots of the rules that name it, ascending. -/
  slotsByKind : List (String × List Nat) := []
  /-- The slots of the universal rules, ascending. -/
  universalSlots : List Nat := []

namespace RuleSet

/-- The set without rules. -/
def empty : RuleSet := {}

/-- Enter a slot under each of some kinds. -/
def indexKinds (slot : Nat) (kinds : List String) (slotsByKind : List (String × List Nat)) :
    List (String × List Nat) :=
  kinds.foldl
    (fun slotsByKind kind =>
      Members.update kind (fun known => known.getD [] ++ [slot]) slotsByKind)
    slotsByKind

/-- Add a rule that is known to be admissible. -/
def append (set : RuleSet) (rule : Rule) : RuleSet :=
  let slot := set.rules.length
  let extended := { set with rules := set.rules ++ [rule], ids := set.ids.insert rule.info.id }
  match rule.info.kinds with
  | .universal => { extended with universalSlots := set.universalSlots ++ [slot] }
  | .only kinds => { extended with slotsByKind := indexKinds slot kinds.keys set.slotsByKind }

/-- Add a rule that is well described and has an identifier of its own. -/
def register (set : RuleSet) (rule : Rule) : Except RuleSetError RuleSet :=
  match rule.info.flaw? with
  | some flaw => .error (.invalidInfo rule.info.id flaw)
  | none =>
    if set.ids.contains rule.info.id then .error (.duplicateId rule.info.id)
    else .ok (set.append rule)

/-- Enter a slot under each of some kinds of a set in use. -/
def enterKinds (slot : Nat) (kinds : List String) : StateM RuleSet Unit :=
  kinds.forM fun kind => modify fun set =>
    { set with
      slotsByKind := Members.update kind (fun known => known.getD [] ++ [slot]) set.slotsByKind }

/-- Make a set in use take a rule, one change after the other. -/
def accept (rule : Rule) : StateM RuleSet Unit := do
  let slot := (← get).rules.length
  match rule.info.kinds with
  | .universal => modify fun set => { set with universalSlots := set.universalSlots ++ [slot] }
  | .only kinds => enterKinds slot kinds.keys
  modify fun set => { set with ids := set.ids.insert rule.info.id }
  modify fun set => { set with rules := set.rules ++ [rule] }

/-- Offer a rule to a set in use, which takes it or replies why not. -/
def offer (rule : Rule) : StateM RuleSet (Except RuleSetError Unit) := do
  match rule.info.flaw? with
  | some flaw => return .error (.invalidInfo rule.info.id flaw)
  | none =>
    if (← get).ids.contains rule.info.id then return .error (.duplicateId rule.info.id)
    accept rule
    return .ok ()

/-- The set of a list of rules, or the reason why the first of them that is inadmissible cannot be
registered. -/
def ofRules (rules : List Rule) : Except RuleSetError RuleSet :=
  rules.foldlM register empty

/-- The slots of the rules that apply to a kind, ascending. -/
def slots (set : RuleSet) (kind : String) : List Nat :=
  (((set.slotsByKind.lookup kind).getD []) ++ set.universalSlots).mergeSort (· ≤ ·)

/-- The rules that apply to a kind, in the order of registration. -/
def applicable (set : RuleSet) (kind : String) : List Rule :=
  (set.slots kind).filterMap fun slot => set.rules[slot]?

/-- The rule with an identifier. -/
def get? (set : RuleSet) (id : String) : Option Rule :=
  set.rules.find? fun rule => rule.info.id == id

/-- The number of rules. -/
def size (set : RuleSet) : Nat :=
  set.rules.length

end RuleSet

end ConfigAudit
