import ConfigAudit.Proofs.Except
import ConfigAudit.Proofs.Members
import ConfigAudit.Toml.Parser

/-!
# Tables of a document that was read

However a document puts its tables together, from headers, dotted keys or braces, the value that is
read has the members of each table in strict key order: `Toml.canonical_of_parse?`. The statements
keep that of the table under construction, and the machine that reads them of every value it holds.
-/

namespace ConfigAudit

namespace Toml

/-- Every table in a value has its members in strict key order. -/
inductive Canonical : Toml → Prop where
  | text (value : String) : Canonical (.text value)
  | integer (value : Int) : Canonical (.integer value)
  | float (value : TomlFloat) : Canonical (.float value)
  | bool (value : Bool) : Canonical (.bool value)
  | moment (written : String) : Canonical (.moment written)
  | array {items : List Toml} (each : ∀ item ∈ items, Canonical item) : Canonical (.array items)
  | table {members : List (String × Toml)} (sorted : Members.Sorted members)
      (each : ∀ member ∈ members, Canonical member.2) : Canonical (.table members)

theorem valuesOfMembers_eq_map (contents : Table) :
    valuesOfMembers contents = contents.map fun entry => (entry.1, entry.2.value) := by
  induction contents with
  | nil => rfl
  | cons entry rest inductionHypothesis =>
    rw [valuesOfMembers, inductionHypothesis]
    rfl

theorem mem_valuesOfTables {tables : List Table} {after : List Toml} {value : Toml} :
    value ∈ valuesOfTables tables after ↔
      value ∈ after ∨ ∃ contents ∈ tables, value = .table (valuesOfMembers contents) := by
  induction tables generalizing after with
  | nil => simp [valuesOfTables]
  | cons contents rest inductionHypothesis =>
    rw [valuesOfTables, inductionHypothesis]
    simp [or_assoc, or_left_comm]

namespace Table

/-- The table that results from the contents has its members in strict key order, and so has every
table in it. -/
def IsCanonical (contents : Table) : Prop :=
  (Toml.table (valuesOfMembers contents)).Canonical

theorem isCanonical_iff {contents : Table} :
    contents.IsCanonical ↔
      Members.Sorted contents ∧ ∀ entry ∈ contents, entry.2.value.Canonical := by
  have sorted : Members.Sorted (valuesOfMembers contents) ↔ Members.Sorted contents := by
    rw [valuesOfMembers_eq_map]
    exact List.pairwise_map
  have each : (∀ member ∈ valuesOfMembers contents, member.2.Canonical) ↔
      ∀ entry ∈ contents, entry.2.value.Canonical := by
    rw [valuesOfMembers_eq_map]
    exact List.forall_mem_map
  rw [← sorted, ← each]
  exact ⟨fun | .table sorted each => ⟨sorted, each⟩, fun ⟨sorted, each⟩ => .table sorted each⟩

theorem isCanonical_nil : IsCanonical [] :=
  isCanonical_iff.2 ⟨Members.sorted_nil, nofun⟩

theorem canonical_sequence_iff {last : Table} {earlier : List Table} :
    (Node.sequence last earlier).value.Canonical ↔
      last.IsCanonical ∧ ∀ contents ∈ earlier, contents.IsCanonical := by
  rw [Node.value]
  constructor
  · intro canonical
    cases canonical with | array each =>
    exact ⟨each _ (mem_valuesOfTables.2 (.inl List.mem_cons_self)),
      fun contents member => each _ (mem_valuesOfTables.2 (.inr ⟨contents, member, rfl⟩))⟩
  · rintro ⟨lastCanonical, each⟩
    refine .array fun item member => ?_
    rcases mem_valuesOfTables.1 member with member | ⟨contents, ofEarlier, rfl⟩
    · rw [List.mem_singleton.1 member]
      exact lastCanonical
    · exact each contents ofEarlier

/-- A table stays canonical if what a key stands for does. -/
theorem IsCanonical.alter? {contents next : Table} (canonical : contents.IsCanonical) {key : String}
    {change : Option Node → Option Node}
    (keeps : ∀ known node, (∀ old, known = some old → old.value.Canonical) →
      change known = some node → node.value.Canonical)
    (altered : Table.alter? key change contents = some next) : next.IsCanonical := by
  simp only [Table.alter?, Option.bind_eq_bind, Option.bind_eq_some_iff] at altered
  obtain ⟨node, changed, ⟨⟩⟩ := altered
  obtain ⟨sorted, each⟩ := isCanonical_iff.1 canonical
  refine isCanonical_iff.2 ⟨sorted.insert key node, fun entry member => ?_⟩
  rcases Members.mem_insert member with rfl | member
  · exact keeps _ _ (fun old found => each _ (Members.mem_of_lookup_eq_some found)) changed
  · exact each entry member

/-- Tables on the way to the one that is changed stay canonical if that one does. -/
theorem IsCanonical.alterOpened? {change : Table → Option Table}
    (keeps : ∀ {before after}, IsCanonical before → change before = some after → IsCanonical after)
    {path : Path} {contents next : Table} (canonical : contents.IsCanonical)
    (altered : Table.alterOpened? change path contents = some next) : next.IsCanonical := by
  induction path generalizing contents next with
  | nil => exact keeps canonical altered
  | cons key path inductionHypothesis =>
    refine canonical.alter? (fun known node old changed => ?_) altered
    split at changed
    case h_1 =>
      obtain ⟨inner, altered, rfl⟩ := Option.map_eq_some_iff.1 changed
      exact inductionHypothesis isCanonical_nil altered
    case h_2 =>
      obtain ⟨inner, altered, rfl⟩ := Option.map_eq_some_iff.1 changed
      exact inductionHypothesis (old _ rfl) altered
    case h_3 =>
      obtain ⟨inner, altered, rfl⟩ := Option.map_eq_some_iff.1 changed
      obtain ⟨last, earlier⟩ := canonical_sequence_iff.1 (old _ rfl)
      exact canonical_sequence_iff.2 ⟨inductionHypothesis last altered, earlier⟩
    case h_4 => cases changed

theorem IsCanonical.openTable? {key : String} {contents next : Table}
    (canonical : contents.IsCanonical) (opened : Table.openTable? key contents = some next) :
    next.IsCanonical := by
  refine canonical.alter? (fun known node old changed => ?_) opened
  split at changed
  · cases changed
    exact isCanonical_nil
  · cases changed
    exact old (.table .implied _) rfl
  · cases changed

theorem IsCanonical.openElement? {key : String} {contents next : Table}
    (canonical : contents.IsCanonical) (opened : Table.openElement? key contents = some next) :
    next.IsCanonical := by
  refine canonical.alter? (fun known node old changed => ?_) opened
  split at changed
  · cases changed
    exact canonical_sequence_iff.2 ⟨isCanonical_nil, nofun⟩
  · cases changed
    obtain ⟨last, earlier⟩ := canonical_sequence_iff.1 (old _ rfl)
    exact canonical_sequence_iff.2 ⟨isCanonical_nil, List.forall_mem_cons.2 ⟨last, earlier⟩⟩
  · cases changed

/-- Assigning a canonical value keeps a table canonical. -/
theorem IsCanonical.assign? {value : Toml} (valueCanonical : value.Canonical) {path : Path}
    {contents next : Table} (canonical : contents.IsCanonical)
    (assigned : Table.assign? value path contents = some next) : next.IsCanonical := by
  induction path generalizing contents next with
  | nil => cases assigned
  | cons key path inductionHypothesis =>
    cases path with
    | nil =>
      rw [Table.assign?, Table.assignKey?] at assigned
      refine canonical.alter? (fun known node old changed => ?_) assigned
      split at changed
      · cases changed
        exact valueCanonical
      · cases changed
    | cons second path =>
      refine canonical.alter? (fun known node old changed => ?_) assigned
      split at changed
      case h_1 =>
        obtain ⟨inner, altered, rfl⟩ := Option.map_eq_some_iff.1 changed
        exact inductionHypothesis isCanonical_nil altered
      case h_2 =>
        obtain ⟨inner, altered, rfl⟩ := Option.map_eq_some_iff.1 changed
        exact inductionHypothesis (old _ rfl) altered
      case h_3 =>
        obtain ⟨_, changed⟩ := Option.ite_none_left_eq_some.1 changed
        obtain ⟨inner, altered, rfl⟩ := Option.map_eq_some_iff.1 changed
        exact inductionHypothesis (old _ rfl) altered
      case h_4 =>
        obtain ⟨_, changed⟩ := Option.ite_none_left_eq_some.1 changed
        obtain ⟨inner, altered, rfl⟩ := Option.map_eq_some_iff.1 changed
        obtain ⟨last, earlier⟩ := canonical_sequence_iff.1 (old _ rfl)
        exact canonical_sequence_iff.2 ⟨inductionHypothesis last altered, earlier⟩
      all_goals cases changed

/-- Carrying out a statement with a canonical value keeps the document canonical. -/
theorem IsCanonical.carryOut? {opened next : Path} {document changed : Table}
    {statement : Statement}
    (valueCanonical : ∀ path value, statement = .assign path value → value.Canonical)
    (canonical : document.IsCanonical)
    (carriedOut : Table.carryOut? (opened, document) statement = some (next, changed)) :
    changed.IsCanonical := by
  cases statement with
  | openTable path =>
    simp only [Table.carryOut?, Option.bind_eq_bind, Option.bind_eq_some_iff] at carriedOut
    obtain ⟨_, _, document, altered, ⟨⟩⟩ := carriedOut
    exact canonical.alterOpened? IsCanonical.openTable? altered
  | openElement path =>
    simp only [Table.carryOut?, Option.bind_eq_bind, Option.bind_eq_some_iff] at carriedOut
    obtain ⟨_, _, document, altered, ⟨⟩⟩ := carriedOut
    exact canonical.alterOpened? IsCanonical.openElement? altered
  | assign path value =>
    simp only [Table.carryOut?, Option.bind_eq_bind, Option.bind_eq_some_iff] at carriedOut
    obtain ⟨document, altered, ⟨⟩⟩ := carriedOut
    exact canonical.alterOpened? (IsCanonical.assign? (valueCanonical path value rfl)) altered

/-- Statements with canonical values result in a canonical document. -/
theorem isCanonical_of_ofStatements? {statements : List Statement} {document : Table}
    (valuesCanonical : ∀ path value, .assign path value ∈ statements → value.Canonical)
    (result : ofStatements? statements = some document) : document.IsCanonical := by
  obtain ⟨⟨opened, _⟩, folded, rfl⟩ := Option.map_eq_some_iff.1 result
  refine holds_of_foldlM_eq_some (fun state => state.2.IsCanonical) ?_ isCanonical_nil folded
  intro statement member before after canonical carriedOut
  refine canonical.carryOut? (fun path value same => ?_) carriedOut
  exact valuesCanonical path value (same ▸ member)

/-- Assignments of canonical values result in a canonical table. -/
theorem isCanonical_of_ofAssignments? {assignments : List (Path × Toml)} {contents : Table}
    (valuesCanonical : ∀ assignment ∈ assignments, assignment.2.Canonical)
    (result : ofAssignments? assignments = some contents) : contents.IsCanonical :=
  holds_of_foldlM_eq_some IsCanonical
    (fun _ member _ _ canonical assigned => canonical.assign? (valuesCanonical _ member) assigned)
    isCanonical_nil result

end Table

theorem canonical_nearest (negative : Bool) (whole fraction : List Char) (exponent : Int) :
    (Scalar.nearest negative whole fraction exponent).Canonical := by
  unfold Scalar.nearest
  split <;> exact .float _

theorem canonical_of_based? {base : Nat} {characters : List Char} {value : Toml}
    (read : Scalar.based? base characters = some value) : value.Canonical := by
  obtain ⟨digits, _, ⟨⟩⟩ := Option.bind_eq_some_iff.1 read
  exact .integer _

theorem canonical_of_decimal? {negative : Bool} {characters : List Char} {value : Toml}
    (read : Scalar.decimal? negative characters = some value) : value.Canonical := by
  obtain ⟨whole, _, read⟩ := Option.bind_eq_some_iff.1 read
  split at read
  · cases read
    exact .integer _
  · obtain ⟨exponent, _, ⟨⟩⟩ := Option.bind_eq_some_iff.1 read
    exact canonical_nearest ..
  · obtain ⟨fraction, _, ⟨⟩⟩ := Option.bind_eq_some_iff.1 read
    exact canonical_nearest ..
  · obtain ⟨fraction, _, read⟩ := Option.bind_eq_some_iff.1 read
    obtain ⟨exponent, _, ⟨⟩⟩ := Option.bind_eq_some_iff.1 read
    exact canonical_nearest ..

theorem canonical_of_number? {characters : List Char} {value : Toml}
    (read : Scalar.number? characters = some value) : value.Canonical := by
  unfold Scalar.number? at read
  split at read
  · exact canonical_of_based? read
  · exact canonical_of_based? read
  · exact canonical_of_based? read
  · obtain ⟨negative, rest⟩ := Scalar.splitSign characters
    dsimp only at read
    split at read
    · cases read
      exact .float _
    · cases read
      exact .float _
    · exact canonical_of_decimal? read

/-- A bare value is no table. -/
theorem canonical_of_read? {characters : List Char} {value : Toml}
    (read : Scalar.read? characters = some value) : value.Canonical := by
  unfold Scalar.read? at read
  split at read
  · cases read
    exact .bool _
  split at read
  · cases read
    exact .bool _
  split at read
  · cases read
    exact .moment _
  · exact canonical_of_number? read

/-- Every value that an open container holds is canonical. -/
def Frame.Canonical : Frame → Prop
  | .items done => ∀ item ∈ done, item.Canonical
  | .members done _ => ∀ assignment ∈ done, assignment.2.Canonical

/-- Every value that the open containers hold is canonical. -/
def Context.Canonical (context : Context) : Prop :=
  ∀ frame ∈ context.frames, frame.Canonical

/-- Every value that is held while a key is read is canonical. -/
def KeyRole.Canonical : KeyRole → Prop
  | .header _ | .assignment => True
  | .member done context => (∀ assignment ∈ done, assignment.2.Canonical) ∧ context.Canonical

/-- Every value that is held is canonical. -/
def Expectation.Canonical : Expectation → Prop
  | .lineStart | .lineEnd | .headerStart | .headerEnd _ => True
  | .keyPart role _ | .afterPart role _ => role.Canonical
  | .value context | .bare context _ | .afterDate context _ => context.Canonical
  | .item done context | .afterItem done context =>
    (∀ item ∈ done, item.Canonical) ∧ context.Canonical
  | .sign done _ context | .memberKey done context | .afterMember done context =>
    (∀ assignment ∈ done, assignment.2.Canonical) ∧ context.Canonical

/-- Every value of a statement, and every value that is held, is canonical. -/
structure Reading.Canonical (reading : Reading) : Prop where
  statements : ∀ path value, .assign path value ∈ reading.statements → value.Canonical
  expected : reading.expected.Canonical

namespace Reading

theorem Canonical.expect {reading : Reading} (canonical : reading.Canonical)
    {expected : Expectation} (expectedCanonical : expected.Canonical) :
    (reading.expect expected).Canonical :=
  ⟨canonical.statements, expectedCanonical⟩

theorem Canonical.complete {reading : Reading} (canonical : reading.Canonical)
    {statement : Statement}
    (valueCanonical : ∀ path value, statement = .assign path value → value.Canonical) :
    (reading.complete statement).Canonical where
  statements := by
    intro path value member
    rcases List.mem_cons.1 member with same | member
    · exact valueCanonical path value same.symm
    · exact canonical.statements path value member
  expected := trivial

/-- Delivering a canonical value keeps what is held canonical. -/
theorem Canonical.deliver {reading : Reading} (canonical : reading.Canonical) {context : Context}
    (around : context.Canonical) {value : Toml} (valueCanonical : value.Canonical) :
    (reading.deliver context value).Canonical := by
  obtain ⟨target, frames⟩ := context
  cases frames with
  | nil =>
    refine canonical.complete ?_
    rintro _ _ ⟨⟩
    exact valueCanonical
  | cons frame frames =>
    obtain ⟨innermost, outer⟩ := List.forall_mem_cons.1 around
    cases frame with
    | items => exact canonical.expect ⟨List.forall_mem_cons.2 ⟨valueCanonical, innermost⟩, outer⟩
    | members => exact canonical.expect ⟨List.forall_mem_cons.2 ⟨valueCanonical, innermost⟩, outer⟩

theorem Canonical.beginValue? {reading next : Reading} (canonical : reading.Canonical)
    {context : Context} (around : context.Canonical) {token : Token}
    (begun : reading.beginValue? context token = some next) : next.Canonical := by
  unfold Reading.beginValue? at begun
  split at begun
  · cases begun
    exact canonical.deliver around (.text _)
  · cases begun
    exact canonical.expect around
  · obtain ⟨_, ⟨⟩⟩ := Option.ite_none_right_eq_some.1 begun
    exact canonical.expect ⟨nofun, around⟩
  · obtain ⟨_, ⟨⟩⟩ := Option.ite_none_right_eq_some.1 begun
    exact canonical.expect ⟨nofun, around⟩
  · cases begun

theorem Canonical.closeArray {reading : Reading} (canonical : reading.Canonical)
    {done : List Toml} (each : ∀ item ∈ done, item.Canonical) {context : Context}
    (around : context.Canonical) : (reading.closeArray done context).Canonical :=
  canonical.deliver around (.array fun item member => each item (List.mem_reverse.1 member))

theorem Canonical.closeTable? {reading next : Reading} (canonical : reading.Canonical)
    {done : List (Path × Toml)} (each : ∀ assignment ∈ done, assignment.2.Canonical)
    {context : Context} (around : context.Canonical)
    (closed : reading.closeTable? done context = some next) : next.Canonical := by
  obtain ⟨contents, result, ⟨⟩⟩ := Option.bind_eq_some_iff.1 closed
  refine canonical.deliver around (Table.isCanonical_of_ofAssignments? ?_ result)
  exact fun assignment member => each assignment (List.mem_reverse.1 member)

theorem Canonical.expectMember {reading : Reading} (canonical : reading.Canonical)
    {done : List (Path × Toml)} (each : ∀ assignment ∈ done, assignment.2.Canonical) {path : Path}
    {context : Context} (around : context.Canonical) :
    (reading.expectMember done path context).Canonical :=
  canonical.expect (List.forall_mem_cons.2 ⟨each, around⟩)

theorem Canonical.endKey? {reading next : Reading} (canonical : reading.Canonical) {path : Path}
    {role : KeyRole} (held : role.Canonical) {token : Token}
    (ended : reading.endKey? path role token = some next) : next.Canonical := by
  unfold Reading.endKey? at ended
  split at ended
  · cases ended
    exact canonical.complete nofun
  · cases ended
    exact canonical.expect trivial
  · cases ended
    exact canonical.expect nofun
  · cases ended
    exact canonical.expectMember held.1 held.2
  · cases ended
    exact canonical.expect held
  · cases ended

theorem Canonical.takePart? {reading next : Reading} (canonical : reading.Canonical)
    {expected : String → Expectation} {token : Token}
    (taken : (keyPart? token).map (fun part => reading.expect (expected part)) = some next)
    (each : ∀ part, (expected part).Canonical) : next.Canonical := by
  obtain ⟨part, _, rfl⟩ := Option.map_eq_some_iff.1 taken
  exact canonical.expect (each part)

/-- A token keeps what is held canonical while no bare value is being read. -/
theorem Canonical.settle? {reading next : Reading} (canonical : reading.Canonical) {token : Token}
    (settled : reading.settle? token = some next) : next.Canonical := by
  have held := canonical.expected
  unfold Reading.settle? at settled
  split at settled
  -- what stands between the parts of a document, and what is refused
  all_goals try (cases settled <;> exact canonical)
  all_goals rw [‹reading.expected = _›] at held
  -- headers and the ends of lines
  case h_4 | h_8 | h_10 | h_11 | h_12 =>
    cases settled
    exact canonical.expect trivial
  case h_21 =>
    cases settled
    exact canonical.complete nofun
  -- keys
  case h_5 | h_13 => exact canonical.takePart? settled fun _ => trivial
  case h_16 =>
    obtain ⟨_, taken⟩ := Option.ite_none_right_eq_some.1 settled
    exact canonical.takePart? taken fun _ => held
  case h_49 => exact canonical.takePart? settled fun _ => held
  case h_20 => exact canonical.endKey? held settled
  case h_26 =>
    cases settled
    exact canonical.expectMember held.1 held.2
  -- values
  case h_30 =>
    obtain ⟨_, ⟨⟩⟩ := Option.ite_none_right_eq_some.1 settled
    exact canonical
  case h_31 => exact canonical.beginValue? held settled
  case h_38 =>
    refine canonical.beginValue? ?_ settled
    exact List.forall_mem_cons.2 ⟨held.1, held.2⟩
  -- separators
  case h_19 | h_42 | h_53 =>
    cases settled
    exact canonical.expect held
  -- the ends of arrays and inline tables
  case h_37 | h_43 =>
    cases settled
    exact canonical.closeArray held.1 held.2
  case h_48 | h_54 => exact canonical.closeTable? held.1 held.2 settled

theorem Canonical.finishBare? {reading next : Reading} (canonical : reading.Canonical)
    {context : Context} (around : context.Canonical) {done : List Char}
    (finished : reading.finishBare? context done = some next) : next.Canonical := by
  obtain ⟨value, read, rfl⟩ := Option.map_eq_some_iff.1 finished
  exact canonical.deliver around (canonical_of_read? read)

/-- A token keeps what is held canonical. -/
theorem Canonical.step? {reading next : Reading} (canonical : reading.Canonical) {token : Token}
    (stepped : reading.step? token = some next) : next.Canonical := by
  have held := canonical.expected
  unfold Reading.step? at stepped
  split at stepped
  case h_7 => exact canonical.settle? stepped
  all_goals rw [‹reading.expected = _›] at held
  case h_1 | h_2 | h_5 =>
    cases stepped
    exact canonical.expect held
  case h_3 =>
    split at stepped
    · cases stepped
      exact canonical.expect held
    · exact canonical.finishBare? held stepped
  case h_4 | h_6 =>
    obtain ⟨finished, ended, settled⟩ := Option.bind_eq_some_iff.1 stepped
    exact (canonical.finishBare? held ended).settle? settled

/-- The statements of a reading assign canonical values. -/
theorem Canonical.of_statements? {reading : Reading} (canonical : reading.Canonical)
    {statements : List Statement} (complete : reading.statements? = some statements) {path : Path}
    {value : Toml} (member : .assign path value ∈ statements) : value.Canonical := by
  have assigns {finished : Reading} (finishedCanonical : finished.Canonical)
      (same : some finished.statements.reverse = some statements) : value.Canonical := by
    cases same
    exact finishedCanonical.statements path value (List.mem_reverse.1 member)
  have held := canonical.expected
  unfold Reading.statements? at complete
  split at complete
  case h_3 =>
    dsimp only [Option.bind_eq_bind, Option.bind_some] at complete
    split at complete
    case h_3 => cases complete
    all_goals exact assigns canonical complete
  all_goals
    rw [‹reading.expected = _›] at held
    obtain ⟨finished, bare, complete⟩ := Option.bind_eq_some_iff.1 complete
    have finishedCanonical := canonical.finishBare? held bare
    dsimp only at complete
    split at complete
    case h_3 => cases complete
    all_goals exact assigns finishedCanonical complete

end Reading

/-- The members of a document that is read are in strict key order, and so are those of every table
in it. -/
theorem canonical_of_parse? {document : String} {members : List (String × Toml)}
    (parsed : parse? document = some members) : (Toml.table members).Canonical := by
  simp only [parse?, statementsOfTokens?, Option.bind_eq_bind, Option.bind_eq_some_iff] at parsed
  obtain ⟨tokens, _, statements, ⟨reading, read, complete⟩, contents, result, ⟨⟩⟩ := parsed
  have start : (⟨[], .lineStart⟩ : Reading).Canonical := ⟨nofun, trivial⟩
  have canonical : reading.Canonical :=
    holds_of_foldlM_eq_some Reading.Canonical (fun _ _ _ _ before stepped => before.step? stepped)
      start read
  exact Table.isCanonical_of_ofStatements?
    (fun _ _ member => canonical.of_statements? complete member) result

end Toml

end ConfigAudit
