import ConfigAudit.Proofs.Except
import ConfigAudit.Proofs.Json.RoundTrip
import ConfigAudit.Proofs.Members
import ConfigAudit.Proofs.Timestamp
import ConfigAudit.Report.Decode
import ConfigAudit.Report.Encode

/-!
# Reading a written report

A report that is written is read back as it was, and a report that was read can be written and read
again. The reader looks for the members in key order while the writer gives them in the order of the
fields, so each record is followed member by member in the reader's order.
-/

namespace ConfigAudit

namespace Json

/-! ## Members -/

theorem lookup_valuesInKeyOrder (members : List (String × Json)) (name : String) :
    (valuesInKeyOrder members).lookup name = (members.lookup name).map inKeyOrder := by
  induction members with
  | nil => rfl
  | cons member members inductionHypothesis =>
    obtain ⟨key, value⟩ := member
    rw [valuesInKeyOrder, List.lookup_cons, List.lookup_cons]
    cases name == key with
    | true => rfl
    | false => exact inductionHypothesis

/-- What is found among the members of an object once they are in key order. -/
theorem lookup_ofPairs_valuesInKeyOrder (members : List (String × Json)) (name : String) :
    (Members.ofPairs (valuesInKeyOrder members)).lookup name =
      (members.reverse.lookup name).map inKeyOrder := by
  rw [Members.lookup_ofPairs, valuesInKeyOrder_eq_map, ← List.map_reverse,
    ← valuesInKeyOrder_eq_map, lookup_valuesInKeyOrder]

/-- What is read of a member that is asked for comes from the value under its name. -/
theorem exists_lookup_of_decodeMember {Result : Type} {members : List (String × Json)}
    {name : String} {decode : Json → Except DecodeError Result} {found : Option Result}
    {result : Result} (read : decodeMember name decode members = .ok found)
    (required : require name found = .ok result) :
    ∃ value, members.lookup name = some value ∧ decode value = .ok result := by
  cases found with
  | none => exact nomatch required
  | some found =>
    cases required
    unfold decodeMember at read
    split at read
    case h_1 value present =>
      refine ⟨value, present, ?_⟩
      cases decoded : decode value with
      | error error => exact nomatch decoded ▸ read
      | ok result =>
        rw [decoded] at read
        cases read
        rfl
    case h_2 => exact nomatch read

variable {Result Rest : Type} {members : List (String × Json)} {name : String}
  {decode : Json → Except DecodeError Result} {next : Option Result → Except DecodeError Rest}
  {rest : Rest}

/-- A record whose next member is written with a value that is read back is read on. -/
theorem decodeMember_then (value : Json) {result : Result}
    (found : members.reverse.lookup name = some value)
    (read : decode (inKeyOrder value) = .ok result) (continued : next (some result) = .ok rest) :
    (decodeMember name decode (Members.ofPairs (valuesInKeyOrder members)) >>= next) =
      .ok rest := by
  rw [decodeMember, lookup_ofPairs_valuesInKeyOrder, found, Option.map_some]
  simp only [read]
  exact continued

/-- A record whose next member is left out is read on without it. -/
theorem decodeMember_absent_then (absent : members.reverse.lookup name = none)
    (continued : next none = .ok rest) :
    (decodeMember name decode (Members.ofPairs (valuesInKeyOrder members)) >>= next) =
      .ok rest := by
  rw [decodeMember, lookup_ofPairs_valuesInKeyOrder, absent, Option.map_none]
  exact continued

/-- A record whose next member is left out if it has nothing to say is read on with that. -/
theorem decodeMember_optional_then (field : Option String)
    {next : Option (Option String) → Except DecodeError Rest}
    (found : members.reverse.lookup name = field.map .text)
    (continued : next (field.map some) = .ok rest) :
    (decodeMember name (decodeOptional decodeText) (Members.ofPairs (valuesInKeyOrder members)) >>=
      next) = .ok rest := by
  cases field with
  | none => exact decodeMember_absent_then found continued
  | some value => exact decodeMember_then (.text value) found rfl continued

/-- A list is read back if each of its items is. -/
theorem decodeList_map {encode : Result → Json} {decode : Json → Except DecodeError Result}
    (read : ∀ result, decode (inKeyOrder (encode result)) = .ok result) (results : List Result) :
    decodeList decode (inKeyOrder (.array (results.map encode))) = .ok results := by
  rw [inKeyOrder, itemsInKeyOrder_eq_map, decodeList]
  induction results with
  | nil => rfl
  | cons result results inductionHypothesis =>
    rw [List.map_cons, List.map_cons, List.mapM_cons, read, inductionHypothesis]
    rfl

end Json

/-! ## Parts -/

/-- The alternatives are told apart by their names. -/
class LawfulChoice (Alternative : Type) [Choice Alternative] : Prop where
  ofName?_name : ∀ value : Alternative, Choice.ofName? (Choice.name value) = some value

instance : LawfulChoice Severity :=
  ⟨by rintro (_ | _ | _) <;> rfl⟩

instance : LawfulChoice Category :=
  ⟨by rintro (_ | _ | _ | _ | _ | _) <;> rfl⟩

instance : LawfulChoice Outcome :=
  ⟨by rintro (_ | _ | _ | _) <;> rfl⟩

instance : LawfulChoice Verdict :=
  ⟨by rintro (_ | _ | _) <;> rfl⟩

namespace Report

open Json

theorem decodeChoice_encodeChoice {Alternative : Type} [Choice Alternative]
    [LawfulChoice Alternative] (value : Alternative) :
    decodeChoice (inKeyOrder (encodeChoice value)) = .ok value := by
  rw [encodeChoice, inKeyOrder, decodeChoice, alternativeNamed, LawfulChoice.ofName?_name]

theorem decodeWord_encodeWord (value : UInt32) :
    decodeWord (inKeyOrder (encodeWord value)) = .ok value := by
  have fits : Width.fitsUnsigned 32 (Int.ofNat value.toNat) = true := by
    have bound : value.toNat < Width.span 32 := value.toNat_lt
    rw [Width.fitsUnsigned, Bool.and_eq_true, decide_eq_true_eq, decide_eq_true_eq]
    exact ⟨Int.natCast_nonneg _, Int.ofNat_lt.2 bound⟩
  rw [encodeWord, inKeyOrder, decodeWord, if_pos fits]
  simp

theorem decodeTimestamp_text (timestamp : Timestamp) :
    decodeTimestamp (inKeyOrder (.text timestamp.text)) = .ok timestamp := by
  rw [inKeyOrder, decodeTimestamp, Timestamp.parse?_text]

/-! ## Records -/

theorem decodeTool_encodeTool (tool : Tool) :
    decodeTool (inKeyOrder (encodeTool tool)) = .ok tool := by
  rw [encodeTool, inKeyOrder, decodeTool]
  refine decodeMember_then (.text tool.name) rfl rfl ?_
  refine decodeMember_then (.text tool.version) rfl rfl ?_
  rfl

theorem decodeResource_encodeResource (resource : ResourceRecord) :
    decodeResource (inKeyOrder (encodeResource resource)) = .ok resource := by
  obtain ⟨kind, index, name, address⟩ := resource
  rw [encodeResource, inKeyOrder, decodeResource]
  -- The name, if there is one, stands between the index and the address.
  refine decodeMember_then (.text address) (by cases name <;> rfl) rfl ?_
  refine decodeMember_then _ (by cases name <;> rfl) (decodeWord_encodeWord index) ?_
  refine decodeMember_then (.text kind) (by cases name <;> rfl) rfl ?_
  refine decodeMember_optional_then name (by cases name <;> rfl) ?_
  cases name <;> rfl

theorem decodeResult_encodeResult (result : ResultRecord) :
    decodeResult (inKeyOrder (encodeResult result)) = .ok result := by
  obtain ⟨ruleId, ruleName, category, severity, outcome, resource, message, fingerprint⟩ := result
  rw [encodeResult, inKeyOrder, decodeResult]
  -- The members that may be missing stand at the end.
  refine decodeMember_then _ (by cases message <;> cases fingerprint <;> rfl)
    (decodeChoice_encodeChoice category) ?_
  refine decodeMember_optional_then fingerprint
    (by cases message <;> cases fingerprint <;> rfl) ?_
  refine decodeMember_optional_then message (by cases message <;> cases fingerprint <;> rfl) ?_
  refine decodeMember_then _ (by cases message <;> cases fingerprint <;> rfl)
    (decodeChoice_encodeChoice outcome) ?_
  refine decodeMember_then _ (by cases message <;> cases fingerprint <;> rfl)
    (decodeResource_encodeResource resource) ?_
  refine decodeMember_then (.text ruleId) (by cases message <;> cases fingerprint <;> rfl) rfl ?_
  refine decodeMember_then (.text ruleName) (by cases message <;> cases fingerprint <;> rfl) rfl ?_
  refine decodeMember_then _ (by cases message <;> cases fingerprint <;> rfl)
    (decodeChoice_encodeChoice severity) ?_
  cases message <;> cases fingerprint <;> rfl

theorem decodeCounts_encodeCounts (counts : OutcomeCounts) :
    decodeCounts (inKeyOrder (encodeCounts counts)) = .ok counts := by
  rw [encodeCounts, inKeyOrder, decodeCounts]
  refine decodeMember_then _ rfl (decodeWord_encodeWord counts.failed) ?_
  refine decodeMember_then _ rfl (decodeWord_encodeWord counts.passed) ?_
  refine decodeMember_then _ rfl (decodeWord_encodeWord counts.skipped) ?_
  refine decodeMember_then _ rfl (decodeWord_encodeWord counts.unknown) ?_
  rfl

theorem decodeData_encodeData (data : ReportData) :
    decodeData (inKeyOrder (encodeData data)) = .ok data := by
  obtain ⟨profile, resourcesScanned, rulesLoaded, complete, summary, reasons⟩ := data
  have readReasons :
      decodeList decodeText (inKeyOrder (.array (reasons.map .text))) = .ok reasons :=
    decodeList_map (fun _ => rfl) reasons
  rw [encodeData, inKeyOrder, decodeData]
  refine decodeMember_then (.bool complete) (by cases reasons <;> rfl) rfl ?_
  refine decodeMember_then (.text profile) (by cases reasons <;> rfl) rfl ?_
  -- A list of reasons is left out if it is empty, which is what a missing one is read as.
  cases reasons with
  | nil =>
    refine decodeMember_absent_then rfl ?_
    refine decodeMember_then _ rfl (decodeWord_encodeWord resourcesScanned) ?_
    refine decodeMember_then _ rfl (decodeWord_encodeWord rulesLoaded) ?_
    refine decodeMember_then _ rfl (decodeCounts_encodeCounts summary) ?_
    rfl
  | cons first others =>
    refine decodeMember_then _ rfl readReasons ?_
    refine decodeMember_then _ rfl (decodeWord_encodeWord resourcesScanned) ?_
    refine decodeMember_then _ rfl (decodeWord_encodeWord rulesLoaded) ?_
    refine decodeMember_then _ rfl (decodeCounts_encodeCounts summary) ?_
    rfl

theorem decode_encode (report : Report) : decode (inKeyOrder (encode report)) = .ok report := by
  rw [encode, inKeyOrder, decode]
  refine decodeMember_then _ rfl (decodeData_encodeData report.data) ?_
  refine decodeMember_then _ rfl (decodeTimestamp_text report.finishedAt) ?_
  refine decodeMember_then _ rfl (decodeList_map decodeResult_encodeResult report.results) ?_
  refine decodeMember_then (.text report.schema) rfl rfl ?_
  refine decodeMember_then _ rfl (decodeTimestamp_text report.startedAt) ?_
  refine decodeMember_then _ rfl (decodeTool_encodeTool report.tool) ?_
  refine decodeMember_then _ rfl (decodeChoice_encodeChoice report.verdict) ?_
  rfl

/-! ## Documents -/

theorem fits_encodeWord (levels : Nat) (value : UInt32) : Fits levels (encodeWord value) := by
  have bound : value.toNat < Width.span 32 := value.toNat_lt
  have span : Width.span 32 < Width.span 64 := by
    decide
  rw [encodeWord, Fits, IsExact]
  constructor <;> simp only [Int.ofNat_eq_natCast] <;> omega

theorem fitMembers_optionalMember (levels : Nat) (name : String) (value : Option String) :
    FitMembers levels (optionalMember name value) := by
  cases value <;> simp [optionalMember, FitMembers, Fits]

theorem fits_encodeResource (levels : Nat) (resource : ResourceRecord) :
    Fits (levels + 1) (encodeResource resource) := by
  refine ⟨Nat.succ_pos levels, fitMembers_iff.2 ?_⟩
  have optional := fitMembers_iff.1 (fitMembers_optionalMember levels "name" resource.name)
  simpa [or_imp, forall_and, Fits, fits_encodeWord] using optional

theorem fits_encodeResult (levels : Nat) (result : ResultRecord) :
    Fits (levels + 2) (encodeResult result) := by
  refine ⟨Nat.succ_pos _, fitMembers_iff.2 ?_⟩
  have message := fitMembers_iff.1 (fitMembers_optionalMember (levels + 1) "message" result.message)
  have fingerprint :=
    fitMembers_iff.1 (fitMembers_optionalMember (levels + 1) "fingerprint" result.fingerprint)
  have optional := And.intro message fingerprint
  simpa [or_imp, forall_and, Fits, encodeChoice, fits_encodeResource] using optional

theorem fits_encodeData (levels : Nat) (data : ReportData) :
    Fits (levels + 2) (encodeData data) := by
  refine ⟨Nat.succ_pos _, fitMembers_iff.2 ?_⟩
  have summary : Fits (levels + 1) (encodeCounts data.summary) := by
    simp [encodeCounts, Fits, FitMembers, fits_encodeWord]
  have reasons : ∀ member ∈ encodeReasons data.reasons, Fits (levels + 1) member.2 := by
    unfold encodeReasons
    split
    · simp
    · simp [Fits, fitItems_iff]
  simpa [or_imp, forall_and, Fits, fits_encodeWord, summary] using reasons

theorem fits_encode (levels : Nat) (report : Report) : Fits (levels + 4) (encode report) := by
  simp [encode, encodeTool, encodeChoice, Fits, FitMembers, fitItems_iff, fits_encodeResult,
    fits_encodeData]

/-- The written form of a report is read back as the report. -/
theorem parse_render_of_schema {report : Report} (current : report.schema = currentSchema) :
    parse report.render = .ok report := by
  have document : Json.parse? report.render = some (inKeyOrder (encode report)) :=
    parse?_render (fits_encode 123 report)
  have named : schemaOf (inKeyOrder (encode report)) = currentSchema := by
    rw [encode, inKeyOrder, schemaOf, member?, lookup_ofPairs_valuesInKeyOrder, ← current]
    rfl
  simp only [parse, document, named, if_true, decode_encode]
  rfl

/-- A report that is read is written in the form that the document names. -/
theorem schema_of_decode {document : Json} {report : Report} (read : decode document = .ok report) :
    report.schema = schemaOf document := by
  cases document with
  | object members =>
    simp only [decode, bind_eq_ok] at read
    obtain ⟨_, _, _, _, _, _, found, schemaRead, _, _, _, _, _, _, schema, required, read⟩ := read
    obtain ⟨_, _, _, _, _, _, _, _, _, _, _, _, built⟩ := read
    cases built
    obtain ⟨value, present, decoded⟩ := exists_lookup_of_decodeMember schemaRead required
    cases value with
    | text characters =>
      cases decoded
      rw [schemaOf, member?, present]
      rfl
    | null | bool | number | array | object => cases decoded
  | null | bool | number | text | array => cases read

/-- A report that is written is read back as it was, and a report that is read from any text at all
is in the current form, has timestamps that can be written, and is read again from its own written
form. -/
theorem parse_render :
    (∀ report : Report, report.schema = currentSchema → parse report.render = .ok report) ∧
      ∀ text report, parse text = .ok report →
        report.schema = currentSchema ∧
          (∀ timestamp ∈ [report.startedAt, report.finishedAt],
            timestamp.date.year ≤ 9999 ∧ timestamp.offset.natAbs < 1440) ∧
          parse report.render = .ok report := by
  refine ⟨fun _ => parse_render_of_schema, fun text report read => ?_⟩
  have current : report.schema = currentSchema := by
    unfold parse at read
    split at read
    · exact nomatch read
    case h_2 document _ =>
      split at read
      case isFalse => exact nomatch read
      case isTrue named =>
        cases decoded : decode document with
        | error error => exact nomatch decoded ▸ read
        | ok result =>
          rw [decoded] at read
          cases read
          rw [schema_of_decode decoded, named]
  refine ⟨current, fun timestamp _ => ?_, parse_render_of_schema current⟩
  have inRange := timestamp.inRange
  simp only [Timestamp.fits, Date.isValid, Bool.and_eq_true, decide_eq_true_eq] at inRange
  obtain ⟨⟨⟨⟨⟨⟨⟨⟨⟨year, _⟩, _⟩, _⟩, _⟩, _⟩, _⟩, _⟩, _⟩, offset⟩ := inRange
  exact ⟨year, offset⟩

/-- The report of a failure whose message has to be escaped, as it is written and read twice. -/
theorem parse_render_of_failure :
    let report := ofFailure "cannot read \"böse\\datei\":\n\x01 😀" .epoch
    report.schema = currentSchema ∧ parse report.render = .ok report ∧
      report.startedAt.date.year ≤ 9999 :=
  have read := parse_render.1 _ rfl
  ⟨rfl, read, ((parse_render.2 _ _ read).2.1 _ (by simp)).1⟩

end Report

end ConfigAudit
