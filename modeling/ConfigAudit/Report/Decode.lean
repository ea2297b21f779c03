import ConfigAudit.Decoding
import ConfigAudit.Json.Parser
import ConfigAudit.Number.Width
import ConfigAudit.Report.Basic

/-!
# Reading a report

A record is read from an object or from an array of its fields in order. The members of an object
are looked through in key order, and only then is a missing one complained of, in the order of
the fields. Members that are not known are passed over.
-/

namespace ConfigAudit

/-- The reason why a text is no report. -/
inductive ReportError where
  /-- The text is not JSON. -/
  | malformed
  /-- The report is written in another form. -/
  | foreignSchema (schema : String)
  | mismatch (error : DecodeError)
deriving DecidableEq, Repr

namespace Json

/-- What is found where a value stands. -/
def found : Json → Found
  | .null => .null
  | .bool value => .boolean value
  | .number (.whole value) => .integer value
  | .number (.fraction value) => .compactFraction value
  | .text value => .text value
  | .array _ => .sequence
  | .object _ => .mapping

/-- Refuse a value of the wrong type. -/
def refuse {Result : Type} (value : Json) (expected : Expected) : Except DecodeError Result :=
  .error (.wrongType value.found expected)

/-- Read a text. -/
def decodeText : Json → Except DecodeError String
  | .text value => .ok value
  | value => value.refuse .text

/-- Read a truth value. -/
def decodeBool : Json → Except DecodeError Bool
  | .bool value => .ok value
  | value => value.refuse .boolean

/-- Read a natural number of 32 bits. -/
def decodeWord : Json → Except DecodeError UInt32
  | .number (.whole value) =>
    if Width.fitsUnsigned 32 value then .ok (UInt32.ofNat value.toNat)
    else .error (.wrongValue (.integer value) .word32)
  | value => value.refuse .word32

/-- Read a value that may be null. -/
def decodeOptional {Result : Type} (decode : Json → Except DecodeError Result) :
    Json → Except DecodeError (Option Result)
  | .null => .ok none
  | value => some <$> decode value

/-- Read an array. -/
def decodeList {Result : Type} (decode : Json → Except DecodeError Result) :
    Json → Except DecodeError (List Result)
  | .array items => items.mapM decode
  | value => value.refuse .sequence

/-- The alternative with a name. -/
def alternativeNamed {Alternative : Type} [Choice Alternative] (name : String) :
    Except DecodeError Alternative :=
  match Choice.ofName? name with
  | some value => .ok value
  | none =>
    .error (.unknownAlternative name ((Choice.all : List Alternative).map Choice.name))

/-- Read an alternative: its name, or an object with nothing under the name. -/
def decodeChoice {Alternative : Type} [Choice Alternative] :
    Json → Except DecodeError Alternative
  | .text name => alternativeNamed name
  | .object [(name, payload)] => do
    let value ← alternativeNamed name
    match payload with
    | .null => pure value
    | other => other.refuse .unit
  | .object _ => .error (.wrongValue .mapping .singleMember)
  | value => value.refuse .alternative

/-- Read a timestamp. -/
def decodeTimestamp : Json → Except DecodeError Timestamp
  | .text value =>
    match Timestamp.parse? value with
    | some timestamp => .ok timestamp
    | none => .error (.malformedTimestamp value)
  | value => value.refuse .timestamp

/-- Read a member of an object, if it has one with the name. -/
def decodeMember {Result : Type} (name : String) (decode : Json → Except DecodeError Result)
    (members : List (String × Json)) : Except DecodeError (Option Result) :=
  match members.lookup name with
  | some value => some <$> decode value
  | none => .ok none

/-- Ask for a field that was looked for. -/
def require {Result : Type} (name : String) : Option Result → Except DecodeError Result
  | some value => .ok value
  | none => .error (.missingField name)

/-- Read the field at a position of a record with so many fields, written as an array. -/
def decodeItem {Result : Type} (record : Expected) (position : Nat)
    (decode : Json → Except DecodeError Result) (items : List Json) :
    Except DecodeError Result :=
  match items[position]? with
  | some value => decode value
  | none => .error (.wrongLength position record)

/-- Refuse an array with more items than a record has fields. -/
def refuseLonger (size : Nat) (items : List Json) : Except DecodeError Unit :=
  if size < items.length then .error (.wrongLength items.length .fewerItems) else .ok ()

end Json

namespace Report

/-- Read a tool. -/
def decodeTool : Json → Except DecodeError Tool
  | .object members => do
    let name ← Json.decodeMember "name" Json.decodeText members
    let version ← Json.decodeMember "version" Json.decodeText members
    let name ← Json.require "name" name
    let version ← Json.require "version" version
    pure { name, version }
  | .array items => do
    let record := .recordOfSize "ToolMeta" 2
    let name ← Json.decodeItem record 0 Json.decodeText items
    let version ← Json.decodeItem record 1 Json.decodeText items
    Json.refuseLonger 2 items
    pure { name, version }
  | value => value.refuse (.record "ToolMeta")

/-- Read a resource. -/
def decodeResource : Json → Except DecodeError ResourceRecord
  | .object members => do
    let address ← Json.decodeMember "address" Json.decodeText members
    let index ← Json.decodeMember "index" Json.decodeWord members
    let kind ← Json.decodeMember "kind" Json.decodeText members
    let name ← Json.decodeMember "name" (Json.decodeOptional Json.decodeText) members
    let kind ← Json.require "kind" kind
    let index ← Json.require "index" index
    let address ← Json.require "address" address
    pure { kind, index, name := name.getD none, address }
  | .array items => do
    let record := .recordOfSize "ResourceRecord" 4
    let kind ← Json.decodeItem record 0 Json.decodeText items
    let index ← Json.decodeItem record 1 Json.decodeWord items
    let name ← Json.decodeItem record 2 (Json.decodeOptional Json.decodeText) items
    let address ← Json.decodeItem record 3 Json.decodeText items
    Json.refuseLonger 4 items
    pure { kind, index, name, address }
  | value => value.refuse (.record "ResourceRecord")

/-- Read a result. -/
def decodeResult : Json → Except DecodeError ResultRecord
  | .object members => do
    let category ← Json.decodeMember "category" Json.decodeChoice members
    let fingerprint ← Json.decodeMember "fingerprint" (Json.decodeOptional Json.decodeText) members
    let message ← Json.decodeMember "message" (Json.decodeOptional Json.decodeText) members
    let outcome ← Json.decodeMember "outcome" Json.decodeChoice members
    let resource ← Json.decodeMember "resource" decodeResource members
    let ruleId ← Json.decodeMember "rule_id" Json.decodeText members
    let ruleName ← Json.decodeMember "rule_name" Json.decodeText members
    let severity ← Json.decodeMember "severity" Json.decodeChoice members
    let ruleId ← Json.require "rule_id" ruleId
    let ruleName ← Json.require "rule_name" ruleName
    let category ← Json.require "category" category
    let severity ← Json.require "severity" severity
    let outcome ← Json.require "outcome" outcome
    let resource ← Json.require "resource" resource
    pure
      { ruleId, ruleName, category, severity, outcome, resource, message := message.getD none
        fingerprint := fingerprint.getD none }
  | .array items => do
    let record := .recordOfSize "ResultRecord" 8
    let ruleId ← Json.decodeItem record 0 Json.decodeText items
    let ruleName ← Json.decodeItem record 1 Json.decodeText items
    let category ← Json.decodeItem record 2 Json.decodeChoice items
    let severity ← Json.decodeItem record 3 Json.decodeChoice items
    let outcome ← Json.decodeItem record 4 Json.decodeChoice items
    let resource ← Json.decodeItem record 5 decodeResource items
    let message ← Json.decodeItem record 6 (Json.decodeOptional Json.decodeText) items
    let fingerprint ← Json.decodeItem record 7 (Json.decodeOptional Json.decodeText) items
    Json.refuseLonger 8 items
    pure { ruleId, ruleName, category, severity, outcome, resource, message, fingerprint }
  | value => value.refuse (.record "ResultRecord")

/-- Read counts. -/
def decodeCounts : Json → Except DecodeError OutcomeCounts
  | .object members => do
    let failed ← Json.decodeMember "failed" Json.decodeWord members
    let passed ← Json.decodeMember "passed" Json.decodeWord members
    let skipped ← Json.decodeMember "skipped" Json.decodeWord members
    let unknown ← Json.decodeMember "unknown" Json.decodeWord members
    let passed ← Json.require "passed" passed
    let failed ← Json.require "failed" failed
    let skipped ← Json.require "skipped" skipped
    let unknown ← Json.require "unknown" unknown
    pure { passed, failed, skipped, unknown }
  | .array items => do
    let record := .recordOfSize "SummaryCounts" 4
    let passed ← Json.decodeItem record 0 Json.decodeWord items
    let failed ← Json.decodeItem record 1 Json.decodeWord items
    let skipped ← Json.decodeItem record 2 Json.decodeWord items
    let unknown ← Json.decodeItem record 3 Json.decodeWord items
    Json.refuseLonger 4 items
    pure { passed, failed, skipped, unknown }
  | value => value.refuse (.record "SummaryCounts")

/-- Read figures. Without reasons there are none. -/
def decodeData : Json → Except DecodeError ReportData
  | .object members => do
    let complete ← Json.decodeMember "complete" Json.decodeBool members
    let profile ← Json.decodeMember "profile" Json.decodeText members
    let reasons ← Json.decodeMember "reasons" (Json.decodeList Json.decodeText) members
    let resourcesScanned ← Json.decodeMember "resources_scanned" Json.decodeWord members
    let rulesLoaded ← Json.decodeMember "rules_loaded" Json.decodeWord members
    let summary ← Json.decodeMember "summary" decodeCounts members
    let profile ← Json.require "profile" profile
    let resourcesScanned ← Json.require "resources_scanned" resourcesScanned
    let rulesLoaded ← Json.require "rules_loaded" rulesLoaded
    let complete ← Json.require "complete" complete
    let summary ← Json.require "summary" summary
    pure { profile, resourcesScanned, rulesLoaded, complete, summary, reasons := reasons.getD [] }
  | .array items => do
    let record := .recordOfSize "GuardrailData" 6
    let profile ← Json.decodeItem record 0 Json.decodeText items
    let resourcesScanned ← Json.decodeItem record 1 Json.decodeWord items
    let rulesLoaded ← Json.decodeItem record 2 Json.decodeWord items
    let complete ← Json.decodeItem record 3 Json.decodeBool items
    let summary ← Json.decodeItem record 4 decodeCounts items
    let reasons ←
      match items[5]? with
      | some value => Json.decodeList Json.decodeText value
      | none => pure []
    Json.refuseLonger 6 items
    pure { profile, resourcesScanned, rulesLoaded, complete, summary, reasons }
  | value => value.refuse (.record "GuardrailData")

/-- Read a report. -/
def decode : Json → Except DecodeError Report
  | .object members => do
    let data ← Json.decodeMember "data" decodeData members
    let finishedAt ← Json.decodeMember "finished_at" Json.decodeTimestamp members
    let results ← Json.decodeMember "results" (Json.decodeList decodeResult) members
    let schema ← Json.decodeMember "schema" Json.decodeText members
    let startedAt ← Json.decodeMember "started_at" Json.decodeTimestamp members
    let tool ← Json.decodeMember "tool" decodeTool members
    let verdict ← Json.decodeMember "verdict" Json.decodeChoice members
    let schema ← Json.require "schema" schema
    let tool ← Json.require "tool" tool
    let startedAt ← Json.require "started_at" startedAt
    let finishedAt ← Json.require "finished_at" finishedAt
    let verdict ← Json.require "verdict" verdict
    let results ← Json.require "results" results
    let data ← Json.require "data" data
    pure { schema, tool, startedAt, finishedAt, verdict, results, data }
  | value => value.refuse (.record "ReportEnvelope")

/-- The form in which a document says that it is written; blank if it does not say. -/
def schemaOf (document : Json) : String :=
  ((document.member? "schema").bind Json.text?).getD ""

/-- Read a report from a text. Its form is looked at before anything else. -/
def parse (text : String) : Except ReportError Report :=
  match Json.parse? text with
  | none => .error .malformed
  | some document =>
    if schemaOf document = currentSchema then (decode document).mapError .mismatch
    else .error (.foreignSchema (schemaOf document))

end Report

end ConfigAudit
