import ConfigAudit.Json.Printer
import ConfigAudit.Report.Basic

/-!
# Writing a report

A report is written as an indented JSON document with the members in the order of the fields.
What is not given, and an empty list of reasons, is left out.
-/

namespace ConfigAudit

namespace Report

/-- A member for a field that may be missing. -/
def optionalMember (name : String) : Option String → List (String × Json)
  | some value => [(name, .text value)]
  | none => []

/-- The value of an alternative. -/
def encodeChoice {Alternative : Type} [Choice Alternative] (value : Alternative) : Json :=
  .text (Choice.name value)

/-- The value of a natural number. -/
def encodeWord (value : UInt32) : Json :=
  .number (.whole (Int.ofNat value.toNat))

/-- The value of a tool. -/
def encodeTool (tool : Tool) : Json :=
  .object [("name", .text tool.name), ("version", .text tool.version)]

/-- The value of a resource. -/
def encodeResource (resource : ResourceRecord) : Json :=
  .object <|
    [("kind", .text resource.kind), ("index", encodeWord resource.index)] ++
      optionalMember "name" resource.name ++ [("address", .text resource.address)]

/-- The value of a result. -/
def encodeResult (result : ResultRecord) : Json :=
  .object <|
    [("rule_id", .text result.ruleId), ("rule_name", .text result.ruleName),
      ("category", encodeChoice result.category), ("severity", encodeChoice result.severity),
      ("outcome", encodeChoice result.outcome), ("resource", encodeResource result.resource)] ++
      optionalMember "message" result.message ++ optionalMember "fingerprint" result.fingerprint

/-- The value of counts. -/
def encodeCounts (counts : OutcomeCounts) : Json :=
  .object
    [("passed", encodeWord counts.passed), ("failed", encodeWord counts.failed),
      ("skipped", encodeWord counts.skipped), ("unknown", encodeWord counts.unknown)]

/-- The member for reasons. -/
def encodeReasons (reasons : List String) : List (String × Json) :=
  if reasons.isEmpty then [] else [("reasons", .array (reasons.map .text))]

/-- The value of figures. -/
def encodeData (data : ReportData) : Json :=
  .object <|
    [("profile", .text data.profile), ("resources_scanned", encodeWord data.resourcesScanned),
      ("rules_loaded", encodeWord data.rulesLoaded), ("complete", .bool data.complete),
      ("summary", encodeCounts data.summary)] ++ encodeReasons data.reasons

/-- The value of a report. -/
def encode (report : Report) : Json :=
  .object
    [("schema", .text report.schema), ("tool", encodeTool report.tool),
      ("started_at", .text report.startedAt.text), ("finished_at", .text report.finishedAt.text),
      ("verdict", encodeChoice report.verdict),
      ("results", .array (report.results.map encodeResult)), ("data", encodeData report.data)]

/-- The document of a report. -/
def render (report : Report) : String :=
  (encode report).render

end Report

end ConfigAudit
