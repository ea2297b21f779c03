import Mathlib.Algebra.BigOperators.Group.List.Basic
import Mathlib.Algebra.GroupWithZero.Nat
import ConfigAudit.Proofs.Report.Page
import ConfigAudit.Proofs.Text.Lines

/-!
# The lines of a page

A reader tells the verdict, the items and the headings of a page by how their lines start. A page
has these lines once each, and besides them those that are forged: an address or a message with line
feeds is written down as it is, so that any of its further lines may start so too
(`Page.length_linesStarting_render`).
-/

namespace ConfigAudit

/-- There are no line feeds in a result, its address and its message aside. -/
structure PageResult.IsPlain (result : PageResult) : Prop where
  ruleId : Text.IsOneLine result.ruleId
  ruleName : Text.IsOneLine result.ruleName
  category : Text.IsOneLine result.category

namespace Page

/-- What a line of a page can be told to be by its start. -/
inductive Mark where
  | verdict
  | item
  | heading
deriving DecidableEq, Repr

/-- The start of the lines of a kind. -/
def Mark.start : Mark → List Char
  | verdict => "- Verdict: ".toList
  | item => "- [".toList
  | heading => "## ".toList

/-! ## What is written line by line -/

/-- The line of the verdict. -/
def verdictLine (page : Page) : String :=
  "- Verdict: **" ++ (verdictWord page.verdict ++ "**")

/-- The lines of the heading and the figures. -/
def headerLines (page : Page) : List String :=
  ["# Guardrail report", "", page.verdictLine, "- Profile: `" ++ (page.data.profile ++ "`"),
    "- Resources: " ++ (figure page.data.resourcesScanned ++
      (" / Rules: " ++ figure page.data.rulesLoaded)),
    "- Passed: " ++ (figure page.data.counts.passed ++
      (" / Failed: " ++ (figure page.data.counts.failed ++
        (" / Skipped: " ++ (figure page.data.counts.skipped ++
          (" / Unknown: " ++ figure page.data.counts.unknown)))))),
    ""]

/-- The lines of the note. -/
def noteLines (page : Page) : List String :=
  match page.data.incompleteReason with
  | some reason => ["> Note: incomplete run: " ++ reason, ""]
  | none => []

/-- What stands in front of the address in an item. -/
def itemLead (result : PageResult) : String :=
  "- [" ++ (severityWord result.severity ++ ("] `" ++ (result.ruleId ++ ("` " ++
    (result.ruleName ++ " on `")))))

/-- What stands behind the address in an item. -/
def itemTail (result : PageResult) : String :=
  "` (" ++ (result.category ++ ")")

/-- The lines of an item. -/
def itemLines (result : PageResult) : List String :=
  (itemLead result ++ (result.address ++ itemTail result)) ::
    (result.message.map ("  - " ++ ·)).toList

/-- The heading of a section, if it has items. -/
def sectionHeading (title : String) (results : List PageResult) : List String :=
  if results = [] then [] else ["## " ++ title]

/-- The lines of a section. -/
def sectionLines (title : String) (results : List PageResult) : List String :=
  if results = [] then [] else ("## " ++ title) :: "" :: (results.flatMap itemLines ++ [""])

/-- The line in place of the sections. -/
def closingLines (results : List PageResult) : List String :=
  if results = [] then ["No failures."] else []

/-- The results that a page lists. -/
def listed (page : Page) : List PageResult :=
  ofOutcome .failed page.results ++ ofOutcome .unknown page.results

/-- What is written on a page, line by line, unless an address or a message has lines of its own. -/
def writtenLines (page : Page) : List String :=
  page.headerLines ++ (page.noteLines ++
    (sectionLines "Failures" (ofOutcome .failed page.results) ++
      (sectionLines "Not evaluated" (ofOutcome .unknown page.results) ++
        closingLines page.listed)))

theorem header_eq_ended (page : Page) : page.header = Text.ended page.headerLines := by
  have breaks : "# Guardrail report\n\n" = "# Guardrail report" ++ ("\n" ++ ("" ++ "\n")) ∧
      "**\n" = "**" ++ "\n" ∧ "`\n" = "`" ++ "\n" ∧
      "\n\n" = "\n" ++ ("" ++ ("\n" ++ Text.ended [])) := by
    decide +kernel
  obtain ⟨title, verdict, profile, figures⟩ := breaks
  unfold header headerLines verdictLine
  rw [title, verdict, profile, figures]
  simp only [Text.ended_cons, String.append_assoc]

theorem note_eq_ended (page : Page) : page.note = Text.ended page.noteLines := by
  have breaks : "\n\n" = "\n" ++ ("" ++ ("\n" ++ Text.ended [])) := by
    decide
  unfold note noteLines
  cases page.data.incompleteReason with
  | none => rfl
  | some reason => simp only [Text.ended_cons, breaks, String.append_assoc]

theorem item_eq_ended (result : PageResult) : item result = Text.ended (itemLines result) := by
  have breaks : ")\n" = ")" ++ "\n" ∧ "\n" = "\n" ++ Text.ended [] := by
    decide
  unfold item itemLines itemLead itemTail
  cases result.message with
  | none =>
    simp only [Option.map_none, Option.toList_none, Text.ended_cons, breaks.1, String.append_assoc]
    rfl
  | some message =>
    simp only [Option.map_some, Option.toList_some, Text.ended_cons, breaks.1, String.append_assoc]
    rfl

theorem items_eq_ended (results : List PageResult) :
    items results = Text.ended (results.flatMap itemLines) := by
  induction results with
  | nil => rfl
  | cons result results inductionHypothesis =>
    rw [items_cons, item_eq_ended, inductionHypothesis, List.flatMap_cons, Text.ended_append]

theorem sectionOf_eq_ended (title : String) (results : List PageResult) :
    sectionOf title results = Text.ended (sectionLines title results) := by
  have breaks : "\n\n" = "\n" ++ ("" ++ "\n") ∧ "\n" = Text.ended [""] := by
    decide
  rw [sectionOf_eq, sectionLines, items_eq_ended]
  split
  case isTrue => rfl
  case isFalse =>
    rw [Text.ended_cons, Text.ended_cons, Text.ended_append, ← breaks.2, breaks.1]
    simp only [String.append_assoc]

theorem render_eq_ended (page : Page) : page.render = Text.ended page.writtenLines := by
  have closing : (if ofOutcome .failed page.results = [] ∧ ofOutcome .unknown page.results = [] then
      "No failures.\n" else "") = Text.ended (closingLines page.listed) := by
    simp only [closingLines, listed, List.append_eq_nil_iff]
    split <;> rfl
  rw [render_eq_sections, closing, header_eq_ended, note_eq_ended, sectionOf_eq_ended,
    sectionOf_eq_ended, writtenLines]
  simp only [Text.ended_append, String.append_assoc]

/-! ## How the lines start -/

section Marks

variable (mark : Mark)

theorem Mark.lineFeed_notMem_start : '\n' ∉ mark.start := by
  cases mark <;> decide

theorem Mark.start_ne_nil : mark.start ≠ [] := by
  cases mark <;> decide

/-- The lines of a written line that start like those of a kind. -/
def markedLines (text : String) : List (List Char) :=
  Text.linesStarting mark.start text.toList

/-- Words by which a line is not told to be of a kind, whatever follows them. -/
def Mark.Misses (words : String) : Prop :=
  ¬ mark.start <+: words.toList ∧ ¬ words.toList <+: mark.start

instance (words : String) : Decidable (mark.Misses words) :=
  inferInstanceAs (Decidable (_ ∧ _))

/-- Words by which a line is told to be of a kind and of no other, whatever follows them. -/
def Mark.Leads (words : String) : Prop :=
  mark.start <+: words.toList ∧
    ∀ other ∈ [Mark.verdict, .item, .heading], other ≠ mark → other.Misses words

instance (words : String) : Decidable (mark.Leads words) :=
  inferInstanceAs (Decidable (_ ∧ ∀ other ∈ _, _ → _))

variable {mark}

theorem Mark.Misses.not_start {words : String} (misses : mark.Misses words) (text : List Char) :
    ¬ mark.start <+: words.toList ++ text := by
  intro found
  rcases List.prefix_or_prefix_of_prefix found (List.prefix_append words.toList text) with
    within | beyond
  · exact misses.1 within
  · exact misses.2 beyond

theorem Mark.Leads.start_iff {own : Mark} {words : String} (leads : own.Leads words)
    (text : List Char) : mark.start <+: words.toList ++ text ↔ mark = own := by
  by_cases same : mark = own
  · rw [same]
    exact iff_of_true (leads.1.trans (List.prefix_append _ _)) rfl
  · have misses : mark.Misses words := leads.2 mark (by cases mark <;> simp) same
    exact iff_of_false (misses.not_start text) same

theorem markedLines_of_misses {words text : String} (misses : mark.Misses words)
    (oneLine : Text.IsOneLine (words ++ text)) : markedLines mark (words ++ text) = [] := by
  rw [markedLines, Text.linesStarting_of_notMem oneLine, String.toList_append,
    if_neg (misses.not_start _)]

theorem markedLines_of_leads {own : Mark} {words text : String} (leads : own.Leads words)
    (oneLine : Text.IsOneLine (words ++ text)) :
    markedLines mark (words ++ text) = if mark = own then [(words ++ text).toList] else [] := by
  rw [markedLines, Text.linesStarting_of_notMem oneLine, String.toList_append,
    if_congr (leads.start_iff _) rfl rfl]

theorem markedLines_empty : markedLines mark "" = [] := by
  rw [markedLines, Text.linesStarting_of_notMem (by decide)]
  exact if_neg (by simpa using mark.start_ne_nil)

/-- There are no line feeds in what a page shows, addresses and messages aside. -/
structure IsPlain (page : Page) : Prop where
  profile : Text.IsOneLine page.data.profile
  reason : ∀ reason ∈ page.data.incompleteReason, Text.IsOneLine reason
  results : ∀ result ∈ page.results, result.IsPlain

theorem isOneLine_verdictLine (page : Page) : Text.IsOneLine page.verdictLine := by
  unfold verdictLine
  cases page.verdict <;> decide

theorem isOneLine_figure (value : UInt32) : Text.IsOneLine (figure value) :=
  Text.isOneLine_numeral _

/-- There is one line of the verdict above the items. -/
theorem markedLines_headerLines {page : Page} (plain : page.IsPlain) :
    page.headerLines.flatMap (markedLines mark) =
      if mark = .verdict then [page.verdictLine.toList] else [] := by
  have title : markedLines mark "# Guardrail report" = [] := by
    cases mark <;> decide +kernel
  have figures {words text : String} (misses : mark.Misses words)
      (oneLineWords : Text.IsOneLine words) (oneLine : Text.IsOneLine text) :
      markedLines mark (words ++ text) = [] :=
    markedLines_of_misses misses (Text.isOneLine_append_iff.2 ⟨oneLineWords, oneLine⟩)
  have verdict : markedLines mark page.verdictLine =
      if mark = .verdict then [page.verdictLine.toList] else [] :=
    markedLines_of_leads (by decide) page.isOneLine_verdictLine
  simp only [headerLines, List.flatMap_cons, List.flatMap_nil, title, markedLines_empty, verdict]
  rw [figures (by cases mark <;> decide) (by decide) ?profile,
    figures (by cases mark <;> decide) (by decide) ?resources,
    figures (by cases mark <;> decide) (by decide) ?outcomes]
  · simp
  case profile => exact Text.isOneLine_append_iff.2 ⟨plain.profile, by decide⟩
  all_goals
    simp only [Text.isOneLine_append_iff, isOneLine_figure, true_and, and_true]
    decide

theorem markedLines_noteLines {page : Page} (plain : page.IsPlain) :
    page.noteLines.flatMap (markedLines mark) = [] := by
  have oneLine := plain.reason
  unfold noteLines
  cases told : page.data.incompleteReason with
  | none => rfl
  | some reason =>
    have note : markedLines mark ("> Note: incomplete run: " ++ reason) = [] := by
      refine markedLines_of_misses (by cases mark <;> decide) ?_
      exact Text.isOneLine_append_iff.2 ⟨by decide, oneLine reason told⟩
    simp [note, markedLines_empty]

theorem markedLines_closingLines (results : List PageResult) :
    (closingLines results).flatMap (markedLines mark) = [] := by
  unfold closingLines
  split
  case isTrue => cases mark <;> decide +kernel
  case isFalse => rfl

/-! ## Forged lines -/

/-- The number of lines that an address or a message forges: those behind its line feeds that start
like the lines of a kind. -/
def forgedCount (mark : Mark) (result : PageResult) : Nat :=
  Text.furtherCount mark.start result.address.toList +
    Text.furtherCount mark.start (result.message.getD "").toList

theorem isOneLine_itemLead {result : PageResult} (plain : result.IsPlain) :
    Text.IsOneLine (itemLead result) := by
  have severity : Text.IsOneLine (severityWord result.severity) := by
    cases result.severity <;> decide
  simp only [itemLead, Text.isOneLine_append_iff, severity, plain.ruleId, plain.ruleName, true_and]
  decide

/-- Nothing that stands behind the address goes on with a start in it. -/
theorem furtherCount_append_itemTail {result : PageResult} (plain : result.IsPlain)
    (text : List Char) :
    Text.furtherCount mark.start (text ++ (itemTail result).toList) =
      Text.furtherCount mark.start text := by
  have closing : (itemTail result).toList =
      Char.ofNat 0x60 :: (" (".toList ++ (result.category ++ ")").toList) := by
    rw [itemTail, String.toList_append]
    rfl
  have oneLine : Text.IsOneLine (result.category ++ ")") :=
    Text.isOneLine_append_iff.2 ⟨plain.category, by decide⟩
  rw [closing, Text.furtherCount_append_cons mark.lineFeed_notMem_start (by decide)
      (by cases mark <;> decide), Text.furtherCount_append_of_notMem (by decide),
    Text.furtherCount_of_notMem oneLine, Nat.add_zero]

/-- The line with the address is told to be an item, and goes on with what the address forges. -/
theorem length_markedLines_address {result : PageResult} (plain : result.IsPlain) :
    (markedLines mark (itemLead result ++ (result.address ++ itemTail result))).length =
      (if mark = .item then 1 else 0) + Text.furtherCount mark.start result.address.toList := by
  have leads : Mark.item.Leads "- [" := by decide
  have starts : mark.start <+: (itemLead result ++ (result.address ++ itemTail result)).toList ↔
      mark = .item := by
    rw [itemLead, String.append_assoc, String.toList_append]
    exact leads.start_iff _
  rw [markedLines, Text.length_linesStarting mark.lineFeed_notMem_start, if_congr starts rfl rfl,
    String.toList_append, Text.furtherCount_append_of_notMem (isOneLine_itemLead plain),
    String.toList_append, furtherCount_append_itemTail plain]

/-- The line with a message is not told to be of any kind, but goes on with what it forges. -/
theorem length_markedLines_message (message : String) :
    (markedLines mark ("  - " ++ message)).length =
      Text.furtherCount mark.start message.toList := by
  have misses : mark.Misses "  - " := by cases mark <;> decide
  rw [markedLines, Text.length_linesStarting mark.lineFeed_notMem_start, String.toList_append,
    if_neg (misses.not_start _), Nat.zero_add, Text.furtherCount_append_of_notMem (by decide)]

/-- An item has one line that is told to be its line, and those that are forged. -/
theorem length_markedLines_itemLines {result : PageResult} (plain : result.IsPlain) :
    ((itemLines result).flatMap (markedLines mark)).length =
      (if mark = .item then 1 else 0) + forgedCount mark result := by
  have messages : ((result.message.map ("  - " ++ ·)).toList.flatMap (markedLines mark)).length =
      Text.furtherCount mark.start (result.message.getD "").toList := by
    cases result.message with
    | none => exact (Text.furtherCount_of_notMem (by decide)).symm
    | some message =>
      rw [Option.map_some, Option.toList_some, List.flatMap_singleton, Option.getD_some]
      exact length_markedLines_message message
  rw [itemLines, List.flatMap_cons, List.length_append, length_markedLines_address plain, messages,
    forgedCount, Nat.add_assoc]

/-- Items have one line each that is told to be an item, and those that are forged. -/
theorem length_markedLines_items {results : List PageResult}
    (plain : ∀ result ∈ results, result.IsPlain) :
    (results.flatMap fun result => (itemLines result).flatMap (markedLines mark)).length =
      (if mark = .item then results.length else 0) + (results.map (forgedCount mark)).sum := by
  induction results with
  | nil => simp
  | cons result results inductionHypothesis =>
    obtain ⟨first, others⟩ := List.forall_mem_cons.1 plain
    rw [List.flatMap_cons, List.length_append, length_markedLines_itemLines first,
      inductionHypothesis others, List.map_cons, List.sum_cons, List.length_cons]
    split <;> omega

/-- A section starts with its heading, if it has items. -/
theorem markedLines_sectionLines {title : String} (oneLine : Text.IsOneLine title)
    (results : List PageResult) :
    (sectionLines title results).flatMap (markedLines mark) =
      (if mark = .heading then (sectionHeading title results).map String.toList else []) ++
        results.flatMap fun result => (itemLines result).flatMap (markedLines mark) := by
  unfold sectionLines sectionHeading
  split
  case isTrue empty => simp [empty]
  case isFalse =>
    have heading : markedLines mark ("## " ++ title) =
        if mark = .heading then [("## " ++ title).toList] else [] :=
      markedLines_of_leads (by decide) (Text.isOneLine_append_iff.2 ⟨by decide, oneLine⟩)
    simp [heading, markedLines_empty, List.flatMap_assoc]

theorem length_markedLines_sectionLines {title : String} (oneLine : Text.IsOneLine title)
    {results : List PageResult} (plain : ∀ result ∈ results, result.IsPlain) :
    ((sectionLines title results).flatMap (markedLines mark)).length =
      (if mark = .heading then (sectionHeading title results).length else 0) +
        ((if mark = .item then results.length else 0) +
          (results.map (forgedCount mark)).sum) := by
  rw [markedLines_sectionLines oneLine, List.length_append, length_markedLines_items plain]
  split
  case isTrue => rw [List.length_map]
  case isFalse => rfl

end Marks

/-- The headings of the sections of a page. -/
def headings (page : Page) : List String :=
  sectionHeading "Failures" (ofOutcome .failed page.results) ++
    sectionHeading "Not evaluated" (ofOutcome .unknown page.results)

/-- The number of lines that a page itself has of a kind. -/
def ownCount (page : Page) : Mark → Nat
  | .verdict => 1
  | .item => page.listed.length
  | .heading => page.headings.length

section Plain

variable {page : Page}

theorem IsPlain.ofOutcome (plain : page.IsPlain) (outcome : Outcome) :
    ∀ result ∈ ofOutcome outcome page.results, result.IsPlain :=
  fun result member => plain.results result (List.mem_filter.1 member).1

/-- The lines of a page that start like those of a kind, part by part. -/
theorem linesStarting_render (plain : page.IsPlain) (mark : Mark) :
    Text.linesStarting mark.start page.render.toList =
      (if mark = .verdict then [page.verdictLine.toList] else []) ++
        ((sectionLines "Failures" (Page.ofOutcome .failed page.results)).flatMap
            (markedLines mark) ++
          (sectionLines "Not evaluated" (Page.ofOutcome .unknown page.results)).flatMap
            (markedLines mark)) := by
  have written : Text.linesStarting mark.start page.render.toList =
      page.writtenLines.flatMap (markedLines mark) := by
    rw [render_eq_ended, Text.linesStarting_ended mark.start_ne_nil]
    rfl
  rw [written, writtenLines]
  simp only [List.flatMap_append, markedLines_headerLines plain, markedLines_noteLines plain,
    markedLines_closingLines, List.nil_append, List.append_nil]

/-- A page has its own lines of a kind, and besides them those that are forged. -/
theorem length_linesStarting_render (plain : page.IsPlain) (mark : Mark) :
    (Text.linesStarting mark.start page.render.toList).length =
      page.ownCount mark + (page.listed.map (forgedCount mark)).sum := by
  rw [linesStarting_render plain, List.length_append, List.length_append,
    length_markedLines_sectionLines (by decide) (plain.ofOutcome .failed),
    length_markedLines_sectionLines (by decide) (plain.ofOutcome .unknown), listed,
    List.map_append, List.sum_append]
  cases mark with
  | verdict => simp [ownCount]
  | item => simp [ownCount, listed]; omega
  | heading => simp [ownCount, headings]; omega

/-- The headings of a page are among the lines that start like headings, in order. -/
theorem headings_sublist (plain : page.IsPlain) :
    (page.headings.map String.toList).Sublist
      (Text.linesStarting Mark.heading.start page.render.toList) := by
  have heading {title : String} (oneLine : Text.IsOneLine title) (results : List PageResult) :
      ((sectionHeading title results).map String.toList).Sublist
        ((sectionLines title results).flatMap (markedLines .heading)) := by
    rw [markedLines_sectionLines oneLine, if_pos rfl]
    exact List.sublist_append_left _ _
  rw [linesStarting_render plain, headings, List.map_append]
  refine .trans ?_ (List.sublist_append_right _ _)
  exact (heading (by decide) _).append (heading (by decide) _)

/-- Unless a line is forged, the lines that start like headings are the headings of the page. -/
theorem linesStarting_heading_render (plain : page.IsPlain)
    (unforged : (page.listed.map (forgedCount .heading)).sum = 0) :
    Text.linesStarting Mark.heading.start page.render.toList =
      page.headings.map String.toList := by
  refine ((headings_sublist plain).eq_of_length ?_).symm
  rw [length_linesStarting_render plain, unforged, List.length_map, ownCount, Nat.add_zero]

end Plain

/-! ## Texts that forge nothing -/

/-- No further line of a text starts like a line of a page. -/
def IsHarmless (text : String) : Prop :=
  ∀ mark : Mark, Text.furtherCount mark.start text.toList = 0

theorem isHarmless_iff {text : String} :
    IsHarmless text ↔ ∀ mark ∈ [Mark.verdict, .item, .heading],
      Text.furtherCount mark.start text.toList = 0 :=
  ⟨fun harmless mark _ => harmless mark, fun harmless mark =>
    harmless mark (by cases mark <;> simp)⟩

instance : DecidablePred IsHarmless := fun _ => decidable_of_iff _ isHarmless_iff.symm

/-- A character that ends every start of a line, whatever stands in front of it. -/
structure IsForeign (character : Char) : Prop where
  noLineFeed : character ≠ '\n'
  notMem : ∀ mark : Mark, character ∉ mark.start

theorem isHarmless_of_isOneLine {text : String} (oneLine : Text.IsOneLine text) :
    IsHarmless text :=
  fun _ => Text.furtherCount_of_notMem oneLine

/-- Words without line feeds may stand in front of a text. -/
theorem IsHarmless.after {text : String} (harmless : IsHarmless text) {words : String}
    (oneLine : Text.IsOneLine words) : IsHarmless (words ++ text) := by
  intro mark
  rw [String.toList_append, Text.furtherCount_append_of_notMem oneLine, harmless mark]

/-- Words may stand behind a text, if their first character is foreign to all starts. -/
theorem IsHarmless.before {text words : String} (harmless : IsHarmless text)
    (harmlessWords : IsHarmless words) {character : Char}
    (first : words.toList.head? = some character) (foreign : IsForeign character) :
    IsHarmless (text ++ words) := by
  intro mark
  obtain ⟨rest, characters⟩ := List.head?_eq_some_iff.1 first
  have ofWords := harmlessWords mark
  rw [characters, Text.furtherCount_cons_of_ne foreign.noLineFeed] at ofWords
  rw [String.toList_append, characters,
    Text.furtherCount_append_cons mark.lineFeed_notMem_start foreign.noLineFeed
      (foreign.notMem mark), harmless mark, ofWords]

end Page

end ConfigAudit
