import Mathlib.Logic.Relation
import ConfigAudit.Report.Markdown

/-!
# What a page lists

A page lists the failures and the breakdowns, each of the two in its own section and in order. So
results that are not listed may come and go, and a failure and a breakdown may change places:
`Page.Rearranged` holds of lists of results that differ in nothing else, and these are the lists
with the same failures and the same breakdowns (`Page.rearranged_iff`).
`Page.render_lists_failures_and_unknowns` says so of the text of a page, tells what the text is, and
where a further result stands in it.
-/

namespace ConfigAudit

namespace Page

/-! ## Results that differ in what is not listed -/

/-- The results with an outcome among some. -/
def ofOutcome (outcome : Outcome) (results : List PageResult) : List PageResult :=
  results.filter fun result => result.outcome == outcome

/-- A change of a list of results that no reader of the page notices. -/
inductive Change : List PageResult → List PageResult → Prop where
  /-- Somewhere stands one more result that has passed or was skipped. -/
  | insert (before after : List PageResult) {result : PageResult}
      (unlisted : result.outcome = .passed ∨ result.outcome = .skipped) :
      Change (before ++ after) (before ++ result :: after)
  /-- A breakdown gets in front of a failure. -/
  | swap (before after : List PageResult) {failure breakdown : PageResult}
      (failed : failure.outcome = .failed) (unknown : breakdown.outcome = .unknown) :
      Change (before ++ failure :: breakdown :: after) (before ++ breakdown :: failure :: after)

/-- One list of results comes of another by changes, made or taken back. -/
def Rearranged : List PageResult → List PageResult → Prop :=
  Relation.EqvGen Change

theorem ofOutcome_append (outcome : Outcome) (results more : List PageResult) :
    ofOutcome outcome (results ++ more) = ofOutcome outcome results ++ ofOutcome outcome more :=
  List.filter_append _ _

theorem ofOutcome_cons_of_eq {outcome : Outcome} {result : PageResult}
    (same : result.outcome = outcome) (results : List PageResult) :
    ofOutcome outcome (result :: results) = result :: ofOutcome outcome results := by
  simp [ofOutcome, same]

theorem ofOutcome_cons_of_ne {outcome : Outcome} {result : PageResult}
    (different : result.outcome ≠ outcome) (results : List PageResult) :
    ofOutcome outcome (result :: results) = ofOutcome outcome results := by
  simp [ofOutcome, different]

/-- A change leaves the failures and the breakdowns as they are. -/
theorem Change.ofOutcome_eq {results changed : List PageResult} (change : Change results changed)
    {outcome : Outcome} (listed : outcome = .failed ∨ outcome = .unknown) :
    ofOutcome outcome results = ofOutcome outcome changed := by
  cases change with
  | @insert before after result unlisted =>
    have different : result.outcome ≠ outcome := by
      rintro rfl
      rcases unlisted with same | same <;> simp [same] at listed
    rw [ofOutcome_append, ofOutcome_append, ofOutcome_cons_of_ne different]
  | @swap before after failure breakdown failed unknown =>
    rw [ofOutcome_append, ofOutcome_append]
    rcases listed with rfl | rfl
    · simp [ofOutcome, failed, unknown]
    · simp [ofOutcome, failed, unknown]

/-- Changes can be made behind a further result as well. -/
theorem Rearranged.cons {results others : List PageResult} (rearranged : Rearranged results others)
    (result : PageResult) : Rearranged (result :: results) (result :: others) := by
  induction rearranged with
  | rel results others change =>
    cases change with
    | insert before after unlisted => exact .rel _ _ (.insert (result :: before) after unlisted)
    | swap before after failed unknown =>
      exact .rel _ _ (.swap (result :: before) after failed unknown)
  | refl results => exact .refl _
  | symm results others _ inductionHypothesis => exact .symm _ _ inductionHypothesis
  | trans results between others _ _ first second => exact .trans _ _ _ first second

/-- A breakdown gets in front of any number of failures. -/
theorem rearranged_cons_append {breakdown : PageResult} (unknown : breakdown.outcome = .unknown)
    {failures : List PageResult} (failed : ∀ failure ∈ failures, failure.outcome = .failed)
    (results : List PageResult) :
    Rearranged (failures ++ breakdown :: results) (breakdown :: (failures ++ results)) := by
  induction failures with
  | nil => exact .refl _
  | cons failure rest inductionHypothesis =>
    obtain ⟨failedFirst, failedRest⟩ := List.forall_mem_cons.1 failed
    have behind : Rearranged (failure :: (rest ++ breakdown :: results))
        (failure :: breakdown :: (rest ++ results)) := (inductionHypothesis failedRest).cons failure
    have swapped : Rearranged (failure :: breakdown :: (rest ++ results))
        (breakdown :: failure :: (rest ++ results)) := .rel _ _ (.swap [] _ failedFirst unknown)
    exact .trans _ _ _ behind swapped

/-- Any results can be brought into the order of the page. -/
theorem rearranged_sections (results : List PageResult) :
    Rearranged results (ofOutcome .failed results ++ ofOutcome .unknown results) := by
  induction results with
  | nil => exact .refl _
  | cons result rest inductionHypothesis =>
    have behind := inductionHypothesis.cons result
    cases outcome : result.outcome with
    | failed =>
      rw [ofOutcome_cons_of_eq outcome, ofOutcome_cons_of_ne (by simp [outcome])]
      exact behind
    | unknown =>
      rw [ofOutcome_cons_of_ne (by simp [outcome]), ofOutcome_cons_of_eq outcome]
      have failed : ∀ failure ∈ ofOutcome .failed rest, failure.outcome = .failed :=
        fun failure member => by simpa using (List.mem_filter.1 member).2
      exact .trans _ _ _ behind (.symm _ _ (rearranged_cons_append outcome failed _))
    | passed | skipped =>
      rw [ofOutcome_cons_of_ne (by simp [outcome]), ofOutcome_cons_of_ne (by simp [outcome])]
      exact .trans _ _ _ (.symm _ _ (.rel _ _ (.insert [] rest (by simp [outcome]))))
        inductionHypothesis

/-- Lists of results come of each other by changes iff they have the same failures and the same
breakdowns. -/
theorem rearranged_iff {results others : List PageResult} :
    Rearranged results others ↔
      ofOutcome .failed results = ofOutcome .failed others ∧
        ofOutcome .unknown results = ofOutcome .unknown others := by
  constructor
  · intro rearranged
    induction rearranged with
    | rel results others change =>
      exact ⟨change.ofOutcome_eq (.inl rfl), change.ofOutcome_eq (.inr rfl)⟩
    | refl results => exact ⟨rfl, rfl⟩
    | symm results others _ inductionHypothesis =>
      exact ⟨inductionHypothesis.1.symm, inductionHypothesis.2.symm⟩
    | trans results between others _ _ first second =>
      exact ⟨first.1.trans second.1, first.2.trans second.2⟩
  · rintro ⟨failures, unknowns⟩
    have ordered := rearranged_sections results
    rw [failures, unknowns] at ordered
    exact .trans _ _ _ ordered (.symm _ _ (rearranged_sections others))

/-! ## The text of a page -/

/-- The items of some results, one after the other. -/
def items (results : List PageResult) : String :=
  String.join (results.map item)

theorem items_append (results more : List PageResult) :
    items (results ++ more) = items results ++ items more := by
  rw [items, List.map_append, String.join_append]
  rfl

theorem items_cons (result : PageResult) (results : List PageResult) :
    items (result :: results) = item result ++ items results := by
  rw [items, List.map_cons, String.join_cons]
  rfl

theorem sectionOf_of_ne_nil (title : String) {results : List PageResult} (filled : results ≠ []) :
    sectionOf title results = "## " ++ title ++ "\n\n" ++ items results ++ "\n" := by
  rw [sectionOf, if_neg (by simpa using filled)]
  rfl

/-- There is a line in place of the sections iff both of them are left out. -/
theorem body_eq (failures unknowns : List PageResult) :
    body failures unknowns =
      sectionOf "Failures" failures ++ sectionOf "Not evaluated" unknowns ++
        if failures = [] ∧ unknowns = [] then "No failures.\n" else "" := by
  unfold body
  cases failures <;> cases unknowns <;> simp [sectionOf]

theorem sectionOf_eq (title : String) (results : List PageResult) :
    sectionOf title results =
      if results = [] then "" else "## " ++ title ++ "\n\n" ++ items results ++ "\n" := by
  split
  case isTrue none => rw [none]; rfl
  case isFalse filled => exact sectionOf_of_ne_nil title filled

/-- The text of a page, section by section. -/
theorem render_eq_sections (page : Page) :
    page.render = page.header ++ page.note ++
      sectionOf "Failures" (ofOutcome .failed page.results) ++
      sectionOf "Not evaluated" (ofOutcome .unknown page.results) ++
      if ofOutcome .failed page.results = [] ∧ ofOutcome .unknown page.results = [] then
        "No failures.\n"
      else "" := by
  have text : page.render = page.header ++ page.note ++
      body (ofOutcome .failed page.results) (ofOutcome .unknown page.results) := rfl
  rw [text, body_eq]
  simp only [String.append_assoc]

/-- Pages with the same verdict and figures are the same text if their results are the same but for
what is not listed. -/
theorem render_of_rearranged {page other : Page} (verdict : other.verdict = page.verdict)
    (data : other.data = page.data) (rearranged : Rearranged other.results page.results) :
    other.render = page.render := by
  obtain ⟨failures, unknowns⟩ := rearranged_iff.1 rearranged
  have header : other.header = page.header := by
    unfold header
    rw [verdict, data]
  have note : other.note = page.note := by
    unfold note
    rw [data]
  rw [render_eq_sections, render_eq_sections, header, note, failures, unknowns]

/-- A page with other results. -/
def withResults (page : Page) (results : List PageResult) : Page :=
  { page with results }

theorem render_withResults (page : Page) (results : List PageResult) :
    (page.withResults results).render =
      page.header ++ page.note ++ body (ofOutcome .failed results) (ofOutcome .unknown results) :=
  rfl

/-- The text of a page with failures. -/
theorem render_of_failures (page : Page) {results : List PageResult}
    (filled : ofOutcome .failed results ≠ []) :
    (page.withResults results).render =
      page.header ++ page.note ++ "## Failures\n\n" ++ items (ofOutcome .failed results) ++ "\n" ++
        sectionOf "Not evaluated" (ofOutcome .unknown results) := by
  rw [render_withResults, body_eq, sectionOf_of_ne_nil _ filled, if_neg fun none => filled none.1]
  simp only [String.append_assoc, String.append_empty]
  rfl

/-- The text of a page with breakdowns. -/
theorem render_of_unknowns (page : Page) {results : List PageResult}
    (filled : ofOutcome .unknown results ≠ []) :
    (page.withResults results).render =
      page.header ++ page.note ++ sectionOf "Failures" (ofOutcome .failed results) ++
        "## Not evaluated\n\n" ++ items (ofOutcome .unknown results) ++ "\n" := by
  rw [render_withResults, body_eq, sectionOf_of_ne_nil _ filled, if_neg fun none => filled none.2]
  simp only [String.append_assoc, String.append_empty]
  rfl

/-- The text of a page above the place of a failure. -/
def aboveFailure (page : Page) (before : List PageResult) : String :=
  page.header ++ page.note ++ "## Failures\n\n" ++ items (ofOutcome .failed before)

/-- The text of a page below the place of a failure. -/
def belowFailure (before after : List PageResult) : String :=
  items (ofOutcome .failed after) ++ "\n" ++
    sectionOf "Not evaluated" (ofOutcome .unknown (before ++ after))

/-- The text of a page above the place of a breakdown. -/
def aboveUnknown (page : Page) (before after : List PageResult) : String :=
  page.header ++ page.note ++ sectionOf "Failures" (ofOutcome .failed (before ++ after)) ++
    "## Not evaluated\n\n" ++ items (ofOutcome .unknown before)

/-- The text of a page below the place of a breakdown. -/
def belowUnknown (after : List PageResult) : String :=
  items (ofOutcome .unknown after) ++ "\n"

/-- A further failure adds its item where it stands among the failures. -/
theorem render_insert_failure (page : Page) {before after : List PageResult} {result : PageResult}
    (failed : result.outcome = .failed) (others : ofOutcome .failed (before ++ after) ≠ []) :
    (page.withResults (before ++ after)).render =
        page.aboveFailure before ++ belowFailure before after ∧
      (page.withResults (before ++ result :: after)).render =
        page.aboveFailure before ++ item result ++ belowFailure before after := by
  have failures : ofOutcome .failed (before ++ result :: after) =
      ofOutcome .failed before ++ result :: ofOutcome .failed after := by
    rw [ofOutcome_append, ofOutcome_cons_of_eq failed]
  have unknowns : ofOutcome .unknown (before ++ result :: after) =
      ofOutcome .unknown (before ++ after) := by
    rw [ofOutcome_append, ofOutcome_append, ofOutcome_cons_of_ne (by simp [failed])]
  unfold aboveFailure belowFailure
  constructor
  · rw [page.render_of_failures others, ofOutcome_append, items_append]
    simp only [String.append_assoc]
  · rw [page.render_of_failures (by simp [failures]), failures, unknowns, items_append, items_cons]
    simp only [String.append_assoc]

/-- A further breakdown adds its item where it stands among the breakdowns. -/
theorem render_insert_unknown (page : Page) {before after : List PageResult} {result : PageResult}
    (unknown : result.outcome = .unknown) (others : ofOutcome .unknown (before ++ after) ≠ []) :
    (page.withResults (before ++ after)).render =
        page.aboveUnknown before after ++ belowUnknown after ∧
      (page.withResults (before ++ result :: after)).render =
        page.aboveUnknown before after ++ item result ++ belowUnknown after := by
  have unknowns : ofOutcome .unknown (before ++ result :: after) =
      ofOutcome .unknown before ++ result :: ofOutcome .unknown after := by
    rw [ofOutcome_append, ofOutcome_cons_of_eq unknown]
  have failures : ofOutcome .failed (before ++ result :: after) =
      ofOutcome .failed (before ++ after) := by
    rw [ofOutcome_append, ofOutcome_append, ofOutcome_cons_of_ne (by simp [unknown])]
  unfold aboveUnknown belowUnknown
  constructor
  · rw [page.render_of_unknowns others, ofOutcome_append .unknown, items_append]
    simp only [String.append_assoc]
  · rw [page.render_of_unknowns (by simp [unknowns]), failures, unknowns, items_append, items_cons]
    simp only [String.append_assoc]

/-- A page lists the failures and the breakdowns and nothing else. Its text stays the same when
other results come and go or a failure and a breakdown change places, and lists of results are so
related iff they have the same failures and the same breakdowns. Below the heading and the note
stands the section of the failures, if there are any, with one item for each of them in order, then
that of the breakdowns, and one line in place of both if there are neither. A further result adds
its item to the section that is there already, where it stands among those of its kind, and changes
nothing else. -/
theorem render_lists_failures_and_unknowns (page : Page) :
    (∀ other : Page, other.verdict = page.verdict → other.data = page.data →
      Rearranged other.results page.results → other.render = page.render) ∧
    (∀ results others, Rearranged results others ↔
      ofOutcome .failed results = ofOutcome .failed others ∧
        ofOutcome .unknown results = ofOutcome .unknown others) ∧
    (let failures := ofOutcome .failed page.results
     let unknowns := ofOutcome .unknown page.results
     page.render = page.header ++ page.note ++
      (if failures = [] then "" else "## Failures\n\n" ++ items failures ++ "\n") ++
      (if unknowns = [] then "" else "## Not evaluated\n\n" ++ items unknowns ++ "\n") ++
      if failures = [] ∧ unknowns = [] then "No failures.\n" else "") ∧
    (∀ before after result, result.outcome = .failed →
      ofOutcome .failed (before ++ after) ≠ [] →
        (page.withResults (before ++ after)).render =
            page.aboveFailure before ++ belowFailure before after ∧
          (page.withResults (before ++ result :: after)).render =
            page.aboveFailure before ++ item result ++ belowFailure before after) ∧
    ∀ before after result, result.outcome = .unknown →
      ofOutcome .unknown (before ++ after) ≠ [] →
        (page.withResults (before ++ after)).render =
            page.aboveUnknown before after ++ belowUnknown after ∧
          (page.withResults (before ++ result :: after)).render =
            page.aboveUnknown before after ++ item result ++ belowUnknown after := by
  refine ⟨fun other => render_of_rearranged, fun results others => rearranged_iff, ?_,
    fun before after result => page.render_insert_failure,
    fun before after result => page.render_insert_unknown⟩
  intro failures unknowns
  rw [page.render_eq_sections, sectionOf_eq, sectionOf_eq]
  rfl

/-- A failure and a breakdown in the order of the page and in the other one, with and without a
result that is not listed, and a further failure at the end. -/
theorem render_lists_failures_and_unknowns_of_reordered :
    let result (outcome : Outcome) (address : String) : PageResult :=
      ⟨.error, outcome, "R", "Public", "NETWORKING", address, none⟩
    let failure := result .failed "net.a"
    let further := result .failed "net.b"
    let breakdown := result .unknown "net.c"
    let data : PageData := ⟨"strict", 2, 1, ⟨0, 1, 0, 1⟩, some "run_cancelled"⟩
    let page : Page := ⟨.fail, [failure, breakdown], data⟩
    let other : Page := ⟨.fail, [breakdown, result .passed "net.d", failure], data⟩
    let upper := page.header ++ page.note ++ "## Failures\n\n" ++ item failure
    let lower := "\n## Not evaluated\n\n" ++ item breakdown ++ "\n"
    Rearranged other.results page.results ∧ other.render = page.render ∧
      page.render = upper ++ lower ∧
      (page.withResults [failure, breakdown, further]).render =
        upper ++ "- [ERROR] `R` Public on `net.b` (NETWORKING)\n" ++ lower := by
  intro result failure further breakdown data page other upper lower
  obtain ⟨same, rearranged, _, inserted, _⟩ := render_lists_failures_and_unknowns page
  have unnoticed : Rearranged other.results page.results :=
    (rearranged _ _).2 ⟨by decide +kernel, by decide +kernel⟩
  have filled : ofOutcome .failed ([failure, breakdown] ++ []) ≠ [] := by
    decide +kernel
  have above : page.aboveFailure [failure, breakdown] = upper := by
    decide +kernel
  have below : belowFailure [failure, breakdown] [] = lower := by
    decide +kernel
  obtain ⟨before, after⟩ := inserted [failure, breakdown] [] further rfl filled
  rw [above, below] at before after
  exact ⟨unnoticed, same other rfl rfl unnoticed, before, after⟩

end Page

end ConfigAudit
