/-!
# Steps that may fail

When a sequence of steps succeeds and when it fails, in terms of its single steps.
-/

namespace ConfigAudit

variable {Error OtherError Item Result Rest : Type}

/-- Two steps succeed if the first one does and the second one does with what came of it. -/
theorem bind_eq_ok {first : Except Error Result} {next : Result → Except Error Rest} {rest : Rest} :
    (first >>= next) = .ok rest ↔ ∃ result, first = .ok result ∧ next result = .ok rest := by
  cases first with
  | error => exact ⟨nofun, fun ⟨_, impossible, _⟩ => nomatch impossible⟩
  | ok result =>
    refine ⟨fun continued => ⟨result, rfl, continued⟩, ?_⟩
    rintro ⟨_, ⟨⟩, continued⟩
    exact continued

/-- A step succeeds or not whatever becomes of its error. -/
theorem mapError_eq_ok {step : Except Error Result} {change : Error → OtherError}
    {result : Result} :
    step.mapError change = .ok result ↔ step = .ok result := by
  cases step with
  | error => exact ⟨nofun, nofun⟩
  | ok => exact ⟨fun same => by cases same; rfl, fun same => by cases same; rfl⟩

/-- Two steps fail if the first one does, or the second one with what came of the first. -/
theorem bind_eq_error {first : Except Error Result} {next : Result → Except Error Rest}
    {error : Error} :
    (first >>= next) = .error error ↔
      first = .error error ∨ ∃ result, first = .ok result ∧ next result = .error error := by
  cases first with
  | error =>
    refine ⟨fun failed => .inl (by cases failed; rfl), ?_⟩
    rintro (⟨⟨⟩⟩ | ⟨_, ⟨⟩, _⟩)
    rfl
  | ok result =>
    refine ⟨fun failed => .inr ⟨result, rfl, failed⟩, ?_⟩
    rintro (⟨⟨⟩⟩ | ⟨_, ⟨⟩, failed⟩)
    exact failed

/-- A step with a changed error fails iff the step does. -/
theorem mapError_eq_error {step : Except Error Result} {change : Error → OtherError}
    {error : OtherError} :
    step.mapError change = .error error ↔ ∃ cause, step = .error cause ∧ change cause = error := by
  cases step with
  | error cause =>
    refine ⟨fun same => by cases same; exact ⟨cause, rfl, rfl⟩, ?_⟩
    rintro ⟨_, ⟨⟩, rfl⟩
    rfl
  | ok => exact ⟨nofun, fun ⟨_, impossible, _⟩ => nomatch impossible⟩

/-- A step fails iff it does not succeed. -/
theorem exists_eq_error_iff {step : Except Error Result} :
    (∃ error, step = .error error) ↔ ¬ ∃ result, step = .ok result := by
  cases step <;> simp

/-- A step succeeds iff there is a result left once its error is forgotten. -/
theorem toOption_eq_some_iff {step : Except Error Result} {result : Result} :
    step.toOption = some result ↔ step = .ok result := by
  cases step <;> simp [Except.toOption]

/-- A step succeeds with a result that looks a certain way iff this is what can be seen of it. -/
theorem map_toOption_eq_some_iff {step : Except Error Result} {view : Result → Rest} {seen : Rest} :
    step.toOption.map view = some seen ↔ ∃ result, step = .ok result ∧ view result = seen := by
  simp only [Option.map_eq_some_iff, toOption_eq_some_iff]

instance decidableSucceeds (check : Except Error Unit) : Decidable (check = .ok ()) :=
  match check with
  | .ok () => isTrue rfl
  | .error _ => isFalse nofun

/-- What a step for each item of a sequence keeps is kept by the sequence. -/
theorem holds_of_foldlM_eq_ok_of_mem {step : Result → Item → Except Error Result}
    {holds : Result → Prop} {items : List Item}
    (kept : ∀ item ∈ items, ∀ {before after}, holds before → step before item = .ok after →
      holds after)
    {start final : Result} (initially : holds start)
    (folded : items.foldlM step start = .ok final) : holds final := by
  induction items generalizing start with
  | nil =>
    obtain rfl : start = final := by simpa [pure, Except.pure] using folded
    exact initially
  | cons item rest inductionHypothesis =>
    rw [List.foldlM_cons] at folded
    obtain ⟨next, stepped, continued⟩ := bind_eq_ok.1 folded
    obtain ⟨keptFirst, keptRest⟩ := List.forall_mem_cons.1 kept
    exact inductionHypothesis keptRest (keptFirst initially stepped) continued

/-- What every step keeps is kept by a sequence of steps. -/
theorem holds_of_foldlM_eq_ok {step : Result → Item → Except Error Result} {holds : Result → Prop}
    (kept : ∀ {before item after}, holds before → step before item = .ok after → holds after)
    {items : List Item} {start final : Result} (initially : holds start)
    (folded : items.foldlM step start = .ok final) : holds final :=
  holds_of_foldlM_eq_ok_of_mem (fun _ _ _ _ => kept) initially folded

/-- What a step for each item of a sequence keeps is kept by the sequence, also where the steps give
no reason for failing. -/
theorem holds_of_foldlM_eq_some {step : Result → Item → Option Result} (holds : Result → Prop)
    {items : List Item}
    (kept : ∀ item ∈ items, ∀ {before after}, holds before → step before item = some after →
      holds after)
    {start final : Result} (initially : holds start)
    (folded : items.foldlM step start = some final) : holds final := by
  induction items generalizing start with
  | nil =>
    obtain rfl : start = final := by simpa using folded
    exact initially
  | cons item rest inductionHypothesis =>
    rw [List.foldlM_cons, Option.bind_eq_bind, Option.bind_eq_some_iff] at folded
    obtain ⟨next, stepped, continued⟩ := folded
    obtain ⟨keptFirst, keptRest⟩ := List.forall_mem_cons.1 kept
    exact inductionHypothesis keptRest (keptFirst initially stepped) continued

/-- A state that records the steps up to it, whatever the next one is, records all of them at the
end. -/
theorem records_of_foldlM_eq_some {step : Result → Item → Option Result}
    (records : List Item → Result → Prop)
    (kept : ∀ {done before item after}, records done before → step before item = some after →
      records (done ++ [item]) after)
    {items : List Item} {start final : Result} (initially : records [] start)
    (folded : items.foldlM step start = some final) : records items final := by
  suffices continued : ∀ done reached, records done reached →
      items.foldlM step reached = some final → records (done ++ items) final by
    simpa using continued [] start initially folded
  clear initially folded
  induction items with
  | nil =>
    intro done reached recorded folded
    obtain rfl : reached = final := by simpa using folded
    simpa using recorded
  | cons item rest inductionHypothesis =>
    intro done reached recorded folded
    rw [List.foldlM_cons, Option.bind_eq_bind, Option.bind_eq_some_iff] at folded
    obtain ⟨next, stepped, continued⟩ := folded
    have recordedRest := inductionHypothesis (done ++ [item]) next (kept recorded stepped) continued
    simpa using recordedRest

/-- A sequence of steps comes to a result if each of them does wherever it starts. -/
theorem exists_foldlM_eq_ok {step : Result → Item → Except Error Result} {items : List Item}
    (succeeds : ∀ item ∈ items, ∀ before, ∃ after, step before item = .ok after)
    (start : Result) : ∃ final, items.foldlM step start = .ok final := by
  induction items generalizing start with
  | nil => exact ⟨start, rfl⟩
  | cons item rest inductionHypothesis =>
    obtain ⟨first, others⟩ := List.forall_mem_cons.1 succeeds
    obtain ⟨next, stepped⟩ := first start
    obtain ⟨final, continued⟩ := inductionHypothesis others next
    exact ⟨final, bind_eq_ok.2 ⟨next, stepped, continued⟩⟩

/-- A sequence of steps fails with the first of them that does, after those before it have led
somewhere. -/
theorem foldlM_eq_error_iff {step : Result → Item → Except Error Result} {items : List Item}
    {start : Result} {error : Error} :
    items.foldlM step start = .error error ↔
      ∃ before item after reached, items = before ++ item :: after ∧
        before.foldlM step start = .ok reached ∧ step reached item = .error error := by
  constructor
  · intro failed
    induction items generalizing start with
    | nil => cases failed
    | cons item rest inductionHypothesis =>
      rw [List.foldlM_cons] at failed
      rcases bind_eq_error.1 failed with refused | ⟨next, stepped, continued⟩
      · exact ⟨[], item, rest, start, rfl, rfl, refused⟩
      · obtain ⟨before, refusedItem, after, reached, rfl, passed, refused⟩ :=
          inductionHypothesis continued
        refine ⟨item :: before, refusedItem, after, reached, rfl, ?_, refused⟩
        rw [List.foldlM_cons, stepped]
        exact passed
  · rintro ⟨before, item, after, reached, rfl, passed, refused⟩
    rw [List.foldlM_append, bind_eq_error]
    exact .inr ⟨reached, passed, bind_eq_error.2 (.inl refused)⟩

/-- A check of each item succeeds if none of them is refused. -/
theorem forM_eq_ok {check : Item → Except Error Unit} {items : List Item} :
    items.forM check = .ok () ↔ ∀ item ∈ items, check item = .ok () := by
  induction items with
  | nil => simp [pure, Except.pure]
  | cons item rest inductionHypothesis =>
    have sequence : (item :: rest).forM check = (check item >>= fun _ => rest.forM check) := rfl
    rw [sequence, bind_eq_ok, List.forall_mem_cons, ← inductionHypothesis]
    exact ⟨fun ⟨(), first, others⟩ => ⟨first, others⟩, fun ⟨first, others⟩ => ⟨(), first, others⟩⟩

/-- Checks that stand in some order are refused with the first one that is. -/
theorem forM_eq_error_iff_of_pairwise {Place : Type} (precedes : Place → Place → Prop)
    (asymmetric : ∀ left right, precedes left right → ¬ precedes right left)
    {checks : List (Place × Except Error Unit)}
    (ordered : checks.Pairwise fun earlier later => precedes earlier.1 later.1) {error : Error} :
    checks.forM Prod.snd = .error error ↔
      ∃ place, (place, .error error) ∈ checks ∧
        ∀ earlier, precedes earlier place → ∀ other, (earlier, .error other) ∉ checks := by
  induction checks with
  | nil => exact ⟨nofun, fun ⟨_, member, _⟩ => nomatch member⟩
  | cons head rest inductionHypothesis =>
    obtain ⟨before, orderedRest⟩ := List.pairwise_cons.1 ordered
    obtain ⟨place, check⟩ := head
    have sequence : ((place, check) :: rest).forM Prod.snd =
        (check >>= fun _ => rest.forM Prod.snd) := rfl
    cases check with
    | ok =>
      have continued : ((place, .ok ()) :: rest).forM Prod.snd = rest.forM Prod.snd := sequence
      rw [continued, inductionHypothesis orderedRest]
      simp
    | error cause =>
      constructor
      · rintro ⟨⟩
        refine ⟨place, List.mem_cons_self, fun earlier precedesPlace other member => ?_⟩
        rcases List.mem_cons.1 member with same | member
        · cases same
          exact asymmetric _ _ precedesPlace precedesPlace
        · exact asymmetric _ _ precedesPlace (before _ member)
      · rintro ⟨refused, member, first⟩
        rcases List.mem_cons.1 member with same | member
        · cases same
          rfl
        · exact absurd List.mem_cons_self (first place (before _ member) cause)

/-- Checks of the parts of items, one item after the other. -/
theorem forM_flatMap {Part : Type} (parts : Item → List Part) (check : Part → Except Error Unit)
    (items : List Item) :
    (items.flatMap parts).forM check = items.forM fun item => (parts item).forM check := by
  induction items with
  | nil => rfl
  | cons item rest inductionHypothesis =>
    simp only [List.forM_eq_forM] at inductionHypothesis ⊢
    rw [List.flatMap_cons, List.forM_append, List.forM_cons, inductionHypothesis]

/-- What is left of a step when its result is of no interest. -/
def discard (step : Except Error Result) : Except Error Unit :=
  step.map fun _ => ()

theorem discard_eq_error_iff {step : Except Error Result} {error : Error} :
    discard step = .error error ↔ step = .error error := by
  cases step <;> simp [discard, Except.map]

theorem discard_eq_ok_iff {step : Except Error Result} :
    discard step = .ok () ↔ ∃ result, step = .ok result := by
  cases step <;> simp [discard, Except.map]

/-- The result of a step is of no interest if the next one does the same whatever it is. -/
theorem discard_bind {first : Except Error Result} {next : Result → Except Error Rest}
    {rest : Except Error Unit} (same : ∀ result, discard (next result) = rest) :
    discard (first >>= next) = (discard first >>= fun _ => rest) := by
  cases first with
  | error => rfl
  | ok result => exact same result

theorem discard_bind_pure {first : Except Error Result} {view : Result → Rest} :
    discard (first >>= fun result => pure (view result)) = discard first := by
  cases first <;> rfl

/-- Nothing is lost of a check. -/
theorem discard_eq_self (check : Except Error Unit) : discard check = check := by
  cases check <;> rfl

/-- Steps that refuse the same wherever they start are a check of each item. -/
theorem discard_foldlM {step : Result → Item → Except Error Result}
    {check : Item → Except Error Unit}
    (same : ∀ result item, discard (step result item) = check item) (items : List Item)
    (start : Result) : discard (items.foldlM step start) = items.forM check := by
  induction items generalizing start with
  | nil => rfl
  | cons item rest inductionHypothesis =>
    rw [List.foldlM_cons, discard_bind inductionHypothesis, same]
    rfl

/-- A step for each item refuses what a check of each item does. -/
theorem discard_mapM (step : Item → Except Error Result) (items : List Item) :
    discard (items.mapM step) = items.forM fun item => discard (step item) := by
  induction items with
  | nil => rfl
  | cons item rest inductionHypothesis =>
    rw [List.mapM_cons, discard_bind fun result => discard_bind_pure, inductionHypothesis]
    rfl

/-- There are results of a step for each item if there is one for each of them. -/
theorem exists_mapM_eq_ok_iff {step : Item → Except Error Result} {items : List Item} :
    (∃ results, items.mapM step = .ok results) ↔
      ∀ item ∈ items, ∃ result, step item = .ok result := by
  induction items with
  | nil => exact ⟨fun _ => nofun, fun _ => ⟨[], rfl⟩⟩
  | cons item items inductionHypothesis =>
    rw [List.forall_mem_cons, ← inductionHypothesis]
    simp only [List.mapM_cons, bind_eq_ok]
    constructor
    · rintro ⟨_, result, first, rest, others, _⟩
      exact ⟨⟨result, first⟩, rest, others⟩
    · rintro ⟨⟨result, first⟩, rest, others⟩
      exact ⟨result :: rest, result, first, rest, others, rfl⟩

/-- A step for each item succeeds if each of them does. -/
theorem mapM_eq_ok {step : Item → Except Error Result} {items : List Item} {results : List Result} :
    items.mapM step = .ok results ↔ items.map step = results.map .ok := by
  induction items generalizing results with
  | nil => cases results <;> simp [pure, Except.pure]
  | cons item items inductionHypothesis =>
    rw [List.mapM_cons, bind_eq_ok]
    constructor
    · rintro ⟨result, first, continued⟩
      obtain ⟨rest, others, ended⟩ := bind_eq_ok.1 continued
      cases ended
      rw [List.map_cons, List.map_cons, first, inductionHypothesis.1 others]
    · intro stepped
      cases results with
      | nil => exact nomatch stepped
      | cons result rest =>
        obtain ⟨first, others⟩ := List.cons.inj stepped
        exact ⟨result, first, bind_eq_ok.2 ⟨rest, inductionHypothesis.2 others, rfl⟩⟩

/-- The results of a step for each item are what comes of the items. -/
theorem mem_iff_of_mapM_eq_ok {step : Item → Except Error Result} {items : List Item}
    {results : List Result} (mapped : items.mapM step = .ok results) {result : Result} :
    result ∈ results ↔ ∃ item ∈ items, step item = .ok result := by
  rw [← List.mem_map, mapM_eq_ok.1 mapped]
  simp

end ConfigAudit
