import Mathlib.Data.List.TakeWhile
import ConfigAudit.Text

/-!
# What trimming leaves

Trimming takes the blanks from both ends of a text and leaves what stands between them:
`Text.trimChars_eq_iff`.
-/

namespace ConfigAudit

namespace Text

/-- Characters are trimmed to a core: it stands between blanks, and there are none at its own
ends. -/
structure TrimsTo (characters core : List Char) : Prop where
  between : ∃ before after, characters = before ++ (core ++ after) ∧
    (∀ character ∈ before, isBlank character = true) ∧
    ∀ character ∈ after, isBlank character = true
  first : ∀ character ∈ core.head?, isBlank character = false
  last : ∀ character ∈ core.getLast?, isBlank character = false

theorem trimChars_eq_nil_iff {characters : List Char} :
    trimChars characters = [] ↔ ∀ character ∈ characters, isBlank character = true := by
  rw [trimChars, List.reverse_eq_nil_iff, List.dropWhile_eq_nil_iff]
  simp only [List.mem_reverse]
  constructor
  · intro blank character member
    rw [← List.takeWhile_append_dropWhile (p := isBlank) (l := characters),
      List.mem_append] at member
    exact member.elim List.mem_takeWhile_imp (blank character)
  · intro blank character member
    exact blank character ((List.dropWhile_sublist isBlank).subset member)

/-- Blanks are dropped up to the first character that is none. -/
theorem dropWhile_isBlank_append {before rest : List Char}
    (blank : ∀ character ∈ before, isBlank character = true)
    (boundary : ∀ character ∈ rest.head?, isBlank character = false) :
    (before ++ rest).dropWhile isBlank = rest := by
  rw [List.dropWhile_append_of_pos blank]
  cases rest with
  | nil => rfl
  | cons first rest => rw [List.dropWhile_cons_of_neg (by simpa using boundary)]

/-- No blank stands where the dropping of blanks has come to its end. -/
theorem isBlank_head?_dropWhile (characters : List Char) :
    ∀ character ∈ (characters.dropWhile isBlank).head?, isBlank character = false := by
  intro character first
  have boundary := List.head?_dropWhile_not isBlank characters
  rwa [first] at boundary

theorem TrimsTo.trimChars_eq {characters core : List Char} (trims : TrimsTo characters core) :
    trimChars characters = core := by
  obtain ⟨⟨before, after, rfl, blankBefore, blankAfter⟩, first, last⟩ := trims
  cases core with
  | nil =>
    rw [trimChars_eq_nil_iff]
    intro character member
    exact (List.mem_append.1 member).elim (blankBefore character) (blankAfter character)
  | cons leading rest =>
    have front : (before ++ (leading :: rest ++ after)).dropWhile isBlank =
        leading :: rest ++ after := dropWhile_isBlank_append blankBefore first
    have back : (after.reverse ++ (leading :: rest).reverse).dropWhile isBlank =
        (leading :: rest).reverse := by
      refine dropWhile_isBlank_append (fun character member => ?_) ?_
      · exact blankAfter character (List.mem_reverse.1 member)
      · rw [List.head?_reverse]
        exact last
    rw [trimChars, front, List.reverse_append, back, List.reverse_reverse]

theorem trimsTo_trimChars (characters : List Char) : TrimsTo characters (trimChars characters) := by
  let leading := characters.takeWhile isBlank
  let started := characters.dropWhile isBlank
  let trailing := (started.reverse.takeWhile isBlank).reverse
  have front : leading ++ started = characters := List.takeWhile_append_dropWhile
  have back : trimChars characters ++ trailing = started := by
    rw [trimChars, ← List.reverse_append, List.takeWhile_append_dropWhile, List.reverse_reverse]
  constructor
  · refine ⟨leading, trailing, ?_, fun _ => List.mem_takeWhile_imp, fun character member => ?_⟩
    · rw [back, front]
    · exact List.mem_takeWhile_imp (List.mem_reverse.1 member)
  · intro character first
    refine isBlank_head?_dropWhile characters character ?_
    have same : (characters.dropWhile isBlank).head? = (trimChars characters ++ trailing).head? :=
      congrArg List.head? back.symm
    rw [same, List.head?_append]
    exact Option.or_eq_some_iff.2 (.inl first)
  · intro character last
    refine isBlank_head?_dropWhile started.reverse character ?_
    rwa [trimChars, List.getLast?_reverse] at last

/-- A text is trimmed to what stands between the blanks at its ends. -/
theorem trimChars_eq_iff {characters core : List Char} :
    trimChars characters = core ↔ TrimsTo characters core :=
  ⟨fun trimmed => trimmed ▸ trimsTo_trimChars characters, TrimsTo.trimChars_eq⟩

end Text

end ConfigAudit
