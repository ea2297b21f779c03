import ConfigAudit.Proofs.Number.Numeral
import ConfigAudit.Text

/-!
# The lines of a text

Line feeds part a text into lines, and what a line is for is told by how it starts. Text that is
filled into a line may have line feeds of its own, so its further lines may start like any other
line: `Text.furtherCount` counts them. Where they end, the line that was filled goes on, and no
start reaches across that place if the next character is none of its own.
-/

namespace ConfigAudit

namespace Text

/-- The lines of a text. -/
def lines (text : List Char) : List (List Char) :=
  text.splitOn '\n'

/-- The lines of a text with a start. -/
def linesStarting (start text : List Char) : List (List Char) :=
  (lines text).filter fun line => start <+: line

/-- The number of lines with a start behind a line feed of a text. -/
def furtherCount (start text : List Char) : Nat :=
  (lines text).tail.countP fun line => start <+: line

/-- Lines with a line feed behind each of them. -/
def ended (texts : List String) : String :=
  String.join (texts.map (· ++ "\n"))

/-- A text without line feeds. -/
def IsOneLine (text : String) : Prop :=
  '\n' ∉ text.toList

instance (text : String) : Decidable (IsOneLine text) :=
  inferInstanceAs (Decidable (_ ∉ _))

theorem isOneLine_append_iff {text more : String} :
    IsOneLine (text ++ more) ↔ IsOneLine text ∧ IsOneLine more := by
  rw [IsOneLine, String.toList_append, List.mem_append, not_or]
  rfl

theorem isOneLine_numeral (number : Nat) : IsOneLine (Numeral.text number) := by
  intro member
  rw [Numeral.text, String.toList_ofList] at member
  exact absurd (Numeral.isDigit_of_mem_digits member) (by decide)

theorem lines_of_notMem {text : List Char} (oneLine : '\n' ∉ text) : lines text = [text] := by
  refine List.splitOnP_eq_singleton fun character member => ?_
  exact beq_eq_false_iff_ne.2 (ne_of_mem_of_not_mem member oneLine)

theorem lines_append_lineFeed (above below : List Char) :
    lines (above ++ '\n' :: below) = lines above ++ lines below :=
  List.splitOnP_append_cons above below rfl

theorem lines_cons_of_ne {character : Char} (other : character ≠ '\n') (text : List Char) :
    lines (character :: text) = (lines text).modifyHead (character :: ·) := by
  rw [lines, List.splitOn, List.splitOnP_cons_eq_if_modifyHead, if_neg (by simpa using other)]
  rfl

theorem ended_append (texts more : List String) :
    ended (texts ++ more) = ended texts ++ ended more := by
  rw [ended, List.map_append, String.join_append]
  rfl

theorem ended_cons (text : String) (texts : List String) :
    ended (text :: texts) = text ++ ("\n" ++ ended texts) := by
  rw [ended, List.map_cons, String.join_cons, String.append_assoc]
  rfl

section Starting

variable {start : List Char}

theorem linesStarting_append_lineFeed (above below : List Char) :
    linesStarting start (above ++ '\n' :: below) =
      linesStarting start above ++ linesStarting start below := by
  rw [linesStarting, lines_append_lineFeed, List.filter_append]
  rfl

theorem linesStarting_of_notMem {text : List Char} (oneLine : '\n' ∉ text) :
    linesStarting start text = if start <+: text then [text] else [] := by
  rw [linesStarting, lines_of_notMem oneLine]
  split
  case isTrue starts => simp [starts]
  case isFalse differs => simp [differs]

/-- Each of the ended texts has its own lines with a start. -/
theorem linesStarting_ended (proper : start ≠ []) (texts : List String) :
    linesStarting start (ended texts).toList =
      texts.flatMap fun text => linesStarting start text.toList := by
  induction texts with
  | nil =>
    have nothing : (ended []).toList = [] := rfl
    rw [nothing, linesStarting_of_notMem (by simp), if_neg (by simpa using proper)]
    rfl
  | cons text texts inductionHypothesis =>
    have split : (ended (text :: texts)).toList = text.toList ++ '\n' :: (ended texts).toList := by
      rw [ended_cons, String.toList_append, String.toList_append]
      rfl
    rw [split, linesStarting_append_lineFeed, inductionHypothesis, List.flatMap_cons]

/-- A start is found in front of a character that it does not have, or not at all. -/
theorem prefix_append_cons_iff {character : Char} (foreign : character ∉ start)
    (text rest : List Char) : start <+: text ++ character :: rest ↔ start <+: text := by
  refine ⟨fun found => ?_, fun found => found.trans (List.prefix_append _ _)⟩
  have upTo : text ++ [character] <+: text ++ character :: rest := by
    simp [List.prefix_append_right_inj]
  rcases List.prefix_or_prefix_of_prefix found upTo with within | beyond
  · rcases List.prefix_concat_iff.1 within with whole | within
    · exact absurd (whole ▸ by simp) foreign
    · exact within
  · exact absurd (beyond.subset (by simp)) foreign

theorem furtherCount_of_notMem {text : List Char} (oneLine : '\n' ∉ text) :
    furtherCount start text = 0 := by
  rw [furtherCount, lines_of_notMem oneLine]
  rfl

theorem furtherCount_lineFeed (text : List Char) :
    furtherCount start ('\n' :: text) = (linesStarting start text).length := by
  have split : lines ('\n' :: text) = [] :: lines text := lines_append_lineFeed [] text
  rw [furtherCount, split, List.tail_cons, List.countP_eq_length_filter]
  rfl

theorem furtherCount_cons_of_ne {character : Char} (other : character ≠ '\n') (text : List Char) :
    furtherCount start (character :: text) = furtherCount start text := by
  rw [furtherCount, lines_cons_of_ne other, List.tail_modifyHead]
  rfl

/-- Of the lines with a start, all but the first line of a text are further ones. -/
theorem length_linesStarting (oneLine : '\n' ∉ start) (text : List Char) :
    (linesStarting start text).length =
      (if start <+: text then 1 else 0) + furtherCount start text := by
  by_cases lineFeed : '\n' ∈ text
  · obtain ⟨first, rest, rfl, firstLine⟩ := List.eq_append_cons_of_mem lineFeed
    rw [linesStarting_append_lineFeed, List.length_append, linesStarting_of_notMem firstLine,
      furtherCount, lines_append_lineFeed, lines_of_notMem firstLine, List.singleton_append,
      List.tail_cons, List.countP_eq_length_filter]
    simp only [prefix_append_cons_iff oneLine]
    split <;> rfl
  · rw [linesStarting_of_notMem lineFeed, furtherCount_of_notMem lineFeed]
    split <;> rfl

/-- Words in front of a text, with which its first line goes on, have no part in its further
lines. -/
theorem furtherCount_append_of_notMem {words : List Char} (oneLine : '\n' ∉ words)
    (text : List Char) : furtherCount start (words ++ text) = furtherCount start text := by
  induction words with
  | nil => rfl
  | cons character words inductionHypothesis =>
    rw [List.mem_cons, not_or] at oneLine
    rw [List.cons_append, furtherCount_cons_of_ne (Ne.symm oneLine.1),
      inductionHypothesis oneLine.2]

/-- The further lines of two texts are those of each, if they are parted by a character that the
start does not have. -/
theorem furtherCount_append_cons (oneLine : '\n' ∉ start) {character : Char}
    (other : character ≠ '\n') (foreign : character ∉ start) (text rest : List Char) :
    furtherCount start (text ++ character :: rest) =
      furtherCount start text + furtherCount start rest := by
  induction text with
  | nil =>
    rw [List.nil_append, furtherCount_cons_of_ne other, furtherCount_of_notMem List.not_mem_nil,
      Nat.zero_add]
  | cons first text inductionHypothesis =>
    by_cases lineFeed : first = '\n'
    · rw [lineFeed, List.cons_append, furtherCount_lineFeed, furtherCount_lineFeed,
        length_linesStarting oneLine, length_linesStarting oneLine, inductionHypothesis]
      simp only [prefix_append_cons_iff foreign, Nat.add_assoc]
    · rw [List.cons_append, furtherCount_cons_of_ne lineFeed, furtherCount_cons_of_ne lineFeed,
        inductionHypothesis]

/-- A text without some character of a start has no lines with that start. -/
theorem furtherCount_of_lacks (oneLine : '\n' ∉ start) {character : Char}
    (needed : character ∈ start) {text : List Char} (lacks : character ∉ text) :
    furtherCount start text = 0 := by
  induction text with
  | nil => exact furtherCount_of_notMem List.not_mem_nil
  | cons first text inductionHypothesis =>
    have others : character ∉ text := fun member => lacks (List.mem_cons_of_mem _ member)
    by_cases lineFeed : first = '\n'
    · rw [lineFeed, furtherCount_lineFeed, length_linesStarting oneLine,
        if_neg fun found => others (found.subset needed), inductionHypothesis others]
    · rw [furtherCount_cons_of_ne lineFeed, inductionHypothesis others]

end Starting

end Text

end ConfigAudit
