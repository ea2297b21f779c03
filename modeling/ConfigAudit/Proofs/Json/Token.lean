import Mathlib.Tactic.SplitIfs
import ConfigAudit.Json.Printer
import ConfigAudit.Json.Token
import ConfigAudit.Proofs.Number.Numeral

/-!
# Tokens of a written document

The written form of a text, a whole number or a separator is read back as one token, whatever stands
behind it. Only a number could run on into what follows, hence `Token.endsNumber`.
-/

namespace ConfigAudit

namespace Json

namespace Token

/-- The hexadecimal digit that is written for a number is read back. -/
theorem hexDigit?_hexChar : ∀ digit < 16, hexDigit? (hexChar digit) = some digit := by
  decide

/-- The escaped form of a control character is read back. -/
theorem readText?_escapedControl {character : Char} (control : character.toNat < 0x20)
    (rest : List Char) :
    readText? ('\\' :: 'u' :: '0' :: '0' :: hexChar (character.toNat / 16) ::
        hexChar (character.toNat % 16) :: rest) =
      prepend character (readText? rest) := by
  have upper := hexDigit?_hexChar (character.toNat / 16) (by omega)
  have lower := hexDigit?_hexChar (character.toNat % 16) (by omega)
  have zero : hexDigit? '0' = some 0 := rfl
  have unit : hexUnit? '0' '0' (hexChar (character.toNat / 16)) (hexChar (character.toNat % 16)) =
      some character.toNat := by
    simp only [hexUnit?, zero, upper, lower, Option.bind_eq_bind, Option.bind_some, Option.pure_def,
      Option.some.injEq]
    omega
  have noSurrogate : isHighSurrogate character.toNat = false := by
    simp only [isHighSurrogate, Bool.and_eq_false_iff, decide_eq_false_iff_not]
    omega
  have decoded : unitChar? character.toNat = some character := by
    have below : ¬ (0xD800 ≤ character.toNat ∧ character.toNat ≤ 0xDFFF) := by omega
    rw [unitChar?, if_neg below, Char.ofNat_toNat]
  rw [readText?]
  simp [unit, noSurrogate, decoded]

/-- A letter after a backslash is read back as what it stands for. -/
theorem readText?_shortEscape {letter character : Char}
    (short : shortEscape? letter = some character) (rest : List Char) :
    readText? ('\\' :: letter :: rest) = prepend character (readText? rest) := by
  have noUnit : letter ≠ 'u' := by
    rintro rfl
    simp [shortEscape?] at short
  rw [readText?.eq_def]
  simp only [Char.reduceEq, if_false, if_true]
  split <;> simp_all

/-- A character that needs no escape is read back as it stands. -/
theorem readText?_plain {character : Char} (noQuote : character ≠ '"')
    (noBackslash : character ≠ '\\') (noControl : ¬ character.toNat < 0x20) (rest : List Char) :
    readText? (character :: rest) = prepend character (readText? rest) := by
  rw [readText?.eq_def]
  simp only [noQuote, noBackslash, noControl, if_false]

/-- A character is read back from its escaped form. -/
theorem readText?_escapeChar (character : Char) (rest : List Char) :
    readText? (escapeChar character ++ rest) = prepend character (readText? rest) := by
  unfold escapeChar
  split_ifs with quote backslash backspace formFeed lineFeed carriageReturn tab control
  · subst quote
    exact readText?_shortEscape rfl rest
  · subst backslash
    exact readText?_shortEscape rfl rest
  · subst backspace
    exact readText?_shortEscape rfl rest
  · subst formFeed
    exact readText?_shortEscape rfl rest
  · subst lineFeed
    exact readText?_shortEscape rfl rest
  · subst carriageReturn
    exact readText?_shortEscape rfl rest
  · subst tab
    exact readText?_shortEscape rfl rest
  · exact readText?_escapedControl control rest
  · exact readText?_plain quote backslash control rest

/-- A text is read back up to its closing quote. -/
theorem readText?_escaped (characters rest : List Char) :
    readText? (characters.flatMap escapeChar ++ '"' :: rest) = some (characters, rest) := by
  induction characters with
  | nil =>
    rw [List.flatMap_nil, List.nil_append, readText?.eq_def]
    simp
  | cons character tail inductionHypothesis =>
    rw [List.flatMap_cons, List.append_assoc, readText?_escapeChar, inductionHypothesis]
    rfl

theorem extendCoefficient_of_lt (digits : List Char) (coefficient : Nat)
    (bound : Nat.ofDigitChars 10 digits coefficient < Width.span 64) :
    extendCoefficient coefficient digits = (Nat.ofDigitChars 10 digits coefficient, []) := by
  induction digits generalizing coefficient with
  | nil => simp [extendCoefficient]
  | cons digit rest inductionHypothesis =>
    rw [Nat.ofDigitChars_cons, Nat.mul_comm] at bound ⊢
    -- The remaining digits only make the coefficient larger.
    have growing : coefficient * 10 + (digit.toNat - '0'.toNat) < Width.span 64 := by
      rw [Nat.ofDigitChars_eq_ofDigitChars_zero] at bound
      have power : 0 < 10 ^ rest.length := Nat.pow_pos (by decide)
      have := Nat.le_mul_of_pos_left (coefficient * 10 + (digit.toNat - '0'.toNat)) power
      omega
    rw [extendCoefficient, if_pos growing, inductionHypothesis _ bound]

/-- The digits of a number below `2 ^ 64` all enter the coefficient. -/
theorem extendCoefficient_digits {number : Nat} (bound : number < Width.span 64) :
    extendCoefficient 0 (Numeral.digits number) = (number, []) := by
  have value : Nat.ofDigitChars 10 (Numeral.digits number) 0 = number := Numeral.value_digits number
  rw [extendCoefficient_of_lt _ _ (value.symm ▸ bound), value]

/-- Whether a number before these characters ends where they begin. -/
def endsNumber : List Char → Bool
  | [] => true
  | character :: _ =>
    !(character.isDigit || character = '.' || character = 'e' || character = 'E')

/-- The digits of a number are read up to its end. -/
theorem readWhole?_digits (number : Nat) {rest : List Char} (ends : endsNumber rest = true) :
    readWhole? (Numeral.digits number ++ rest) = some (Numeral.digits number, rest) := by
  have digits : ∀ character ∈ Numeral.digits number, character.isDigit = true :=
    fun _ member => Numeral.isDigit_of_mem_digits member
  have stops : rest.takeWhile Char.isDigit = [] ∧ rest.dropWhile Char.isDigit = rest := by
    cases rest with
    | nil => simp
    | cons character tail => simp_all [endsNumber]
  have read : readDigits? (Numeral.digits number ++ rest) = some (Numeral.digits number, rest) := by
    have present := Numeral.digits_ne_nil number
    simp only [readDigits?, List.takeWhile_append_of_pos digits,
      List.dropWhile_append_of_pos digits, stops, List.append_nil, List.isEmpty_iff, present,
      if_false]
  rcases Nat.eq_zero_or_pos number with rfl | positive
  · rfl
  · obtain ⟨leading, tail, shown, nonzero⟩ := Numeral.head?_digits positive
    rw [shown, List.cons_append] at read ⊢
    rw [readWhole?.eq_def]
    split
    case h_1 same => exact absurd (List.cons.inj same).1 nonzero
    case h_2 => exact read

/-- A number without fraction and exponent is read up to its end. -/
theorem readUnsigned?_digits (negative : Bool) (number : Nat) {rest : List Char}
    (ends : endsNumber rest = true) :
    readUnsigned? negative (Numeral.digits number ++ rest) =
      (NumberParts.number?
        { negative, whole := Numeral.digits number, fraction := none, exponent := none }).map
        fun value => (value, rest) := by
  have noFraction : readFraction? rest = some (none, rest) := by
    unfold readFraction?
    split <;> simp_all [endsNumber]
  have noExponent : readExponent? rest = some (none, rest) := by
    unfold readExponent?
    split <;> simp_all [endsNumber]
  simp only [readUnsigned?, readWhole?_digits number ends, noFraction, noExponent,
    Option.bind_eq_bind, Option.bind_some, Option.pure_def]
  exact Option.map_eq_bind.symm

/-- The first digit of a number begins no other token. -/
theorem next?_of_isDigit {character : Char} (digit : character.isDigit = true) (rest : List Char) :
    next? (character :: rest) =
      (readUnsigned? false (character :: rest)).map fun read => (.number read.1, read.2) := by
  unfold next?
  split <;> simp_all

end Token

/-- Whether a number is whole and small enough to be read back as such. -/
def IsExact : JsonNumber → Prop
  | .whole value => -(Width.span 63 : Int) ≤ value ∧ value < Width.span 64
  | .fraction _ => False

namespace Token

/-- The characters of a number are not empty, and the first one is no blank. -/
theorem exists_characters {value : JsonNumber} (exact : IsExact value) :
    ∃ first rest, JsonNumber.characters value = first :: rest ∧ isBlank first = false := by
  obtain ⟨whole⟩ | ⟨fraction⟩ := value
  · cases whole with
    | ofNat number =>
      obtain ⟨first, rest, shown⟩ := List.exists_cons_of_ne_nil (Numeral.digits_ne_nil number)
      have member : first ∈ Numeral.digits number := by
        simp [shown]
      have digit : first.isDigit = true := Numeral.isDigit_of_mem_digits member
      refine ⟨first, rest, ?_, ?_⟩
      · simp [JsonNumber.characters, Numeral.signedText, Numeral.text, shown]
      · simp only [isBlank, Bool.or_eq_false_iff, decide_eq_false_iff_not]
        refine ⟨⟨⟨?_, ?_⟩, ?_⟩, ?_⟩ <;> rintro rfl <;> exact absurd digit (by decide)
    | negSucc below =>
      exact ⟨'-', Numeral.digits (below + 1),
        by simp [JsonNumber.characters, Numeral.signedText, Numeral.text], rfl⟩
  · exact exact.elim

/-- A number is read back up to its end. -/
theorem next?_characters {value : JsonNumber} (exact : IsExact value) {rest : List Char}
    (ends : endsNumber rest = true) :
    next? (JsonNumber.characters value ++ rest) = some (.number value, rest) := by
  obtain ⟨whole⟩ | ⟨fraction⟩ := value
  · obtain ⟨lower, upper⟩ := exact
    cases whole with
    | ofNat number =>
      have bound : number < Width.span 64 := by
        simpa using upper
      have number? : NumberParts.number?
          { negative := false, whole := Numeral.digits number, fraction := none
            exponent := none } =
          some (.whole number) := by
        simp [NumberParts.number?, extendCoefficient_digits bound]
      have shown : JsonNumber.characters (.whole (Int.ofNat number)) = Numeral.digits number := by
        simp [JsonNumber.characters, Numeral.signedText, Numeral.text]
      obtain ⟨first, tail, split⟩ := List.exists_cons_of_ne_nil (Numeral.digits_ne_nil number)
      have member : first ∈ Numeral.digits number := by
        simp [split]
      have digit : first.isDigit = true := Numeral.isDigit_of_mem_digits member
      have read := readUnsigned?_digits false number ends
      rw [number?, split, List.cons_append] at read
      rw [shown, split, List.cons_append, next?_of_isDigit digit, read]
      rfl
    | negSucc below =>
      have bound : below + 1 ≤ Width.span 63 := by
        omega
      have span : Width.span 63 < Width.span 64 := by
        decide
      have number? : NumberParts.number?
          { negative := true, whole := Numeral.digits (below + 1), fraction := none
            exponent := none } =
          some (.whole (Int.negSucc below)) := by
        simp only [NumberParts.number?, extendCoefficient_digits (Nat.lt_of_le_of_lt bound span)]
        simpa [Int.negSucc_eq] using bound
      have shown : JsonNumber.characters (.whole (Int.negSucc below)) =
          '-' :: Numeral.digits (below + 1) := by
        simp [JsonNumber.characters, Numeral.signedText, Numeral.text]
      have read := readUnsigned?_digits true (below + 1) ends
      rw [number?] at read
      rw [shown, List.cons_append, next?, read]
      rfl
  · exact exact.elim

/-- A blank before a token does not matter. -/
theorem scan?_cons_of_isBlank {character : Char} (blank : isBlank character = true)
    (rest : List Char) : scan? (character :: rest) = scan? rest := by
  rw [scan?, if_pos blank]

/-- What does not begin with a blank begins with a token. -/
theorem scan?_of_next? {first : Char} {characters rest : List Char} {token : Token}
    (noBlank : isBlank first = false)
    (read : next? (first :: characters) = some (token, rest)) :
    scan? (first :: characters) = (scan? rest).map (token :: ·) := by
  rw [scan?, if_neg (by simp [noBlank])]
  split <;> simp_all

theorem scan?_openArray (rest : List Char) :
    scan? ('[' :: rest) = (scan? rest).map (.openArray :: ·) :=
  scan?_of_next? rfl rfl

theorem scan?_closeArray (rest : List Char) :
    scan? (']' :: rest) = (scan? rest).map (.closeArray :: ·) :=
  scan?_of_next? rfl rfl

theorem scan?_openObject (rest : List Char) :
    scan? ('\x7b' :: rest) = (scan? rest).map (.openObject :: ·) :=
  scan?_of_next? rfl rfl

theorem scan?_closeObject (rest : List Char) :
    scan? ('\x7d' :: rest) = (scan? rest).map (.closeObject :: ·) :=
  scan?_of_next? rfl rfl

theorem scan?_comma (rest : List Char) :
    scan? (',' :: rest) = (scan? rest).map (.comma :: ·) :=
  scan?_of_next? rfl rfl

theorem scan?_colon (rest : List Char) :
    scan? (':' :: rest) = (scan? rest).map (.colon :: ·) :=
  scan?_of_next? rfl rfl

theorem scan?_space (rest : List Char) : scan? (' ' :: rest) = scan? rest :=
  scan?_cons_of_isBlank rfl rest

/-- A line break holds no token. -/
theorem scan?_lineBreak (level : Nat) (rest : List Char) :
    scan? (lineBreak level ++ rest) = scan? rest := by
  rw [lineBreak, List.cons_append, scan?_cons_of_isBlank rfl]
  induction 2 * level with
  | zero => rfl
  | succ count inductionHypothesis =>
    rw [List.replicate_succ, List.cons_append, scan?_space, inductionHypothesis]

/-- A text between quotes is one token. -/
theorem scan?_quote (value : String) (rest : List Char) :
    scan? (quote value ++ rest) = (scan? rest).map (.text value :: ·) := by
  have read : next? ('"' :: (value.toList.flatMap escapeChar ++ '"' :: rest)) =
      some (.text value, rest) := by
    rw [next?, readText?_escaped]
    simp
  rw [quote, List.append_assoc, List.singleton_append, List.cons_append]
  exact scan?_of_next? rfl read

/-- A number is one token. -/
theorem scan?_characters {value : JsonNumber} (exact : IsExact value) {rest : List Char}
    (ends : endsNumber rest = true) :
    scan? (JsonNumber.characters value ++ rest) = (scan? rest).map (.number value :: ·) := by
  have read := next?_characters exact ends
  obtain ⟨first, tail, shown, noBlank⟩ := exists_characters exact
  rw [shown, List.cons_append] at read ⊢
  exact scan?_of_next? noBlank read

end Token

end Json

end ConfigAudit
