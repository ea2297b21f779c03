import ConfigAudit.Json.Parser
import ConfigAudit.Proofs.Json.Token
import ConfigAudit.Proofs.Members

/-!
# Reading a written document

A written document is read back as the value itself, except that the members of its objects come
in key order, the last of equal keys counting (`Json.inKeyOrder`). That holds of values that
`Json.Fits` describes: all numbers whole, and no deeper than the reader goes.
-/

namespace ConfigAudit

namespace Json

mutual

/-- The value with the members of all objects in key order. -/
def inKeyOrder : Json → Json
  | .null => .null
  | .bool value => .bool value
  | .number value => .number value
  | .text value => .text value
  | .array items => .array (itemsInKeyOrder items)
  | .object members => .object (Members.ofPairs (valuesInKeyOrder members))

/-- The items with the members of all their objects in key order. -/
def itemsInKeyOrder : List Json → List Json
  | [] => []
  | item :: items => inKeyOrder item :: itemsInKeyOrder items

/-- The members, in their own order, with those of all objects in them in key order. -/
def valuesInKeyOrder : List (String × Json) → List (String × Json)
  | [] => []
  | (key, value) :: members => (key, inKeyOrder value) :: valuesInKeyOrder members

end

mutual

/-- Whether a value nests no more than so many levels of arrays and objects and has no numbers but
whole ones that are read back as such. -/
def Fits (levels : Nat) : Json → Prop
  | .null | .bool _ | .text _ => True
  | .number value => IsExact value
  | .array items => 0 < levels ∧ FitItems (levels - 1) items
  | .object members => 0 < levels ∧ FitMembers (levels - 1) members

/-- Whether all items of an array fit. -/
def FitItems (levels : Nat) : List Json → Prop
  | [] => True
  | item :: items => Fits levels item ∧ FitItems levels items

/-- Whether all values of an object fit. -/
def FitMembers (levels : Nat) : List (String × Json) → Prop
  | [] => True
  | (_, value) :: members => Fits levels value ∧ FitMembers levels members

end

theorem itemsInKeyOrder_eq_map (items : List Json) :
    itemsInKeyOrder items = items.map inKeyOrder := by
  induction items with
  | nil => rfl
  | cons item items inductionHypothesis => rw [itemsInKeyOrder, inductionHypothesis, List.map_cons]

theorem valuesInKeyOrder_eq_map (members : List (String × Json)) :
    valuesInKeyOrder members = members.map fun member => (member.1, inKeyOrder member.2) := by
  induction members with
  | nil => rfl
  | cons member members inductionHypothesis =>
    rw [valuesInKeyOrder, inductionHypothesis, List.map_cons]

theorem fitItems_iff {levels : Nat} {items : List Json} :
    FitItems levels items ↔ ∀ item ∈ items, Fits levels item := by
  induction items with
  | nil => simp [FitItems]
  | cons item items inductionHypothesis => simp [FitItems, inductionHypothesis]

theorem fitMembers_iff {levels : Nat} {members : List (String × Json)} :
    FitMembers levels members ↔ ∀ member ∈ members, Fits levels member.2 := by
  induction members with
  | nil => simp [FitMembers]
  | cons member members inductionHypothesis => simp [FitMembers, inductionHypothesis]

namespace Assembly

/-- Read the rest of a document from a state on. -/
def resume? (assembly : Assembly) (characters : List Char) : Option Assembly := do
  let tokens ← Token.scan? characters
  tokens.foldlM step? assembly

/-- Take the token that the characters begin with. -/
theorem resume?_of_scan? {assembly next : Assembly} {characters rest : List Char} {token : Token}
    (scanned : Token.scan? characters = (Token.scan? rest).map (token :: ·))
    (step : step? assembly token = some next) :
    resume? assembly characters = resume? next rest := by
  unfold resume?
  rw [scanned]
  cases Token.scan? rest with
  | none => rfl
  | some tokens => simp [step]

theorem resume?_lineBreak (assembly : Assembly) (level : Nat) (rest : List Char) :
    resume? assembly (lineBreak level ++ rest) = resume? assembly rest := by
  rw [resume?, Token.scan?_lineBreak, resume?]

theorem resume?_space (assembly : Assembly) (rest : List Char) :
    resume? assembly (' ' :: rest) = resume? assembly rest := by
  rw [resume?, Token.scan?_space, resume?]

theorem resume?_openArray {frames : List Frame} (shallow : frames.length < maxDepth)
    (rest : List Char) :
    resume? (.beforeValue frames) ('[' :: rest) = resume? (.beforeFirstItem frames) rest := by
  refine resume?_of_scan? (Token.scan?_openArray rest) ?_
  simp only [step?, beginValue?, shallow, if_true]

theorem resume?_openObject {frames : List Frame} (shallow : frames.length < maxDepth)
    (rest : List Char) :
    resume? (.beforeValue frames) ('\x7b' :: rest) = resume? (.beforeFirstKey frames) rest := by
  refine resume?_of_scan? (Token.scan?_openObject rest) ?_
  simp only [step?, beginValue?, shallow, if_true]

/-- A key is read with the colon and the space behind it, wherever a key may come. -/
theorem resume?_key {assembly : Assembly} {done : List (String × Json)} {key : String}
    {frames : List Frame} (step : step? assembly (.text key) = some (.afterKey done key frames))
    (rest : List Char) :
    resume? assembly (quote key ++ ':' :: ' ' :: rest) =
      resume? (.beforeValue (.members done key :: frames)) rest := by
  rw [resume?_of_scan? (Token.scan?_quote key _) step,
    resume?_of_scan? (Token.scan?_colon _) rfl, resume?_space]

end Assembly

/-- A written value begins with a token that does not end an array. -/
theorem exists_scan?_pretty {levels : Nat} {value : Json} (fits : Fits levels value) (level : Nat)
    {rest : List Char} (ends : Token.endsNumber rest = true) :
    ∃ token after, token ≠ .closeArray ∧
      Token.scan? (pretty level value ++ rest) = (Token.scan? after).map (token :: ·) := by
  cases value with
  | null => exact ⟨.null, rest, by simp, Token.scan?_of_next? rfl rfl⟩
  | bool value =>
    cases value with
    | false => exact ⟨.bool false, rest, by simp, Token.scan?_of_next? rfl rfl⟩
    | true => exact ⟨.bool true, rest, by simp, Token.scan?_of_next? rfl rfl⟩
  | number value =>
    rw [Fits] at fits
    rw [pretty]
    exact ⟨.number value, rest, by simp, Token.scan?_characters fits ends⟩
  | text value =>
    rw [pretty]
    exact ⟨.text value, rest, by simp, Token.scan?_quote value rest⟩
  | array items =>
    cases items with
    | nil => exact ⟨.openArray, _, by simp, Token.scan?_openArray _⟩
    | cons item items =>
      rw [pretty]
      exact ⟨.openArray, _, by simp, Token.scan?_openArray _⟩
  | object members =>
    cases members with
    | nil => exact ⟨.openObject, _, by simp, Token.scan?_openObject _⟩
    | cons member members =>
      rw [pretty]
      exact ⟨.openObject, _, by simp, Token.scan?_openObject _⟩

namespace Assembly

/-- The first item of an array is read as any other. -/
theorem resume?_beforeFirstItem {levels : Nat} {value : Json} (fits : Fits levels value)
    (level : Nat) (frames : List Frame) {rest : List Char} (ends : Token.endsNumber rest = true) :
    resume? (.beforeFirstItem frames) (pretty level value ++ rest) =
      resume? (.beforeValue (.items [] :: frames)) (pretty level value ++ rest) := by
  obtain ⟨token, after, noEnd, scanned⟩ := exists_scan?_pretty fits level ends
  have same : step? (.beforeFirstItem frames) token =
      step? (.beforeValue (.items [] :: frames)) token := by
    cases token <;> simp_all [step?]
  unfold resume?
  rw [scanned]
  cases Token.scan? after with
  | none => rfl
  | some tokens => simp [same]

end Assembly

theorem endsNumber_prettyItems (level : Nat) (items : List Json) {rest : List Char}
    (ends : Token.endsNumber rest = true) :
    Token.endsNumber (prettyItems level items ++ rest) = true := by
  cases items with
  | nil => exact ends
  | cons => rfl

theorem endsNumber_prettyMembers (level : Nat) (members : List (String × Json)) {rest : List Char}
    (ends : Token.endsNumber rest = true) :
    Token.endsNumber (prettyMembers level members ++ rest) = true := by
  cases members with
  | nil => exact ends
  | cons => rfl

namespace Assembly

mutual

/-- A written value is delivered to the containers open around it. -/
theorem resume?_pretty (level : Nat) (frames : List Frame) (value : Json)
    (fits : Fits (maxDepth - frames.length) value) {rest : List Char}
    (ends : Token.endsNumber rest = true) :
    resume? (.beforeValue frames) (pretty level value ++ rest) =
      resume? (deliver (inKeyOrder value) frames) rest := by
  match value with
  | .null =>
    rw [pretty, inKeyOrder]
    exact resume?_of_scan? (Token.scan?_of_next? rfl rfl) rfl
  | .bool false =>
    rw [pretty, inKeyOrder]
    exact resume?_of_scan? (Token.scan?_of_next? rfl rfl) rfl
  | .bool true =>
    rw [pretty, inKeyOrder]
    exact resume?_of_scan? (Token.scan?_of_next? rfl rfl) rfl
  | .number whole =>
    rw [Fits] at fits
    rw [pretty, inKeyOrder]
    exact resume?_of_scan? (Token.scan?_characters fits ends) rfl
  | .text characters =>
    rw [pretty, inKeyOrder]
    exact resume?_of_scan? (Token.scan?_quote characters rest) rfl
  | .array items =>
    obtain ⟨positive, fitItems⟩ := fits
    have shallow : frames.length < maxDepth := by omega
    match items with
    | [] =>
      rw [pretty, inKeyOrder]
      exact (resume?_openArray shallow _).trans
        (resume?_of_scan? (Token.scan?_closeArray rest) rfl)
    | item :: items =>
      obtain ⟨fitsItem, fitItems⟩ := fitItems
      rw [pretty]
      simp only [List.append_assoc, List.cons_append, List.nil_append]
      have after : Token.endsNumber (prettyItems (level + 1) items ++
          (lineBreak level ++ ']' :: rest)) = true :=
        endsNumber_prettyItems (level + 1) items rfl
      rw [resume?_openArray shallow, resume?_lineBreak,
        resume?_beforeFirstItem fitsItem (level + 1) frames after,
        resume?_pretty (level + 1) (.items [] :: frames) item
          (by simpa [Nat.sub_sub] using fitsItem) after, deliver,
        resume?_prettyItems (level + 1) frames _ items (by simpa [Nat.sub_sub] using fitItems) rfl,
        resume?_lineBreak, resume?_of_scan? (Token.scan?_closeArray rest) rfl]
      simp [inKeyOrder, itemsInKeyOrder]
  | .object members =>
    obtain ⟨positive, fitMembers⟩ := fits
    have shallow : frames.length < maxDepth := by omega
    match members with
    | [] =>
      rw [pretty, inKeyOrder]
      exact (resume?_openObject shallow _).trans
        (resume?_of_scan? (Token.scan?_closeObject rest) rfl)
    | (key, value) :: members =>
      obtain ⟨fitsValue, fitMembers⟩ := fitMembers
      rw [pretty]
      simp only [List.append_assoc, List.cons_append, List.nil_append]
      have after : Token.endsNumber (prettyMembers (level + 1) members ++
          (lineBreak level ++ '\x7d' :: rest)) = true :=
        endsNumber_prettyMembers (level + 1) members rfl
      rw [resume?_openObject shallow, resume?_lineBreak, resume?_key rfl,
        resume?_pretty (level + 1) (.members [] key :: frames) value
          (by simpa [Nat.sub_sub] using fitsValue) after, deliver,
        resume?_prettyMembers (level + 1) frames _ members
          (by simpa [Nat.sub_sub] using fitMembers) rfl,
        resume?_lineBreak, resume?_of_scan? (Token.scan?_closeObject rest) rfl, inKeyOrder,
        valuesInKeyOrder, Members.ofPairs, List.foldl_cons]

/-- The items after the first are added to an open array. -/
theorem resume?_prettyItems (level : Nat) (frames : List Frame) (done items : List Json)
    (fits : FitItems (maxDepth - (frames.length + 1)) items) {rest : List Char}
    (ends : Token.endsNumber rest = true) :
    resume? (.afterItem done frames) (prettyItems level items ++ rest) =
      resume? (.afterItem ((itemsInKeyOrder items).reverse ++ done) frames) rest := by
  match items with
  | [] => rfl
  | item :: items =>
    obtain ⟨fitsItem, fitItems⟩ := fits
    rw [prettyItems]
    simp only [List.append_assoc, List.cons_append]
    rw [resume?_of_scan? (Token.scan?_comma _) rfl, resume?_lineBreak,
      resume?_pretty level (.items done :: frames) item fitsItem
        (endsNumber_prettyItems level items ends), deliver,
      resume?_prettyItems level frames _ items fitItems ends, itemsInKeyOrder,
      List.reverse_cons, List.append_assoc, List.singleton_append]

/-- The members after the first are added to an open object. -/
theorem resume?_prettyMembers (level : Nat) (frames : List Frame)
    (done members : List (String × Json))
    (fits : FitMembers (maxDepth - (frames.length + 1)) members) {rest : List Char}
    (ends : Token.endsNumber rest = true) :
    resume? (.afterMember done frames) (prettyMembers level members ++ rest) =
      resume? (.afterMember ((valuesInKeyOrder members).foldl
        (fun members pair => Members.insert pair.1 pair.2 members) done) frames) rest := by
  match members with
  | [] => rfl
  | (key, value) :: members =>
    obtain ⟨fitsValue, fitMembers⟩ := fits
    rw [prettyMembers]
    simp only [List.append_assoc, List.cons_append, List.nil_append]
    rw [resume?_of_scan? (Token.scan?_comma _) rfl, resume?_lineBreak, resume?_key rfl,
      resume?_pretty level (.members done key :: frames) value fitsValue
        (endsNumber_prettyMembers level members ends), deliver,
      resume?_prettyMembers level frames _ members fitMembers ends, valuesInKeyOrder,
      List.foldl_cons]

end

end Assembly

/-- The document of a value is read back as the value with its members in key order. -/
theorem parse?_render {value : Json} (fits : Fits maxDepth value) :
    parse? value.render = some (inKeyOrder value) := by
  have read : Assembly.resume? (.beforeValue []) (pretty 0 value ++ []) =
      Assembly.resume? (.complete (inKeyOrder value)) [] :=
    Assembly.resume?_pretty 0 [] value fits rfl
  rw [List.append_nil] at read
  have whole : parse? value.render =
      (Assembly.resume? (.beforeValue []) (pretty 0 value)).bind Assembly.result? := by
    simp only [parse?, ofTokens?, render, Assembly.resume?, String.toList_ofList,
      Option.bind_eq_bind, Option.bind_assoc]
  rw [whole, read]
  simp [Assembly.resume?, Token.scan?, Assembly.result?]

mutual

/-- A value with its members in key order is left as it is. -/
theorem Canonical.inKeyOrder_eq_self {value : Json} (canonical : value.Canonical) :
    inKeyOrder value = value := by
  match value with
  | .null | .bool _ | .number _ | .text _ => rfl
  | .array items => rw [inKeyOrder, CanonicalItems.itemsInKeyOrder_eq_self canonical]
  | .object members =>
    obtain ⟨sorted, canonical⟩ := canonical
    rw [inKeyOrder, CanonicalMembers.valuesInKeyOrder_eq_self canonical, sorted.ofPairs_eq_self]

theorem CanonicalItems.itemsInKeyOrder_eq_self {items : List Json}
    (canonical : CanonicalItems items) : itemsInKeyOrder items = items := by
  match items with
  | [] => rfl
  | item :: items =>
    obtain ⟨canonicalItem, canonicalItems⟩ := canonical
    rw [itemsInKeyOrder, canonicalItem.inKeyOrder_eq_self,
      canonicalItems.itemsInKeyOrder_eq_self]

theorem CanonicalMembers.valuesInKeyOrder_eq_self {members : List (String × Json)}
    (canonical : CanonicalMembers members) : valuesInKeyOrder members = members := by
  match members with
  | [] => rfl
  | (key, value) :: members =>
    obtain ⟨canonicalValue, canonicalMembers⟩ := canonical
    rw [valuesInKeyOrder, canonicalValue.inKeyOrder_eq_self,
      canonicalMembers.valuesInKeyOrder_eq_self]

end

/-- A value with its members in key order is read back as it was. -/
theorem parse?_render_of_canonical {value : Json} (canonical : value.Canonical)
    (fits : Fits maxDepth value) : parse? value.render = some value := by
  rw [parse?_render fits, canonical.inKeyOrder_eq_self]

end Json

end ConfigAudit
