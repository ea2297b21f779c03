import ConfigAudit.Json.Basic
import ConfigAudit.Number.Numeral

/-!
# Writing a JSON document

The indented form of a value: two spaces a level, each item and member on a line of its own,
empty containers without a break, and no line end at the end. Members are written in the order in
which the value holds them.
-/

namespace ConfigAudit

namespace Json

/-- A digit of a hexadecimal number below 16. -/
def hexChar (digit : Nat) : Char :=
  if digit < 10 then Char.ofNat ('0'.toNat + digit) else Char.ofNat ('a'.toNat + (digit - 10))

/-- The form of one character inside a text: quotes, backslashes and controls are escaped. -/
def escapeChar (character : Char) : List Char :=
  if character = '"' then ['\\', '"']
  else if character = '\\' then ['\\', '\\']
  else if character = '\x08' then ['\\', 'b']
  else if character = '\x0c' then ['\\', 'f']
  else if character = '\n' then ['\\', 'n']
  else if character = '\r' then ['\\', 'r']
  else if character = '\t' then ['\\', 't']
  else if character.toNat < 0x20 then
    ['\\', 'u', '0', '0', hexChar (character.toNat / 16), hexChar (character.toNat % 16)]
  else [character]

/-- A text between quotes. -/
def quote (text : String) : List Char :=
  '"' :: text.toList.flatMap escapeChar ++ ['"']

/-- The text of a number. -/
def JsonNumber.characters : JsonNumber → List Char
  | .whole value => (Numeral.signedText value).toList
  | .fraction value => value.compactText.toList

/-- A line end and the blanks that begin a line at a level. -/
def lineBreak (level : Nat) : List Char :=
  '\n' :: List.replicate (2 * level) ' '

mutual

/-- The indented form of a value whose first line stands at a level. -/
def pretty (level : Nat) : Json → List Char
  | .null => "null".toList
  | .bool true => "true".toList
  | .bool false => "false".toList
  | .number value => JsonNumber.characters value
  | .text value => quote value
  | .array [] => ['[', ']']
  | .array (item :: items) =>
    '[' :: lineBreak (level + 1) ++ pretty (level + 1) item ++ prettyItems (level + 1) items ++
      lineBreak level ++ [']']
  | .object [] => ['\x7b', '\x7d']
  | .object ((key, value) :: members) =>
    '\x7b' :: lineBreak (level + 1) ++ quote key ++ [':', ' '] ++ pretty (level + 1) value ++
      prettyMembers (level + 1) members ++ lineBreak level ++ ['\x7d']

/-- The items after the first, each after a comma on a line of its own. -/
def prettyItems (level : Nat) : List Json → List Char
  | [] => []
  | item :: items =>
    ',' :: lineBreak level ++ pretty level item ++ prettyItems level items

/-- The members after the first, each after a comma on a line of its own. -/
def prettyMembers (level : Nat) : List (String × Json) → List Char
  | [] => []
  | (key, value) :: members =>
    ',' :: lineBreak level ++ quote key ++ [':', ' '] ++ pretty level value ++
      prettyMembers level members

end

/-- The indented document of a value. -/
def render (value : Json) : String :=
  String.ofList (pretty 0 value)

end Json

end ConfigAudit
