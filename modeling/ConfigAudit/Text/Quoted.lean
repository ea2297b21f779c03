import ConfigAudit.Text.Unprintable

/-!
# Quoted text

The quoted form in which a diagnostic shows a text that it found: double quotes around it, short
escapes for quotes, backslashes and the common controls, and the code point of whatever has no
visible form.
-/

namespace ConfigAudit

namespace Text

/-- The form of one character inside quotes. -/
def quotedChar (character : Char) : List Char :=
  if character = '\x00' then ['\\', '0']
  else if character = '\t' then ['\\', 't']
  else if character = '\r' then ['\\', 'r']
  else if character = '\n' then ['\\', 'n']
  else if character = '"' then ['\\', '"']
  else if character = '\\' then ['\\', '\\']
  else if isPrintable character then [character]
  else "\\u\x7b".toList ++ Nat.toDigits 16 character.toNat ++ "\x7d".toList

/-- A text between double quotes, with escapes. -/
def quoted (text : String) : String :=
  String.ofList ('"' :: text.toList.flatMap quotedChar ++ ['"'])

end Text

end ConfigAudit
