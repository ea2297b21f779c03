/-!
# Blank characters, trimming and letter case

Names, port specifications and configuration texts are compared after trimming. Blank means
the Unicode property `White_Space`, not only the four blanks of ASCII; letter case is folded for
the letters of ASCII alone, so a dotted or accented capital never equals a plain letter.
-/

namespace ConfigAudit

namespace Text

/-- The characters with the Unicode property `White_Space`. -/
def isBlank (character : Char) : Bool :=
  let code := character.toNat
  (9 ≤ code && code ≤ 13) || code == 0x20 || code == 0x85 || code == 0xA0 || code == 0x1680 ||
    (0x2000 ≤ code && code ≤ 0x200A) || code == 0x2028 || code == 0x2029 || code == 0x202F ||
    code == 0x205F || code == 0x3000

/-- Drop the blank characters at both ends. -/
def trimChars (characters : List Char) : List Char :=
  ((characters.dropWhile isBlank).reverse.dropWhile isBlank).reverse

/-- Drop the blank characters at both ends of a text. -/
def trim (text : String) : String :=
  String.ofList (trimChars text.toList)

/-- Whether nothing is left of a text after trimming it. -/
def isBlankText (text : String) : Bool :=
  (trimChars text.toList).isEmpty

/-- Equality up to the case of the letters of ASCII. -/
def sameLetters (left right : String) : Bool :=
  left.toList.map Char.toLower == right.toList.map Char.toLower

/-- Lines joined by line ends, without one after the last. -/
def joinLines (lines : List String) : String :=
  String.intercalate "\n" lines

end Text

end ConfigAudit
