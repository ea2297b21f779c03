/-!
# Tokens of a TOML document

A document is cut into tokens one character at a time. `Token.scan?` refuses a document with an
unfinished text, an unknown escape or a control character that may not stand where it does. What a
bare word means, and whether it means anything, is not decided here.
-/

namespace ConfigAudit

namespace Toml

/-- A token. Comments leave none. -/
inductive Token where
  | newline
  | space
  | tab
  | dot
  | equals
  | comma
  | openBracket
  | closeBracket
  | openBrace
  | closeBrace
  /-- A quoted text. Only one that keeps to a single line can be a key. -/
  | text (value : String) (singleLine : Bool)
  /-- A run of characters without blanks, quotes and punctuation. -/
  | word (characters : List Char)
deriving DecidableEq, Repr

namespace Token

/-- The quotes around a text. Escapes have a meaning only between double quotes. -/
inductive Quote where
  | double
  | single
deriving DecidableEq, Repr

/-- The character of a quote. -/
def Quote.mark : Quote → Char
  | .double => '"'
  | .single => '\x27'

/-- Whether a text keeps to one line or may go on over several. -/
inductive Extent where
  | line
  | block
deriving DecidableEq, Repr

/-- What has been read of the token at hand. Characters of a text or word stand last first. -/
inductive Mode where
  /-- No token has begun. -/
  | between
  /-- A carriage return that has to be followed by a line feed. -/
  | lineEnd
  | comment
  | word (done : List Char)
  /-- One quote: a text of one line begins, or the text is empty. -/
  | opened (quote : Quote)
  /-- Two quotes: the text is empty, or a text of several lines begins. -/
  | openedTwice (quote : Quote)
  /-- The start of a text of several lines, where a line end does not count. -/
  | blockStart (quote : Quote)
  /-- A carriage return at the start of a text of several lines. -/
  | blockStartReturn (quote : Quote)
  | inLine (quote : Quote) (done : List Char)
  /-- A text of several lines, and how many quotes were read last. -/
  | inBlock (quote : Quote) (done : List Char) (quotes : Nat)
  /-- A carriage return in a text of several lines. -/
  | blockReturn (quote : Quote) (done : List Char)
  /-- A backslash. -/
  | escape (extent : Extent) (done : List Char)
  /-- So many digits of a code point are to come. -/
  | codePoint (extent : Extent) (done : List Char) (missing code : Nat)
  /-- Blanks after a backslash that have to end in a line end. -/
  | gap (done : List Char)
  /-- Blanks and line ends that a backslash before a line end takes out of the text. -/
  | wideGap (done : List Char)
  /-- A carriage return among them. -/
  | gapReturn (done : List Char)
deriving DecidableEq, Repr

/-- Whether a character may stand in a comment, and in a text without an escape. -/
def isPlain (character : Char) : Bool :=
  character == '\t' || (0x20 ≤ character.toNat && character.toNat != 0x7F)

/-- The value of a hexadecimal digit. -/
def hexDigit? (character : Char) : Option Nat :=
  if '0' ≤ character ∧ character ≤ '9' then some (character.toNat - '0'.toNat)
  else if 'a' ≤ character ∧ character ≤ 'f' then some (character.toNat - 'a'.toNat + 10)
  else if 'A' ≤ character ∧ character ≤ 'F' then some (character.toNat - 'A'.toNat + 10)
  else none

/-- The character of a code point that is no surrogate. -/
def codeChar? (code : Nat) : Option Char :=
  if code < 0xD800 ∨ (0xE000 ≤ code ∧ code < 0x110000) then some (Char.ofNat code) else none

/-- The character that a letter after a backslash stands for. -/
def shortEscape? : Char → Option Char
  | '"' => some '"'
  | '\\' => some '\\'
  | 'b' => some '\x08'
  | 'e' => some '\x1b'
  | 'f' => some '\x0c'
  | 'n' => some '\n'
  | 'r' => some '\r'
  | 't' => some '\t'
  | _ => none

/-- The number of digits after a letter that introduces a code point. -/
def codePointWidth? : Char → Option Nat
  | 'x' => some 2
  | 'u' => some 4
  | 'U' => some 8
  | _ => none

/-- Go on with a text between double quotes. -/
def Mode.resume : Extent → List Char → Mode
  | .line, done => .inLine .double done
  | .block, done => .inBlock .double done 0

/-- The token of a single character. -/
def punctuation? : Char → Option Token
  | '\n' => some newline
  | ' ' => some space
  | '\t' => some tab
  | '.' => some dot
  | '=' => some equals
  | ',' => some comma
  | '[' => some openBracket
  | ']' => some closeBracket
  | '\x7b' => some openBrace
  | '\x7d' => some closeBrace
  | _ => none

/-- The quote of a character. -/
def quote? : Char → Option Quote
  | '"' => some .double
  | '\x27' => some .single
  | _ => none

/-- The text of characters that stand last first. -/
def textOf (done : List Char) : String :=
  String.ofList done.reverse

/-- Read a character before which no token has begun. Beside the mode stand the tokens found, last
first. -/
def begin (tokens : List Token) (character : Char) : Mode × List Token :=
  match punctuation? character, quote? character with
  | some token, _ => (.between, token :: tokens)
  | none, some quote => (.opened quote, tokens)
  | none, none =>
    if character = '\r' then (.lineEnd, tokens)
    else if character = '#' then (.comment, tokens)
    else (.word [character], tokens)

/-- Whether a character ends a word. -/
def endsWord (character : Char) : Bool :=
  (punctuation? character).isSome || (quote? character).isSome || character == '\r' ||
    character == '#'

/-- Read a character of a text of several lines that is no quote. -/
def inBlock? (quote : Quote) (done : List Char) (character : Char) : Option Mode :=
  if character = '\n' then some (.inBlock quote (character :: done) 0)
  else if character = '\r' then some (.blockReturn quote done)
  else if character = '\\' && quote == .double then some (.escape .block done)
  else if isPlain character then some (.inBlock quote (character :: done) 0)
  else none

/-- So many quotes as part of a text. -/
def quotesAsText (quote : Quote) (quotes : Nat) (done : List Char) : List Char :=
  List.replicate quotes quote.mark ++ done

/-- Read a character of a text of several lines. Three quotes end it, and up to two more before them
belong to it. -/
def blockStep? (tokens : List Token) (quote : Quote) (done : List Char) (quotes : Nat)
    (character : Char) : Option (Mode × List Token) :=
  if character = quote.mark && quotes < 5 then some (.inBlock quote done (quotes + 1), tokens)
  else if 3 ≤ quotes then
    let value := textOf (quotesAsText quote (quotes - 3) done)
    some (begin (.text value false :: tokens) character)
  else (inBlock? quote (quotesAsText quote quotes done) character).map (·, tokens)

/-- Read a character after a backslash. -/
def escapeStep? (extent : Extent) (done : List Char) (character : Char) : Option Mode :=
  match shortEscape? character, codePointWidth? character, extent with
  | some decoded, _, _ => some (.resume extent (decoded :: done))
  | none, some width, _ => some (.codePoint extent done width 0)
  | none, none, .line => none
  | none, none, .block =>
    if character = ' ' || character = '\t' then some (.gap done)
    else if character = '\n' then some (.wideGap done)
    else if character = '\r' then some (.gapReturn done)
    else none

/-- Read a digit of a code point. -/
def codePointStep? (extent : Extent) (done : List Char) (missing code : Nat) (character : Char) :
    Option Mode := do
  let digit ← hexDigit? character
  let code := code * 16 + digit
  if missing ≤ 1 then
    let decoded ← codeChar? code
    pure (.resume extent (decoded :: done))
  else pure (.codePoint extent done (missing - 1) code)

/-- Read a character of a text that keeps to one line. -/
def lineStep? (tokens : List Token) (quote : Quote) (done : List Char) (character : Char) :
    Option (Mode × List Token) :=
  if character = quote.mark then some (.between, .text (textOf done) true :: tokens)
  else if character = '\\' && quote == .double then some (.escape .line done, tokens)
  else if isPlain character then some (.inLine quote (character :: done), tokens)
  else none

/-- Read a character. -/
def step? : Mode × List Token → Char → Option (Mode × List Token)
  | (.between, tokens), character => some (begin tokens character)
  | (.lineEnd, tokens), character =>
    if character = '\n' then some (.between, newline :: tokens) else none
  | (.comment, tokens), character =>
    if character = '\n' then some (.between, newline :: tokens)
    else if character = '\r' then some (.lineEnd, tokens)
    else if isPlain character then some (.comment, tokens)
    else none
  | (.word done, tokens), character =>
    if endsWord character then some (begin (.word done.reverse :: tokens) character)
    else some (.word (character :: done), tokens)
  | (.opened quote, tokens), character =>
    if character = quote.mark then some (.openedTwice quote, tokens)
    else lineStep? tokens quote [] character
  | (.openedTwice quote, tokens), character =>
    if character = quote.mark then some (.blockStart quote, tokens)
    else some (begin (.text "" true :: tokens) character)
  | (.blockStart quote, tokens), character =>
    if character = '\n' then some (.inBlock quote [] 0, tokens)
    else if character = '\r' then some (.blockStartReturn quote, tokens)
    else blockStep? tokens quote [] 0 character
  | (.blockStartReturn quote, tokens), character =>
    if character = '\n' then some (.inBlock quote [] 0, tokens) else none
  | (.inLine quote done, tokens), character => lineStep? tokens quote done character
  | (.inBlock quote done quotes, tokens), character =>
    blockStep? tokens quote done quotes character
  | (.blockReturn quote done, tokens), character =>
    if character = '\n' then some (.inBlock quote ('\n' :: '\r' :: done) 0, tokens) else none
  | (.escape extent done, tokens), character =>
    (escapeStep? extent done character).map (·, tokens)
  | (.codePoint extent done missing code, tokens), character =>
    (codePointStep? extent done missing code character).map (·, tokens)
  | (.gap done, tokens), character =>
    if character = ' ' || character = '\t' then some (.gap done, tokens)
    else if character = '\n' then some (.wideGap done, tokens)
    else if character = '\r' then some (.gapReturn done, tokens)
    else none
  | (.wideGap done, tokens), character =>
    if character = ' ' || character = '\t' || character = '\n' then some (.wideGap done, tokens)
    else if character = '\r' then some (.gapReturn done, tokens)
    else blockStep? tokens .double done 0 character
  | (.gapReturn done, tokens), character =>
    if character = '\n' then some (.wideGap done, tokens) else none

/-- The tokens of a document that ends here, last first. -/
def finish? : Mode × List Token → Option (List Token)
  | (.between, tokens) | (.comment, tokens) => some tokens
  | (.word done, tokens) => some (.word done.reverse :: tokens)
  | (.openedTwice _, tokens) => some (.text "" true :: tokens)
  | (.inBlock quote done quotes, tokens) =>
    if 3 ≤ quotes then
      some (.text (textOf (quotesAsText quote (quotes - 3) done)) false :: tokens)
    else none
  | _ => none

/-- Cut a document into its tokens. -/
def scan? (characters : List Char) : Option (List Token) := do
  let read ← characters.foldlM step? (.between, [])
  let tokens ← finish? read
  pure tokens.reverse

end Token

end Toml

end ConfigAudit
