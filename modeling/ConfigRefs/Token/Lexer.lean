import ConfigRefs.Token.Basic
import ConfigRefs.Interpolation.Nesting
import ConfigRefs.Text.CharClass

/-!
# Token: lexing

`tokensFrom` reads the tokens of a text that begins at a byte offset. Tokens are as long as possible,
white space stands between them and belongs to none, and every other character belongs to one.
-/

namespace ConfigRefs.Token

open ConfigRefs.Text ConfigRefs.Interpolation

/-- The characters that may begin a word. -/
def beginsWord (c : Char) : Bool := isAlphabetic c || c == '_'

/-- The characters that may continue a word. -/
def continuesWord (c : Char) : Bool := isAlphanumeric c || c == '_' || c == '-'

/-- The kind of the punctuation that begins with a character, and how many of the characters after it
belong to it. -/
def punctuation : Char → List Char → Kind × Nat
  | '.', '.' :: '.' :: _ => (.ellipsis, 2)
  | '.', '*' :: _ => (.splat, 1)
  | '.', _ => (.dot, 0)
  | '[', _ => (.openBracket, 0)
  | ']', _ => (.closeBracket, 0)
  | '(', _ => (.openParen, 0)
  | ')', _ => (.closeParen, 0)
  | '\x7b', _ => (.openBrace, 0)
  | '\x7d', _ => (.closeBrace, 0)
  | ',', _ => (.comma, 0)
  | ':', _ => (.colon, 0)
  | '?', _ => (.question, 0)
  | '=', '>' :: _ => (.fatArrow, 1)
  | '=', '=' :: _ => (.operator, 1)
  | '=', _ => (.assign, 0)
  | '!', '=' :: _ => (.operator, 1)
  | '<', '=' :: _ => (.operator, 1)
  | '>', '=' :: _ => (.operator, 1)
  | '&', '&' :: _ => (.operator, 1)
  | '|', '|' :: _ => (.operator, 1)
  | '!', _ => (.operator, 0)
  | '<', _ => (.operator, 0)
  | '>', _ => (.operator, 0)
  | '+', _ => (.operator, 0)
  | '-', _ => (.operator, 0)
  | '*', _ => (.operator, 0)
  | '/', _ => (.operator, 0)
  | '%', _ => (.operator, 0)
  | _, _ => (.unknown, 0)

/-- The kind of the token that begins with a character, and how many of the characters after it
belong to it. -/
def classify (c : Char) (rest : List Char) : Kind × Nat :=
  if beginsWord c then (.ident, (rest.takeWhile continuesWord).length)
  else if c.isDigit then (.number, (rest.takeWhile Char.isDigit).length)
  else if c = '"' then (.str, quotedLength rest)
  else punctuation c rest

/-- The tokens of a text that begins at a byte offset. -/
def tokensFrom (offset : Nat) : List Char → List Token
  | [] => []
  | c :: rest =>
    if isBlank c then tokensFrom (offset + c.utf8Size) rest
    else
      let (kind, more) := classify c rest
      let text := c :: rest.take more
      ⟨kind, offset, text⟩ :: tokensFrom (offset + byteLength text) (rest.drop more)
termination_by text => text.length
decreasing_by all_goals grind

/-- The tokens of the part of an input between two byte offsets. -/
def tokenize (input : String) (span : Span) : List Token :=
  tokensFrom span.start (slice input.toList span.start span.stop)

end ConfigRefs.Token
