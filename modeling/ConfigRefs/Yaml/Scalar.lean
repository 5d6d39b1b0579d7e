import ConfigRefs.Number.Numeral
import ConfigRefs.Text.Hexadecimal

/-!
# Yaml: scalars

How a text is written in YAML. A text that would be read as something else is quoted, a text of
several lines is a literal block, and any other text is plain if its characters allow it.
`styleOf` chooses the style, and `Scalar` holds what is written.
-/

namespace ConfigRefs.Yaml

open ConfigRefs.Text ConfigRefs.Number

/-- How a text is written. -/
inductive Style where
  | plain
  | singleQuoted
  | doubleQuoted
  | literal
  deriving DecidableEq, Repr

/-- The words that stand for a truth value, for nothing, or for a number that is not finite. -/
def reservedWords : List String :=
  ["", "~", "null", "Null", "NULL", "true", "True", "TRUE", "false", "False", "FALSE",
    ".inf", ".Inf", ".INF", "+.inf", "+.Inf", "+.INF", "-.inf", "-.Inf", "-.INF",
    ".nan", ".NaN", ".NAN"]

/-- The number that digits of a base up to sixteen write. Nothing is no number. -/
def valueOf? (base : Nat) (text : List Char) : Option Nat :=
  if text.isEmpty then none
  else text.foldlM (fun value c => do
    let digit ← hexValue? c
    if digit < base then some (base * value + digit) else none) 0

/-- Whether a text is digits of a base up to sixteen. -/
def isDigits (base : Nat) (text : List Char) : Bool := (valueOf? base text).isSome

/-- The text without a sign. -/
def withoutSign : List Char → List Char
  | '+' :: rest => rest
  | '-' :: rest => rest
  | text => text

/-- The largest size of a number that is read as a whole one. Such numbers have 128 bits, of which one
is the sign if they are negative. -/
def largestSize (negative : Bool) : Nat := if negative then Nat.pow 2 127 else Nat.pow 2 128 - 1

/-- Whether a text is a whole number in base two, eight or sixteen, or decimal digits behind a
zero. -/
def isInteger (text : List Char) : Bool :=
  match withoutSign text with
  | '0' :: 'x' :: digits => fits 16 digits
  | '0' :: 'o' :: digits => fits 8 digits
  | '0' :: 'b' :: digits => fits 2 digits
  | '0' :: digits => isDigits 10 digits
  | _ => false
where
  /-- Whether digits write a whole number that is not too large. -/
  fits (base : Nat) (digits : List Char) : Bool :=
    (valueOf? base digits).any (· ≤ largestSize (text.head? == some '-'))

/-- The power of ten at the end of a decimal, zero where nothing is left. -/
def exponent? : List Char → Option Int
  | [] => some 0
  | e :: rest =>
    if (e == 'e' || e == 'E') && isDigits 10 (withoutSign rest) then
      let size : Int := digitsValue (withoutSign rest)
      some (if rest.head? = some '-' then -size else size)
    else none

/-- Whether a text is a decimal with or without a fraction and a power of ten, and not too large for a
double. Digits may be missing on one side of the point. -/
def isDecimal (text : List Char) : Bool :=
  let (whole, behind) := (withoutSign text).span Char.isDigit
  let (fraction, tail) :=
    match behind with
    | '.' :: rest => rest.span Char.isDigit
    | rest => ([], rest)
  match exponent? tail with
  | some exponent =>
    let numeral : Numeral := ⟨false, whole, fraction, exponent, false⟩
    !(whole.isEmpty && fraction.isEmpty) && numeral.nearest?.isSome
  | none => false

/-- Whether a text in plain style would be read as something that is no text. -/
def isAmbiguous (text : String) : Bool :=
  reservedWords.contains text || isInteger text.toList || isDecimal text.toList

/-- The line breaks of YAML. -/
def isBreak (c : Char) : Bool :=
  c == '\n' || c == '\r' || c == '\u0085' || c == '\u2028' || c == '\u2029'

/-- Whether a character may be written as it is. -/
def isPrintable (c : Char) : Bool :=
  c == '\n' || 0x20 ≤ c.toNat && c.toNat ≤ 0x7e
    || 0xa0 ≤ c.toNat && c.toNat != 0xfeff && c.toNat != 0xfffe && c.toNat != 0xffff

/-- Whether the character behind a place ends a word: white space, or the end of the text. -/
def endsWord : List Char → Bool
  | [] => true
  | c :: _ => c == ' ' || c == '\t' || isBreak c || c == '\x00'

/-- The characters that cannot begin a plain text. -/
def leadingIndicators : List Char :=
  ['#', ',', '[', ']', '\x7b', '\x7d', '&', '*', '!', '|', '>', '\'', '"', '%', '@', '\x60']

/-- Whether the beginning of a text is a mark of its own. -/
def beginsWithIndicator : List Char → Bool
  | '-' :: '-' :: '-' :: _ => true
  | '.' :: '.' :: '.' :: _ => true
  | [] => false
  | c :: rest =>
    leadingIndicators.contains c || (c == '?' || c == ':' || c == '-') && endsWord rest

/-- Whether a colon that ends a word or a number sign that begins one stands in a text behind its
first character, which is `before`. -/
def holdsIndicator (before : Char) : List Char → Bool
  | [] => false
  | c :: rest =>
    c == ':' && endsWord rest || c == '#' && endsWord [before] || holdsIndicator c rest

/-- Whether a text holds a line break next to a space on the given side of it. -/
def holdsPair (first second : Char → Bool) : List Char → Bool
  | a :: b :: rest => first a && second b || holdsPair first second (b :: rest)
  | _ => false

/-- Whether a text may be plain. -/
def allowsPlain (text : List Char) : Bool :=
  match text with
  | [] => false
  | first :: rest =>
    !(first == ' ' || isBreak first) && !(text.getLast? == some ' ')
      && text.all (fun c => isPrintable c && !isBreak c)
      && !beginsWithIndicator text && !holdsIndicator first rest

/-- Whether a text may be between single quotes. -/
def allowsSingleQuoted (text : List Char) : Bool :=
  text.all isPrintable && !holdsPair isBreak (· == ' ') text && !holdsPair (· == ' ') isBreak text

/-- Whether a text may be a literal block. -/
def allowsLiteral (text : List Char) : Bool :=
  text.all isPrintable && !(text.getLast? == some ' ') && !holdsPair (· == ' ') isBreak text

/-- The style that a text is written in. -/
def styleOf (text : String) : Style :=
  let chars := text.toList
  let quotes := if allowsSingleQuoted chars then .singleQuoted else .doubleQuoted
  if chars.contains '\n' then if allowsLiteral chars then .literal else .doubleQuoted
  else if isAmbiguous text then quotes
  else if allowsPlain chars then .plain
  else quotes

/-- A character as it is written between double quotes. -/
def escapeChar (c : Char) : List Char :=
  match c with
  | '\x00' => ['\\', '0']
  | '\x07' => ['\\', 'a']
  | '\x08' => ['\\', 'b']
  | '\t' => ['\\', 't']
  | '\n' => ['\\', 'n']
  | '\x0b' => ['\\', 'v']
  | '\x0c' => ['\\', 'f']
  | '\r' => ['\\', 'r']
  | '\x1b' => ['\\', 'e']
  | '"' => ['\\', '"']
  | '\\' => ['\\', '\\']
  | '\u0085' => ['\\', 'N']
  | '\u2028' => ['\\', 'L']
  | '\u2029' => ['\\', 'P']
  | c =>
    if isPrintable c then [c]
    else if c.toNat ≤ 0xff then '\\' :: 'x' :: hexDigits 2 c.toNat
    else if c.toNat ≤ 0xffff then '\\' :: 'u' :: hexDigits 4 c.toNat
    else '\\' :: 'U' :: hexDigits 8 c.toNat

/-- A line with the line break that ends it. -/
structure Line where
  text : List Char
  ending : Char := '\n'
  deriving DecidableEq, Repr

/-- A line moved one level in, unless it is empty. -/
def Line.indent (line : Line) : Line :=
  if line.text.isEmpty then line else { line with text := ' ' :: ' ' :: line.text }

/-- The lines of a text, the last of which need not have a line break. -/
def splitBreaks : List Char → List Line
  | [] => []
  | c :: rest =>
    if isBreak c then ⟨[], c⟩ :: splitBreaks rest
    else match splitBreaks rest with
      | [] => [⟨[c], '\n'⟩]
      | line :: later => { line with text := c :: line.text } :: later

/-- What is written for a scalar: what stands on the line of its key or dash, and the lines below it
without their margin. -/
structure Scalar where
  head : Line
  lines : List Line

/-- The mark of a literal block for a text: a margin if the text begins with white space, and what
happens to the line feeds at its end. -/
def literalMark (text : List Char) : String :=
  let margin := if (text.head?.map fun c => c == ' ' || isBreak c).getD false then "2" else ""
  let ending :=
    match text.reverse with
    | last :: before =>
      if !isBreak last then "-"
      else if (before.head?.map isBreak).getD true then "+"
      else ""
    | [] => "-"
  "|" ++ margin ++ ending

/-- The scalar of characters on one or more lines. -/
def Scalar.ofChars (chars : List Char) : Scalar :=
  match splitBreaks chars with
  | [] => ⟨⟨[], '\n'⟩, []⟩
  | head :: lines => ⟨head, lines⟩

/-- What is written for a text. -/
def Scalar.ofText (text : String) : Scalar :=
  let chars := text.toList
  match styleOf text with
  | .plain => .ofChars chars
  | .singleQuoted =>
    .ofChars ('\'' :: (chars.flatMap fun c => if c = '\'' then ['\'', '\''] else [c]) ++ ['\''])
  | .doubleQuoted => .ofChars ('"' :: chars.flatMap escapeChar ++ ['"'])
  | .literal => ⟨⟨(literalMark chars).toList, '\n'⟩, splitBreaks chars⟩

/-- Whether a text can be a key on one line with its value. -/
def isSimpleKey (text : String) : Bool :=
  text.utf8ByteSize ≤ 128 && !text.toList.any isBreak

end ConfigRefs.Yaml
