import ConfigRefs.Hcl.Scanner
import ConfigRefs.Text.Hexadecimal

/-!
# Hcl: names, comments and escapes

Scanners for the smallest parts of the configuration language.
-/

namespace ConfigRefs.Hcl

open ConfigRefs.Text

/-- Whether the character of Latin-1 with the given code may begin a name. -/
def codeBeginsName (code : Nat) : Bool :=
  code == 0x5f || 0x41 ≤ code && code ≤ 0x5a || 0x61 ≤ code && code ≤ 0x7a
    || code == 0xaa || code == 0xb5 || code == 0xba
    || 0xc0 ≤ code && code != 0xd7 && code != 0xf7

/-- Whether the character of Latin-1 with the given code may continue a name. -/
def codeContinuesName (code : Nat) : Bool :=
  codeBeginsName code || code == 0x2d || 0x30 ≤ code && code ≤ 0x39 || code == 0xb7

/-- The bytes of the UTF-8 form of a character. -/
def bytesOf (c : Char) : List Nat := (String.utf8EncodeChar c).map (·.toNat)

/-- The characters that may begin a name. Names are read byte by byte, and each byte counts as the
character of Latin-1 with its code. -/
def beginsName (c : Char) : Bool :=
  match bytesOf c with
  | first :: others => codeBeginsName first && others.all codeContinuesName
  | [] => false

/-- The characters that may continue a name. -/
def continuesName (c : Char) : Bool := (bytesOf c).all codeContinuesName

/-- A name. -/
def name : Scanner String := do
  let first ← Scanner.next
  if beginsName first then
    return String.ofList (first :: (← Scanner.takeWhile continuesName))
  else failure

/-- Where a place between words lies: outside of comments or in one. -/
inductive Gap where
  | outside
  | lineComment
  | blockComment
  deriving DecidableEq, Repr

/-- Whether a line ends where a text begins. -/
def endsLine : List Char → Bool
  | '\n' :: _ => true
  | '\r' :: '\n' :: _ => true
  | _ => false

/-- The number of characters of white space and comments that begin a text, within a line or over
several lines. Comments up to the end of a line are only passed over in the second case and hold no
lone carriage return, and a comment between slashes and stars must be closed. -/
def blankLength? (multiline : Bool) : Gap → List Char → Option Nat
  | .outside, '/' :: '*' :: rest => (· + 2) <$> blankLength? multiline .blockComment rest
  | .outside, c :: rest =>
    if c == ' ' || c == '\t' || (multiline && (c == '\n' || c == '\r')) then
      (· + 1) <$> blankLength? multiline .outside rest
    else if multiline && (c == '#' || c == '/' && rest.head? == some '/') then
      (· + 1) <$> blankLength? multiline .lineComment rest
    else some 0
  | .lineComment, c :: rest =>
    if endsLine (c :: rest) then (· + 1) <$> blankLength? multiline .outside rest
    else if c == '\r' then none
    else (· + 1) <$> blankLength? multiline .lineComment rest
  | .blockComment, '*' :: '/' :: rest => (· + 2) <$> blankLength? multiline .outside rest
  | .blockComment, _ :: rest => (· + 1) <$> blankLength? multiline .blockComment rest
  | .blockComment, [] => none
  | _, [] => some 0

/-- As much white space and comments as there is. -/
def blanks (multiline : Bool) : Scanner Unit := do
  match blankLength? multiline .outside (← Scanner.rest) with
  | some count => Scanner.skip count
  | none => failure

/-- A comment up to the end of its line, if one comes next. -/
def lineComment : Scanner Unit := do
  match ← Scanner.rest with
  | '#' :: _ | '/' :: '/' :: _ => discard (Scanner.takeWhile fun c => c != '\n' && c != '\r')
  | _ => return ()

/-- The end of a line. -/
def lineEnd : Scanner Unit := do
  let _ ← Scanner.literal? ['\r']
  Scanner.char '\n'

/-- The end of the line that an attribute or a block is on, a comment being allowed before it. -/
def restOfLine : Scanner Unit := do
  blanks false
  lineComment
  unless (← Scanner.rest).isEmpty do lineEnd

/-- The character that an escape in a quoted string stands for, the backslash having been read. -/
def escape : Reader Char := do
  match ← Reader.next with
  | 'n' => return '\n'
  | 'r' => return '\r'
  | 't' => return '\t'
  | '"' => return '"'
  | '\\' => return '\\'
  | '/' => return '/'
  | 'b' => return '\x08'
  | 'f' => return '\x0c'
  | 'u' => ofCode (← Reader.hexadecimal 0 4)
  | 'U' => ofCode (← Reader.hexadecimal 0 8)
  | _ => failure
where
  /-- The character of a code point. -/
  ofCode (code : Nat) : Reader Char :=
    match charOfCode? code with
    | some c => return c
    | none => failure

end ConfigRefs.Hcl
