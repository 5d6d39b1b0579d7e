import ConfigRefs.Text.CharClass

/-!
# Text: quoting for diagnostics

Messages show a text between double quotes with everything that could not be seen written as an
escape (`quoted`), and a list of texts in brackets (`quotedList`).
-/

namespace ConfigRefs.Text.Diagnostic

/-- The hexadecimal digits of a code point in braces behind a backslash and the letter u. -/
def codeEscape (c : Char) : List Char :=
  ['\\', 'u', '\x7b'] ++ Nat.toDigits 16 c.toNat ++ ['\x7d']

/-- The letters that are shown as blanks: the fillers of Hangul. -/
def isFiller (c : Char) : Bool :=
  c == '\u115f' || c == '\u1160' || c == '\u3164' || c == '\uffa0'

/-- The sound marks of half width. They extend the character before them but have a place of their
own. -/
def isHalfwidthMark (c : Char) : Bool := c == '\uff9e' || c == '\uff9f'

/-- Whether a character could not be seen or told apart from the one before it. -/
def isHidden (c : Char) : Bool :=
  isGraphemeExtend c && !isHalfwidthMark c || isFiller c || isUnprintable c

/-- How a character is shown between double quotes. -/
def escapeChar (c : Char) : List Char :=
  if c = '\x00' then ['\\', '0']
  else if c = '\t' then ['\\', 't']
  else if c = '\r' then ['\\', 'r']
  else if c = '\n' then ['\\', 'n']
  else if c = '\\' then ['\\', '\\']
  else if c = '"' then ['\\', '"']
  else if isHidden c then codeEscape c
  else [c]

/-- A text between double quotes, with escapes. -/
def quoted (text : String) : String :=
  String.ofList ('"' :: text.toList.flatMap escapeChar ++ ['"'])

/-- A list of texts, each one quoted, in brackets. -/
def quotedList (texts : List String) : String :=
  "[" ++ String.intercalate ", " (texts.map quoted) ++ "]"

end ConfigRefs.Text.Diagnostic
