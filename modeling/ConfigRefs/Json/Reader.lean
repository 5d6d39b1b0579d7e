import ConfigRefs.Value.Basic
import ConfigRefs.Number.Numeral
import ConfigRefs.Text.Hexadecimal

/-!
# Json: reading

`read?` reads a JSON document as a configuration value. The grammar is strict: nothing but white
space stands around a value, strings hold no control characters and no lone surrogates, and numbers
that a double cannot hold are refused. A key that is repeated keeps its first place and takes its last
value.
-/

namespace ConfigRefs.Json

open ConfigRefs.Text

/-- The white space of JSON. -/
def isBlank (c : Char) : Bool := c == ' ' || c == '\n' || c == '\t' || c == '\r'

/-- Skips white space. -/
def blanks : Reader Unit := discard (Reader.takeWhile isBlank)

/-- The character behind a backslash and the letter u. Two surrogates make one character, and one
alone is refused. -/
def unicodeEscape : Reader Char := do
  let first ← Reader.hexadecimal 0 4
  if 0xdc00 ≤ first ∧ first < 0xe000 then failure
  else if 0xd800 ≤ first ∧ first < 0xdc00 then
    Reader.literal ['\\', 'u']
    let second ← Reader.hexadecimal 0 4
    if 0xdc00 ≤ second ∧ second < 0xe000 then
      return Char.ofNat (0x10000 + (first - 0xd800) * 0x400 + (second - 0xdc00))
    else failure
  else return Char.ofNat first

/-- The character that an escape stands for, the backslash having been read. -/
def escape : Reader Char := do
  match ← Reader.next with
  | '"' => return '"'
  | '\\' => return '\\'
  | '/' => return '/'
  | 'b' => return '\x08'
  | 'f' => return '\x0c'
  | 'n' => return '\n'
  | 'r' => return '\r'
  | 't' => return '\t'
  | 'u' => unicodeEscape
  | _ => failure

/-- The characters of a string up to its closing quote, in at most `fuel` steps. -/
def stringBody : Nat → Reader (List Char)
  | 0 => failure
  | fuel + 1 => do
    match ← Reader.next with
    | '"' => return []
    | '\\' => return (← escape) :: (← stringBody fuel)
    | c => if c.toNat < 0x20 then failure else return c :: (← stringBody fuel)

/-- A string. -/
def string (fuel : Nat) : Reader String := do
  Reader.char '"'
  return String.ofList (← stringBody fuel)

/-- A number. A zero is no first digit of several. -/
def number : Reader Number := do
  let numeral ← Number.Numeral.read
  match numeral.whole with
  | '0' :: _ :: _ => failure
  | _ =>
    match numeral.integer?, numeral.stepwise? with
    | some value, _ => return .integer value
    | none, some value => return .ofFloat value
    | none, none => failure

/-- How deeply arrays and objects may nest. -/
def depthLimit : Nat := 127

mutual

/-- A value with white space before it, in at most `fuel` steps and `depth` levels. -/
def value : (fuel depth : Nat) → Reader Value
  | 0, _ => failure
  | fuel + 1, depth => do
    blanks
    match ← Reader.peek? with
    | some '"' => return .string (← string fuel)
    | some 'n' => Reader.literal "null".toList; return .null
    | some 't' => Reader.literal "true".toList; return .bool true
    | some 'f' => Reader.literal "false".toList; return .bool false
    | some '[' =>
      match depth with
      | 0 => failure
      | depth + 1 =>
        Reader.char '['
        blanks
        if ← Reader.literal? [']'] then return .array []
        else return .array (← items fuel depth)
    | some '\x7b' =>
      match depth with
      | 0 => failure
      | depth + 1 =>
        Reader.char '\x7b'
        blanks
        if ← Reader.literal? ['\x7d'] then return .object []
        else return .object (Entries.ofList (← members fuel depth))
    | _ => return .number (← number)

/-- The items of an array up to its closing bracket. -/
def items : (fuel depth : Nat) → Reader (List Value)
  | 0, _ => failure
  | fuel + 1, depth => do
    let item ← value fuel depth
    blanks
    if ← Reader.literal? [','] then return item :: (← items fuel depth)
    else
      Reader.char ']'
      return [item]

/-- The members of an object up to its closing brace. -/
def members : (fuel depth : Nat) → Reader (List (String × Value))
  | 0, _ => failure
  | fuel + 1, depth => do
    blanks
    let key ← string fuel
    blanks
    Reader.char ':'
    let item ← value fuel depth
    blanks
    if ← Reader.literal? [','] then return (key, item) :: (← members fuel depth)
    else
      Reader.char '\x7d'
      return [(key, item)]

end

/-- The value of a JSON document. -/
def read? (document : String) : Option Value :=
  let text := document.toList
  Reader.readAll (value (2 * text.length + 2) depthLimit <* blanks) text

end ConfigRefs.Json
