import ConfigRefs.Hcl.Transcript
import ConfigRefs.Text.Reader

/-!
# Hcl: scanners

A `Scanner` reads from the beginning of a text like a reader, and keeps a transcript of what it has
read. `apart` and `write` replace the parts of it that are not kept as they are written.
-/

namespace ConfigRefs.Hcl

open ConfigRefs.Text

/-- What is left of a text, and the transcript of what was read before it, the last sign first. -/
structure Cursor where
  rest : List Char
  transcript : Transcript

/-- Reads a value from the beginning of a text. -/
abbrev Scanner (α : Type) := StateT Cursor Option α

namespace Scanner

/-- What is left of the text. -/
def rest : Scanner (List Char) := return (← get).rest

/-- Adds to the transcript without reading. -/
def write (transcript : Transcript) : Scanner Unit :=
  modify fun cursor => { cursor with transcript := transcript.reverseAux cursor.transcript }

/-- Reads the given number of characters, or all that are left. -/
def skip (count : Nat) : Scanner Unit := do
  let text ← rest
  modify fun cursor => { cursor with rest := text.drop count }
  write (Transcript.ofText (text.take count))

/-- The next character. -/
def next : Scanner Char := do
  match ← rest with
  | [] => failure
  | c :: _ =>
    skip 1
    return c

/-- The given text if it comes next, and whether it did. -/
def literal? (expected : List Char) : Scanner Bool := do
  if expected.isPrefixOf (← rest) then
    skip expected.length
    return true
  else return false

/-- The given text. -/
def literal (expected : List Char) : Scanner Unit := do
  unless ← literal? expected do failure

/-- The given character. -/
def char (c : Char) : Scanner Unit := literal [c]

/-- The longest beginning whose characters satisfy a predicate. -/
def takeWhile (accept : Char → Bool) : Scanner (List Char) := do
  let taken := (← rest).takeWhile accept
  skip taken.length
  return taken

/-- What a reader reads. -/
def ofReader {α : Type} (reader : Reader α) : Scanner α := do
  let text ← rest
  match reader.run text with
  | none => failure
  | some (value, behind) =>
    skip (text.length - behind.length)
    return value

/-- Reads with a transcript of its own, which is given with the value. -/
def apart {α : Type} (scanner : Scanner α) : Scanner (Transcript × α) := do
  let before := (← get).transcript
  modify fun cursor => { cursor with transcript := [] }
  let value ← scanner
  let own := (← get).transcript.reverse
  modify fun cursor => { cursor with transcript := before }
  return (own, value)

/-- What comes next, without reading it. -/
def ahead {α : Type} (scanner : Scanner α) : Scanner α := do
  let start ← get
  let value ← scanner
  set start
  return value

/-- Succeeds only at the end of the text. -/
def atEnd : Scanner Unit := do
  unless (← rest).isEmpty do failure

/-- What a scanner makes of a whole text. -/
def readAll {α : Type} (scanner : Scanner α) (text : List Char) : Option α :=
  ((scanner <* atEnd).run ⟨text, []⟩).map (·.1)

end Scanner

end ConfigRefs.Hcl
