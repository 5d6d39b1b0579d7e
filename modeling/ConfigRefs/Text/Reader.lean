/-!
# Text: readers

A `Reader` takes a value from the beginning of a text and leaves the rest, or fails. Choice between
readers goes back to where the first one began.
-/

namespace ConfigRefs.Text

/-- Reads a value from the beginning of a text. -/
abbrev Reader (α : Type) := StateT (List Char) Option α

namespace Reader

/-- The next character, which stays. Nothing at the end. -/
def peek? : Reader (Option Char) := fun text => some (text.head?, text)

/-- The next character. -/
def next : Reader Char
  | [] => none
  | c :: rest => some (c, rest)

/-- The given text. -/
def literal (expected : List Char) : Reader Unit := fun text =>
  if expected.isPrefixOf text then some ((), text.drop expected.length) else none

/-- The given character. -/
def char (c : Char) : Reader Unit := literal [c]

/-- The given text if it comes next, and whether it did. -/
def literal? (expected : List Char) : Reader Bool :=
  (do literal expected; return true) <|> return false

/-- The longest beginning whose characters satisfy a predicate. -/
def takeWhile (accept : Char → Bool) : Reader (List Char) := fun text =>
  some (text.span accept)

/-- Like `takeWhile`, but at least one character. -/
def takeWhile1 (accept : Char → Bool) : Reader (List Char) := do
  let taken ← takeWhile accept
  if taken.isEmpty then failure else return taken

/-- Succeeds only at the end of the text. -/
def atEnd : Reader Unit := fun text => if text.isEmpty then some ((), []) else none

/-- What a reader makes of a whole text. -/
def readAll {α : Type} (reader : Reader α) (text : List Char) : Option α :=
  ((reader <* atEnd).run text).map (·.1)

end Reader

end ConfigRefs.Text
