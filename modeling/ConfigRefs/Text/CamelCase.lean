import ConfigRefs.Text.LetterCase

/-!
# Text: camel case

Generated names are written in camel case. `words` cuts a name into its words, and `camelCase` writes
the first word in lower case and every later one with a capital.
-/

namespace ConfigRefs.Text

/-- Whether a word goes on from `c` to `d`: it ends at anything that is neither letter nor number,
and before a capital that follows a lower case letter or a number. -/
def joins (c d : Char) : Bool :=
  isAlphanumeric d && !(isUppercase d && (isLowercase c || isNumeric c))

/-- The words of a name. -/
def words : List Char → List (List Char)
  | [] => []
  | [c] => if isAlphanumeric c then [[c]] else []
  | c :: d :: rest =>
    if !isAlphanumeric c then words (d :: rest)
    else if joins c d then
      match words (d :: rest) with
      | [] => [[c]]
      | word :: later => (c :: word) :: later
    else [c] :: words (d :: rest)

/-- A word with its first character in upper case and the others in lower case. -/
def capitalize : List Char → List Char
  | [] => []
  | c :: rest => upper c ++ lower rest

/-- The words of a name run together, the first in lower case and the others capitalized. -/
def camelCaseChars (name : List Char) : List Char :=
  match words name with
  | [] => []
  | first :: later => lower first ++ later.flatMap capitalize

/-- The camel case form of a name. -/
def camelCase (name : String) : String := String.ofList (camelCaseChars name.toList)

end ConfigRefs.Text
