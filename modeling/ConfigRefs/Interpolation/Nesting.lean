/-!
# Interpolation: nesting of braces and quotes

Inside an interpolation braces nest, and a quoted string may hold interpolations of its own. What is
open at a place is a stack of frames, innermost first. `closing? open text` splits `text` behind the
delimiter that closes the last of the open frames.
-/

namespace ConfigRefs.Interpolation

/-- Something that a delimiter has opened and another one closes. -/
inductive Frame where
  /-- Opened by a left brace, closed by a right one. -/
  | brace
  /-- Opened and closed by a double quote. -/
  | quote
  deriving DecidableEq, Repr

/-- Puts a character in front of the first part of a split. -/
def consFst (c : Char) (split : List Char × List Char) : List Char × List Char :=
  (c :: split.1, split.2)

/-- The text up to and with the delimiter that closes all open frames, and the text behind it.

In a quoted string a backslash takes the next character with it, and a dollar sign with a left brace
opens an interpolation. -/
def closing? : List Frame → List Char → Option (List Char × List Char)
  | [], text => some ([], text)
  | _ :: _, [] => none
  | .brace :: outer, c :: text =>
    if c = '\x7b' then (closing? (.brace :: .brace :: outer) text).map (consFst c)
    else if c = '\x7d' then (closing? outer text).map (consFst c)
    else if c = '"' then (closing? (.quote :: .brace :: outer) text).map (consFst c)
    else (closing? (.brace :: outer) text).map (consFst c)
  | .quote :: outer, '\\' :: c :: text =>
    (closing? (.quote :: outer) text).map fun split => consFst '\\' (consFst c split)
  | .quote :: outer, '$' :: '\x7b' :: text =>
    (closing? (.brace :: .quote :: outer) text).map fun split => consFst '$' (consFst '\x7b' split)
  | .quote :: outer, c :: text =>
    if c = '"' then (closing? outer text).map (consFst c)
    else (closing? (.quote :: outer) text).map (consFst c)

/-- The body of an interpolation whose marker has just been read: the text before its closing brace,
and the text behind that brace. -/
def body? (text : List Char) : Option (List Char × List Char) :=
  (closing? [.brace] text).map fun split => (split.1.dropLast, split.2)

/-- The number of characters of a quoted string behind its opening quote. A string that is never
closed takes all of the text. -/
def quotedLength (text : List Char) : Nat :=
  match closing? [.quote] text with
  | some (inside, _) => inside.length
  | none => text.length

theorem closing?_append {frames : List Frame} {text inside rest : List Char}
    (h : closing? frames text = some (inside, rest)) : text = inside ++ rest := by
  fun_induction closing? frames text generalizing inside rest <;>
    grind [consFst, Option.map_eq_some_iff]

theorem length_le_of_body? {text inside rest : List Char} (h : body? text = some (inside, rest)) :
    rest.length ≤ text.length := by
  obtain ⟨⟨a, b⟩, hab, heq⟩ := Option.map_eq_some_iff.1 h
  have := closing?_append hab
  grind

end ConfigRefs.Interpolation
