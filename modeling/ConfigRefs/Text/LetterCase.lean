import ConfigRefs.Text.CharClass

/-!
# Text: case mappings

The full upper case mapping of a character (`upper`), and the lower case mapping of a text (`lower`),
in which a capital sigma at the end of a word becomes the final form of the letter.
-/

namespace ConfigRefs.Text

/-- The characters that a table of expansions and a table of shifts map a character to. -/
private def mapped (expansions : List (Nat × List Nat)) (shifts : List CodeShift) (c : Char) :
    List Char :=
  match expansions.lookup c.toNat with
  | some codes => codes.map Char.ofNat
  | none => [(CodeShift.shifted? shifts c.toNat).elim c Char.ofNat]

/-- The upper case form of a character, which may be several characters. -/
def upper (c : Char) : List Char :=
  if isAscii c then [c.toUpper] else mapped Property.upperExpansions Property.upperShifts c

/-- The lower case form of a character that stands alone. -/
def lowerChar (c : Char) : List Char :=
  if isAscii c then [c.toLower] else mapped Property.lowerExpansions Property.lowerShifts c

/-- The lower case form of a character that is not ASCII is the one that the tables give it. -/
theorem lowerChar_eq_elim {c : Char} (h : isAscii c = false) :
    lowerChar c = (Property.lowerExpansions.lookup c.toNat).elim
      [(CodeShift.shifted? Property.lowerShifts c.toNat).elim c Char.ofNat] (List.map Char.ofNat) := by
  rw [lowerChar, h, if_neg Bool.false_ne_true, mapped]
  cases Property.lowerExpansions.lookup c.toNat <;> rfl

/-- Whether the first character that case rules do not pass over is a cased one. -/
def meetsCased (text : List Char) : Bool :=
  ((text.dropWhile isCaseIgnorable).head?.map isCased).getD false

/-- The lower case form of a text, `before` being what precedes it in reverse. -/
def lowerAfter (before : List Char) : List Char → List Char
  | [] => []
  | c :: rest =>
    (if c = 'Σ' then [if meetsCased before && !meetsCased rest then 'ς' else 'σ'] else lowerChar c)
      ++ lowerAfter (c :: before) rest

/-- The lower case form of a text. -/
def lower (text : List Char) : List Char := lowerAfter [] text

end ConfigRefs.Text
