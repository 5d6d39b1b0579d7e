import ConfigRefs.Text.Property.Alphabetic
import ConfigRefs.Text.Property.Numeric
import ConfigRefs.Text.Property.LetterCase
import ConfigRefs.Text.Property.CaseIgnorable
import ConfigRefs.Text.Property.GraphemeExtend
import ConfigRefs.Text.Property.Unprintable

/-!
# Text: classes of characters

Predicates on characters by their Unicode properties. Each one is the ASCII rule joined with a table
for the code points beyond it, so nothing about ASCII text needs the tables.
-/

namespace ConfigRefs.Text

/-- Whether a character is one of the 128 of ASCII. -/
def isAscii (c : Char) : Bool := c.toNat < 0x80

/-- The Unicode property White_Space. -/
def isBlank (c : Char) : Bool :=
  CodeRanges.has
    [(0x9, 0xd), (0x20, 0x20), (0x85, 0x85), (0xa0, 0xa0), (0x1680, 0x1680), (0x2000, 0x200a),
      (0x2028, 0x2029), (0x202f, 0x202f), (0x205f, 0x205f), (0x3000, 0x3000)] c.toNat

/-- The Unicode property Alphabetic. -/
def isAlphabetic (c : Char) : Bool :=
  if isAscii c then c.isAlpha else Property.alphabetic.has c.toNat

/-- The general categories Nd, Nl and No. -/
def isNumeric (c : Char) : Bool :=
  if isAscii c then c.isDigit else Property.numeric.has c.toNat

/-- A letter or a number of any script. -/
def isAlphanumeric (c : Char) : Bool := isAlphabetic c || isNumeric c

/-- The Unicode property Uppercase. -/
def isUppercase (c : Char) : Bool :=
  if isAscii c then c.isUpper else Property.uppercase.any (·.has c.toNat)

/-- The Unicode property Lowercase. -/
def isLowercase (c : Char) : Bool :=
  if isAscii c then c.isLower else Property.lowercase.any (·.has c.toNat)

/-- The Unicode property Cased: a letter of upper, lower or title case. -/
def isCased (c : Char) : Bool :=
  isUppercase c || isLowercase c || Property.titlecase.has c.toNat

/-- The Unicode property Case_Ignorable. -/
def isCaseIgnorable (c : Char) : Bool := Property.caseIgnorable.has c.toNat

/-- The Unicode property Grapheme_Extend, which no ASCII character has. -/
def isGraphemeExtend (c : Char) : Bool := Property.graphemeExtend.has c.toNat

/-- Controls, formats, private use, unassigned code points, and separators other than the space. -/
def isUnprintable (c : Char) : Bool :=
  if isAscii c then c.toNat < 0x20 || c.toNat == 0x7f else Property.unprintable.has c.toNat

end ConfigRefs.Text
