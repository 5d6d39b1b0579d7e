import ConfigRefs.Number.Basic
import ConfigRefs.Text.Reader

/-!
# Number: numerals

A numeral is digits with an optional fraction and an optional power of ten. Its number is found in
one of two ways: `Numeral.nearest?` rounds the exact value once, `Numeral.stepwise?` rounds a
significand of 64 bits and then scales it by a power of ten.
-/

namespace ConfigRefs.Number

open ConfigRefs.Text

/-- The parts of a numeral. -/
structure Numeral where
  negative : Bool
  whole : List Char
  fraction : List Char
  exponent : Int
  /-- Whether it has neither fraction nor exponent. -/
  plain : Bool

/-- The natural number that decimal digits write. -/
def digitsValue (digits : List Char) : Nat := digits.foldl (fun n c => 10 * n + (c.toNat - 48)) 0

namespace Numeral

/-- The power of ten behind the letter E. -/
def readExponent : Reader Int := do
  let negative ← Reader.literal? ['-']
  unless negative do
    let _ ← Reader.literal? ['+']
  let digits ← Reader.takeWhile1 Char.isDigit
  let size : Int := digitsValue digits
  return if negative then -size else size

/-- A numeral without a sign. -/
def readUnsigned : Reader Numeral := do
  let whole ← Reader.takeWhile1 Char.isDigit
  let fraction ← (do Reader.char '.'; Reader.takeWhile1 Char.isDigit) <|> pure []
  let exponent ← (do Reader.char 'e' <|> Reader.char 'E'; some <$> readExponent) <|> pure none
  return ⟨false, whole, fraction, exponent.getD 0, fraction.isEmpty && exponent.isNone⟩

/-- A numeral with an optional minus sign. -/
def read : Reader Numeral := do
  let negative ← Reader.literal? ['-']
  let numeral ← readUnsigned
  return { numeral with negative }

/-- The double with the given sign, unless it is infinite. -/
def signed? (negative : Bool) (size : Float) : Option Float :=
  if size.isInf then none else some (if negative then -size else size)

/-- The double nearest to a numeral, unless it is too large. Numerals so large or so small that their
digits do not matter are decided by their magnitude. -/
def nearest? (numeral : Numeral) : Option Float :=
  let digits := digitsValue (numeral.whole ++ numeral.fraction)
  let exponent := numeral.exponent - numeral.fraction.length
  let top := exponent + (Nat.toDigits 10 digits).length
  if digits == 0 || top < -400 then some 0
  else if 400 < top then none
  else signed? numeral.negative (Float.ofScientific digits (exponent < 0) exponent.natAbs)

/-- The bound of the significands that are kept exactly. -/
def significandBound : Nat := Nat.pow 2 64

/-- Takes digits into a significand as long as it stays below the bound, and counts the digits that
were not taken. -/
def takeDigits (significand : Nat) : List Char → Nat × Nat
  | [] => (significand, 0)
  | c :: rest =>
    let longer := 10 * significand + (c.toNat - 48)
    if longer < significandBound then takeDigits longer rest else (significand, rest.length + 1)

/-- The greatest power of ten that a double can hold. -/
def greatestPower : Nat := 308

/-- A power of ten as a double. -/
def powerOfTen (exponent : Nat) : Float := Float.ofScientific 1 false exponent

/-- A double scaled by a power of ten, with one rounding for every power that a double can hold.
Nothing if the result is infinite. -/
def scale? (value : Float) (exponent : Int) : Option Float :=
  if exponent.natAbs ≤ greatestPower then
    if 0 ≤ exponent then
      let scaled := value * powerOfTen exponent.natAbs
      if scaled.isInf then none else some scaled
    else some (value / powerOfTen exponent.natAbs)
  else if value == 0 then some value
  else if 0 ≤ exponent then none
  else scale? (value / powerOfTen greatestPower) (exponent + greatestPower)
termination_by exponent.natAbs
decreasing_by simp only [greatestPower] at *; omega

/-- The double that a numeral stands for when its significand is rounded before it is scaled. Digits
behind a full significand only count for its magnitude. -/
def stepwise? (numeral : Numeral) : Option Float := do
  let (whole, dropped) := takeDigits 0 numeral.whole
  let (significand, ignored) := takeDigits whole numeral.fraction
  let exponent : Int := numeral.exponent + dropped - (numeral.fraction.length - ignored : Nat)
  let size ← scale? (Float.ofNat significand) exponent
  return if numeral.negative then -size else size

/-- A whole number within the bounds. -/
def integer? (numeral : Numeral) : Option Int :=
  let size : Int := digitsValue numeral.whole
  let value := if numeral.negative then -size else size
  if numeral.plain && integerBounds.1 ≤ value && value ≤ integerBounds.2 then some value else none

end Numeral

end ConfigRefs.Number
