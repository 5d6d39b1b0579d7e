import ConfigRefs.Text.Reader

/-!
# Text: hexadecimal numbers
-/

namespace ConfigRefs.Text

/-- The value of a hexadecimal digit of either case. -/
def hexValue? (c : Char) : Option Nat :=
  if c.isDigit then some (c.toNat - '0'.toNat)
  else if 'a' ≤ c ∧ c ≤ 'f' then some (c.toNat - 'a'.toNat + 10)
  else if 'A' ≤ c ∧ c ≤ 'F' then some (c.toNat - 'A'.toNat + 10)
  else none

/-- The digits of a number in base sixteen, in upper case and with at least `width` of them. -/
def hexDigits (width n : Nat) : List Char :=
  let digits := (Nat.toDigits 16 n).map Char.toUpper
  List.replicate (width - digits.length) '0' ++ digits

/-- A number of exactly `count` hexadecimal digits, `start` being the value of those before them. -/
def Reader.hexadecimal (start : Nat) : (count : Nat) → Reader Nat
  | 0 => return start
  | count + 1 => do
    match hexValue? (← Reader.next) with
    | some value => Reader.hexadecimal (16 * start + value) count
    | none => failure

/-- The character of a code point, unless it is a surrogate or out of range. -/
def charOfCode? (code : Nat) : Option Char :=
  if code.isValidChar then some (Char.ofNat code) else none

end ConfigRefs.Text
