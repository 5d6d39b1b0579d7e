import ConfigRefs.Number.Binary

/-!
# Number: the shortest decimal that reads back

Of the decimals that lie closer to a double than to any other double, `shortest` finds the one with
the fewest digits, and the nearest of these. All of it is arithmetic on natural numbers.
-/

namespace ConfigRefs.Number

/-- A decimal `digits · 10 ^ exponent` without a sign. -/
structure Decimal where
  digits : Nat
  exponent : Int
  deriving DecidableEq, Repr

/-- The positive numbers that round to a double, as fractions over one denominator: the double itself
and the ends of the interval, which belong to it or not. -/
structure Rounding where
  value : Nat
  low : Nat
  high : Nat
  denominator : Nat
  closed : Bool

/-- The interval around a positive double. It is narrower below the first mantissa of an exponent,
and its ends round to even mantissas. -/
def Rounding.ofBinary (binary : Binary) : Rounding :=
  let up := Nat.pow 2 binary.exponent.toNat
  let narrow := binary.mantissa == Binary.leastMantissa && binary.exponent != Binary.leastExponent
  { value := 4 * binary.mantissa * up
    low := (4 * binary.mantissa - if narrow then 1 else 2) * up
    high := (4 * binary.mantissa + 2) * up
    denominator := 4 * Nat.pow 2 (-binary.exponent).toNat
    closed := binary.mantissa % 2 == 0 }

/-- Whether `digits · scale`, over the common denominator, rounds to the double. -/
def Rounding.admits (interval : Rounding) (scaled : Nat) : Bool :=
  if interval.closed then interval.low ≤ scaled && scaled ≤ interval.high
  else interval.low < scaled && scaled < interval.high

/-- The number `n` with `10 ^ n ≤ num / den < 10 ^ (n + 1)`, for a positive fraction. -/
def magnitude (num den : Nat) : Int :=
  if den ≤ num then ((Nat.toDigits 10 (num / den)).length : Int) - 1
  else
    match (List.range 400).find? fun places => den ≤ num * Nat.pow 10 places with
    | some places => -(places : Int)
    | none => -400

/-- The nearest decimal of a given exponent, of the two around the double, that rounds to it. -/
def Rounding.onGrid? (interval : Rounding) (exponent : Int) : Option Decimal :=
  let up := Nat.pow 10 exponent.toNat
  let down := Nat.pow 10 (-exponent).toNat
  -- Both sides are multiplied by `down`, so the grid step is `up · denominator`.
  let step := up * interval.denominator
  let scaled : Rounding :=
    { interval with
      value := interval.value * down
      low := interval.low * down
      high := interval.high * down }
  let below := scaled.value / step
  let above := below + 1
  let belowFits := scaled.admits (below * step) && below != 0
  let aboveFits := scaled.admits (above * step)
  let belowNearer :=
    let low := scaled.value - below * step
    let high := above * step - scaled.value
    low < high || (low == high && below % 2 == 0)
  if belowFits && (belowNearer || !aboveFits) then some ⟨below, exponent⟩
  else if aboveFits then some ⟨above, exponent⟩
  else none

/-- A decimal without a zero at the end of its digits. -/
def Decimal.trim (decimal : Decimal) : Decimal :=
  if decimal.digits % 10 == 0 then ⟨decimal.digits / 10, decimal.exponent + 1⟩ else decimal

/-- The shortest decimal that rounds to a positive double. Digits of the first grid that has one can
only end with a zero when they are ten, which is a one of the next grid. -/
def shortest (binary : Binary) : Decimal :=
  let interval := Rounding.ofBinary binary
  let top := magnitude interval.value interval.denominator
  let found := (List.range 17).findSome? fun (n : Nat) => interval.onGrid? (top - (n : Int))
  (found.getD ⟨binary.mantissa, binary.exponent⟩).trim

end ConfigRefs.Number
