/-!
# Number: finite binary fractions

A double is a sign, a natural number and a power of two. `Binary.ofFloat` takes a finite double apart.
-/

namespace ConfigRefs.Number

/-- A number `±mantissa · 2 ^ exponent`. -/
structure Binary where
  negative : Bool
  mantissa : Nat
  exponent : Int
  deriving DecidableEq, Repr

namespace Binary

/-- The least exponent of a double. -/
def leastExponent : Int := -1074

/-- The mantissa at which the doubles of one exponent begin. -/
def leastMantissa : Nat := Nat.pow 2 52

/-- The parts of a finite double. -/
def ofFloat (value : Float) : Binary :=
  let bits := value.toBits.toNat
  let fraction := bits % Nat.pow 2 52
  let biased : Nat := bits / Nat.pow 2 52 % Nat.pow 2 11
  { negative := bits / Nat.pow 2 63 == 1
    mantissa := if biased == 0 then fraction else Nat.pow 2 52 + fraction
    exponent := if biased == 0 then leastExponent else leastExponent + (biased : Int) - 1 }

/-- The whole number that a binary fraction is, if it is one. -/
def toInt? (binary : Binary) : Option Int :=
  let signed (n : Nat) : Int := if binary.negative then -(n : Int) else n
  match binary.exponent with
  | .ofNat up => some (signed (binary.mantissa * Nat.pow 2 up))
  | .negSucc down =>
    if binary.mantissa % Nat.pow 2 (down + 1) == 0 then
      some (signed (binary.mantissa / Nat.pow 2 (down + 1)))
    else none

end Binary

end ConfigRefs.Number
