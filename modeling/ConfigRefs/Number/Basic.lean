import ConfigRefs.Number.Shortest

/-!
# Number: numbers of configuration values

A number of a configuration value is whole, or a double that has a fraction or is out of the bounds of
whole numbers. `ofFloat` and `normal` make whole doubles whole numbers, and `render` writes a number as
text.
-/

namespace ConfigRefs

/-- A number of a configuration value. -/
inductive Number where
  | integer (value : Int)
  | decimal (value : Float)

namespace Number

/-- The least and the greatest whole number that a configuration value holds. -/
def integerBounds : Int × Int := (-Nat.pow 2 63, Nat.pow 2 64 - 1)

/-- The number of a finite double. -/
def ofFloat (value : Float) : Number :=
  match (Binary.ofFloat value).toInt? with
  | some whole =>
    if integerBounds.1 ≤ whole ∧ whole ≤ integerBounds.2 then .integer whole else .decimal value
  | none => .decimal value

/-- The same number as a whole number if it is one within the bounds. -/
def normal : Number → Number
  | .integer value => .integer value
  | .decimal value => ofFloat value

/-- How doubles are written: without an exponent while the decimal point stands above `lowest` and
not above `highest` places behind the first digit, and with one otherwise, which has a plus sign or
not if it is positive. -/
structure Layout where
  lowest : Int
  highest : Int
  plus : Bool

/-- Doubles are written without an exponent from five zeros behind the point to sixteen digits. -/
def layout : Layout := ⟨-5, 16, false⟩

/-- A positive decimal as text. -/
def Layout.render (layout : Layout) (decimal : Decimal) : String :=
  let digits := Nat.toDigits 10 decimal.digits
  let point : Int := digits.length + decimal.exponent
  let zeros (n : Int) : List Char := List.replicate n.toNat '0'
  String.ofList <|
    if 0 ≤ decimal.exponent && point ≤ layout.highest then
      digits ++ zeros decimal.exponent ++ ['.', '0']
    else if 0 < point && point ≤ layout.highest then
      digits.take point.toNat ++ '.' :: digits.drop point.toNat
    else if layout.lowest < point && point ≤ 0 then
      ['0', '.'] ++ zeros (-point) ++ digits
    else
      let sign := if layout.plus && 1 ≤ point then ['+'] else []
      let exponent := 'e' :: sign ++ (toString (point - 1)).toList
      match digits with
      | [digit] => digit :: exponent
      | digit :: more => digit :: '.' :: more ++ exponent
      | [] => exponent

/-- A number as text. -/
def render (layout : Layout) : Number → String
  | .integer value => toString value
  | .decimal value =>
    let binary := Binary.ofFloat value
    (if binary.negative then "-" else "") ++ layout.render (shortest binary)

end Number

end ConfigRefs
