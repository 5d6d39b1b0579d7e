/-!
# Text: ranges of code points

Unicode properties are tables of code points: ascending ranges (`CodeRanges`), runs with a step
(`CodeRun`) and runs that are moved by a distance (`CodeShift`).
-/

namespace ConfigRefs.Text

/-- Ranges of code points, each with its first and last one, in ascending order. -/
abbrev CodeRanges := List (Nat × Nat)

/-- Whether a code point lies in one of the ranges. The search ends at the first range above it. -/
def CodeRanges.has : CodeRanges → Nat → Bool
  | [], _ => false
  | (first, last) :: rest, code =>
    if code < first then false else code ≤ last || CodeRanges.has rest code

/-- The code points from `first` to `last` that are a multiple of `step` away from `first`. -/
structure CodeRun where
  first : Nat
  last : Nat
  step : Nat

/-- Whether a code point belongs to the run. -/
def CodeRun.has (run : CodeRun) (code : Nat) : Bool :=
  run.first ≤ code && code ≤ run.last && (code - run.first) % run.step == 0

/-- A run of code points with the distance to the code points they are mapped to. -/
structure CodeShift where
  run : CodeRun
  distance : Int

/-- Where the first run that holds a code point moves it. -/
def CodeShift.shifted? (shifts : List CodeShift) (code : Nat) : Option Nat :=
  (shifts.find? (·.run.has code)).map fun shift => ((code : Int) + shift.distance).toNat

end ConfigRefs.Text
