import ConfigRefs.Interpolation.Nesting
import ConfigRefs.Text.Bytes

/-!
# Interpolation: the bodies in a text

`bodies` finds the interpolations of a text, each with the byte offset at which its body begins, and
`interpolations` lists the byte ranges of the bodies.
-/

namespace ConfigRefs.Interpolation

open ConfigRefs.Text

/-- The text between the marker of an interpolation and the brace that closes it, or the end of the
whole text when nothing closes it. -/
structure Body where
  start : Nat
  text : List Char
  closed : Bool
  deriving DecidableEq, Repr

/-- The byte range of a body. -/
def Body.span (body : Body) : Span := ⟨body.start, body.start + byteLength body.text⟩

/-- The bodies of the interpolations of a text that begins at a byte offset. A dollar sign in front
of the marker escapes it. -/
def bodiesFrom (offset : Nat) : List Char → List Body
  | [] => []
  | '$' :: '$' :: '\x7b' :: rest => bodiesFrom (offset + 3) rest
  | '$' :: '\x7b' :: rest =>
    match h : body? rest with
    | none => [⟨offset + 2, rest, false⟩]
    | some (inside, behind) =>
      ⟨offset + 2, inside, true⟩ :: bodiesFrom (offset + 2 + byteLength inside + 1) behind
  | c :: rest => bodiesFrom (offset + c.utf8Size) rest
termination_by text => text.length
decreasing_by
  · simp_wf
    omega
  · have := length_le_of_body? h
    simp_wf
    omega
  · simp_wf

/-- The bodies of the interpolations of a text. -/
def bodies (text : List Char) : List Body := bodiesFrom 0 text

/-- The byte ranges of the bodies of the interpolations of an input. -/
def interpolations (input : String) : List Span := (bodies input.toList).map Body.span

end ConfigRefs.Interpolation
