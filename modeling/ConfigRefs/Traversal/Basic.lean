import ConfigRefs.Traversal.Comprehension
import ConfigRefs.Token.Lexer
import ConfigRefs.Interpolation.Body
import ConfigRefs.Text.Dotted

/-!
# Traversal: the chains of names in a text

A traversal is a name followed by any number of steps, each a dot and a name or a number. `chains`
finds the traversals of one interpolation body, `traversals` those of a whole input.
-/

namespace ConfigRefs

open ConfigRefs.Text

/-- A step of a traversal. -/
structure Segment where
  text : String
  start : Nat
  stop : Nat
  numeric : Bool
  deriving DecidableEq, Repr

/-- A chain of names: its first segment, the others, and the kind of the token behind the chain. -/
structure Traversal where
  head : Segment
  steps : List Segment
  followedBy : Option Token.Kind
  deriving DecidableEq, Repr

namespace Traversal

/-- All segments of a traversal. -/
def segments (traversal : Traversal) : List Segment := traversal.head :: traversal.steps

/-- The texts of the segments. -/
def texts (traversal : Traversal) : List String := traversal.segments.map Segment.text

/-- The traversal as it is written, without white space. -/
def render (traversal : Traversal) : String := joinDots traversal.texts

/-- The byte range from the first segment to the last. -/
def span (traversal : Traversal) : Span :=
  ⟨traversal.head.start, (traversal.steps.getLastD traversal.head).stop⟩

/-- The segment that a token makes. -/
def segmentOf (token : Token) : Segment :=
  ⟨String.ofList token.text, token.start, token.stop, token.kind == .number⟩

/-- Whether a token that is not set aside can be a step behind a dot. -/
def isStep (mark : Token × Bool) : Bool :=
  (mark.1.kind == .ident || mark.1.kind == .number) && !mark.2

/-- The steps that follow a name, and the tokens behind them. -/
def splitSteps : List (Token × Bool) → List Segment × List (Token × Bool)
  | dot :: name :: rest =>
    if dot.1.kind == .dot && isStep name then
      let (steps, behind) := splitSteps rest
      (segmentOf name.1 :: steps, behind)
    else ([], dot :: name :: rest)
  | rest => ([], rest)

theorem length_splitSteps (tokens : List (Token × Bool)) :
    (splitSteps tokens).2.length ≤ tokens.length := by
  fun_induction splitSteps tokens with
  | case1 dot name rest hstep steps behind hsplit ih =>
    rw [hsplit] at ih
    exact Nat.le_add_right_of_le (Nat.le_add_right_of_le ih)
  | case2 => exact Nat.le_refl _
  | case3 => exact Nat.le_refl _

/-- The traversals among marked tokens. A chain begins at a name that is not set aside and does not
stand behind a dot. -/
def chainsFrom (afterDot : Bool) : List (Token × Bool) → List Traversal
  | [] => []
  | mark :: rest =>
    if mark.1.kind == .ident && !mark.2 && !afterDot then
      let split := splitSteps rest
      ⟨segmentOf mark.1, split.1, split.2.head?.map (·.1.kind)⟩ :: chainsFrom false split.2
    else chainsFrom (mark.1.kind == .dot) rest
termination_by tokens => tokens.length
decreasing_by
  · have := length_splitSteps rest
    grind
  · grind

/-- The traversals of the tokens of one body. -/
def chains (tokens : List Token) : List Traversal := chainsFrom false (marked tokens)

/-- The traversals of all interpolations of a text. There are none in a text that does not begin with
an interpolation. -/
def traversals (input : String) : List Traversal :=
  match input.toList with
  | '$' :: '\x7b' :: _ =>
    (Interpolation.bodies input.toList).flatMap fun body =>
      chains (Token.tokensFrom body.start body.text)
  | _ => []

end Traversal

end ConfigRefs
