import ConfigRefs.Token.Basic

/-!
# Traversal: comprehensions

A comprehension is a bracket followed by the word `for`, loop variables, the word `in`, a collection,
a colon and a result. Only its collection names things of the surroundings: the tokens from `for` to
`in` and those from the colon to the closing bracket are set aside. `marked` gives each token of a
body with whether it is set aside.
-/

namespace ConfigRefs.Traversal

/-- The tokens before the bracket that closes the group they stand in, each with the number of
brackets of the group that are open around it, `depth` being open at the first one. -/
def group (depth : Nat) : List Token → List (Token × Nat)
  | [] => []
  | token :: rest =>
    if token.kind.opens then (token, depth) :: group (depth + 1) rest
    else if token.kind.closes then
      match depth with
      | 0 => []
      | outer + 1 => (token, outer) :: group outer rest
    else (token, depth) :: group depth rest

/-- Where the parts of a comprehension lie, counted from the token behind the word `for`. -/
structure Clause where
  keyword : Nat
  colon : Nat
  close : Nat
  deriving DecidableEq, Repr

/-- The clause that the tokens behind the word `for` form: the first `in` outside of all brackets,
the first colon outside of all brackets behind it, and the end of the group. -/
def clause? (tokens : List Token) : Option Clause := do
  let inner := group 0 tokens
  let keyword ← inner.findIdx? fun (token, depth) => depth == 0 && token.isWord "in"
  let colon ← (inner.drop (keyword + 1)).findIdx? fun (token, depth) =>
    depth == 0 && token.kind == .colon
  return ⟨keyword, keyword + 1 + colon, inner.length⟩

/-- Whether a comprehension may begin behind a token. -/
def opensComprehension (token : Token) : Bool :=
  token.kind == .openBracket || token.kind == .openBrace

/-- Positions from `first` up to but not with `stop`. -/
abbrev Interval := Nat × Nat

/-- The positions that the comprehensions of a body set aside, the first token being at `position`
and `previous` the one before it. -/
def setAsideFrom (position : Nat) (previous : Option Token) : List Token → List Interval
  | [] => []
  | token :: rest =>
    let here :=
      if previous.any opensComprehension && token.isWord "for" then
        match clause? rest with
        | some clause =>
          [(position, position + clause.keyword + 2),
            (position + 1 + clause.colon, position + 1 + clause.close)]
        | none => []
      else []
    here ++ setAsideFrom (position + 1) (some token) rest

/-- The tokens of a body, each with whether a comprehension sets it aside. -/
def marked (tokens : List Token) : List (Token × Bool) :=
  let intervals := setAsideFrom 0 none tokens
  tokens.zipIdx.map fun (token, position) =>
    (token, intervals.any fun (first, stop) => first ≤ position && position < stop)

end ConfigRefs.Traversal
