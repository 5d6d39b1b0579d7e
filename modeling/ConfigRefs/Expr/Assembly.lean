import ConfigRefs.Expr.OfReference
import ConfigRefs.Reference.Resolution

/-!
# Expr: texts with references

A text without references is a string literal, a text that is one reference and nothing else is the
expression of it, and every other text is a template literal. `assemble` builds the expression from
given references and `convert` finds the references first.
-/

namespace ConfigRefs.Expr

open ConfigRefs.Text ConfigRefs.Declaration

/-- A text as it is written inside a template literal: a backslash, a backtick and the marker of an
interpolation are escaped. -/
def escapeLiteral : List Char → List Char
  | [] => []
  | '\\' :: rest => '\\' :: '\\' :: escapeLiteral rest
  | '\x60' :: rest => '\\' :: '\x60' :: escapeLiteral rest
  | '$' :: '\x7b' :: rest => '\\' :: '$' :: '\x7b' :: escapeLiteral rest
  | c :: rest => c :: escapeLiteral rest

/-- The literal part between two byte offsets of a text, unless it is empty. -/
def literalBetween (input : List Char) (start stop : Nat) : List TemplatePart :=
  if start < stop then [.literal (String.ofList (escapeLiteral (slice input start stop)))] else []

/-- The parts of a text from a byte offset on: the references in the given order with the literal
text between them. -/
def partsFrom (input : List Char) (offset : Nat) : List Reference → List TemplatePart
  | [] => literalBetween input offset (byteLength input)
  | reference :: rest =>
    literalBetween input offset reference.start
      ++ .expr (ofReference reference) :: partsFrom input (max offset reference.stop) rest

/-- The references that are not to loop variables, in the order of their beginnings. -/
def outerReferences (references : List Reference) (scope : Scope) : List Reference :=
  (references.filter fun reference => !scope.contains reference.id).mergeSort
    fun a b => a.start ≤ b.start

/-- Whether a reference is all of an interpolation that is all of a text. -/
def isWhole (input : List Char) (reference : Reference) : Bool :=
  reference.start == 2 && reference.stop == byteLength input - 1 && !reference.useFqn

/-- The expression of a text with the given references. -/
def assemble (input : String) (references : List Reference) (scope : Scope) : Expr :=
  match outerReferences references scope with
  | [] => .stringLiteral input
  | [only] =>
    if isWhole input.toList only then ofReference only
    else .template (partsFrom input.toList 0 [only])
  | several => .template (partsFrom input.toList 0 several)

/-- The expression of a text, whose references must all be declared or in scope. -/
def convert (input : String) (index : Index) (scope : Scope) : Except ResolveError Expr :=
  (assemble input · scope) <$> references input index scope

end ConfigRefs.Expr
