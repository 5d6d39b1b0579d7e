import ConfigRefs.Proofs.Checked.Reference
import ConfigRefs.Proofs.Expr.Restore

/-!
# Checked: assembly

The expression of an input is assembled from the pieces of text between its references. With a check on
the ends of each piece, and with all checks of the steps before, the conversion of every input gives
what the conversion gives (`convert_ofList`): no check ever fails.
-/

namespace ConfigRefs.Checked

open ConfigRefs.Text ConfigRefs.Declaration ConfigRefs.Expr

/-- The literal part between two byte offsets of a text, unless it is empty. -/
def literalBetween (input : List Char) (start stop : Nat) : Option (List TemplatePart) :=
  if start < stop then do
    let literal ← textBetween input start stop
    some [.literal (String.ofList (escapeLiteral literal))]
  else some []

/-- The parts of a text from a byte offset on. -/
def partsFrom (input : List Char) (offset : Nat) : List Reference → Option (List TemplatePart)
  | [] => literalBetween input offset (byteLength input)
  | reference :: rest => do
    let before ← literalBetween input offset reference.start
    let further ← partsFrom input (max offset reference.stop) rest
    some (before ++ .expr (ofReference reference) :: further)

/-- The template of a text with some references. -/
def template (input : String) (references : List Reference) : Option Expr := do
  let parts ← partsFrom input.toList 0 references
  some (.template parts)

/-- The expression of a text with the given references. -/
def assemble (input : String) (references : List Reference) (scope : Scope) : Option Expr :=
  match outerReferences references scope with
  | [] => some (.stringLiteral input)
  | [only] =>
    if isWhole input.toList only then some (ofReference only) else template input [only]
  | several => template input several

/-- The expression of a text, whose references must all be declared or in scope. -/
def convert (input : String) (index : Index) (scope : Scope) : Option (Except ResolveError Expr) := do
  let found ← references input index scope
  match found with
  | .error error => some (.error error)
  | .ok references => do
    let expr ← assemble input references scope
    some (.ok expr)

section Parts

variable {input : List Char}

theorem literalBetween_eq {start stop : Nat} (hstart : IsBoundary input start)
    (hstop : IsBoundary input stop) :
    literalBetween input start stop = some (Expr.literalBetween input start stop) := by
  unfold literalBetween Expr.literalBetween
  by_cases hlt : start < stop
  · rw [if_pos hlt, if_pos hlt, textBetween_eq_slice (Nat.le_of_lt hlt) hstart hstop]
    rfl
  · rw [if_neg hlt, if_neg hlt]

/-- **The checked parts** of a text are its parts, if the references begin and end between
characters. -/
theorem partsFrom_eq : ∀ {references : List Reference} {offset : Nat}, IsBoundary input offset →
    (∀ reference ∈ references, reference.IsPlaced input) →
      partsFrom input offset references = some (Expr.partsFrom input offset references)
  | [], offset, hoffset, _ => literalBetween_eq hoffset (isBoundary_byteLength input)
  | reference :: rest, offset, hoffset, hplaced => by
    obtain ⟨hstart, hstop, -⟩ := hplaced reference List.mem_cons_self
    have hrest := partsFrom_eq (hoffset.max hstop)
      fun other hother => hplaced other (List.mem_cons_of_mem reference hother)
    rw [partsFrom, literalBetween_eq hoffset hstart, hrest, Expr.partsFrom]
    rfl

end Parts

section Conversion

variable {input : String} {index : Index} {scope : Scope} {found : List Reference}

/-- **The checked assembly** of the references of an input is the assembly. -/
theorem assemble_eq (h : ConfigRefs.references input index scope = .ok found) :
    assemble input found scope = some (Expr.assemble input found scope) := by
  have hplaced : ∀ reference ∈ outerReferences found scope, reference.IsPlaced input.toList :=
    fun _ hmem => isPlaced_of_mem_outerReferences h hmem
  have hparts := partsFrom_eq (isBoundary_zero input.toList) hplaced
  unfold assemble Expr.assemble
  generalize outerReferences found scope = outer at hparts ⊢
  rcases outer with _ | ⟨only, _ | ⟨second, more⟩⟩
  · rfl
  · simp only [template, hparts, Option.bind_eq_bind, Option.bind_some]
    split <;> rfl
  · simp only [template, hparts, Option.bind_eq_bind, Option.bind_some]

theorem convert_eq (index : ConsistentIndex) :
    convert input index.toIndex scope = some (Expr.convert input index.toIndex scope) := by
  rw [convert, references_eq, Expr.convert]
  cases hfound : ConfigRefs.references input index.toIndex scope with
  | error error => rfl
  | ok found =>
    simp only [Option.bind_eq_bind, Option.bind_some]
    rw [assemble_eq hfound]
    rfl

end Conversion

/-- **No check of a conversion ever fails**, whatever the input, the known identifiers and the scope
are: every text is cut between characters and inside its length, every position is inside its list, and
no count goes below zero. -/
theorem convert_ofList (input : String) (identifiers : List String) (scope : Scope) :
    convert input (Index.ofList identifiers) scope
      = some (Expr.convert input (Index.ofList identifiers) scope) :=
  convert_eq (.ofList identifiers)

end ConfigRefs.Checked
