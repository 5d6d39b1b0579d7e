import ConfigRefs.Proofs.Expr.ReadBack
import ConfigRefs.Proofs.Text.Encoding
import Mathlib.Data.List.Chain

/-!
# Expr: what the parts of a template cover

The references of a template may lie in any order and over each other. They are sorted by where they
begin (`sortedByStart_outerReferences`), and the literal parts between them hold the bytes that none of
them covers (`utf8_literalText_partsFrom`), each byte once and in order. No literal part is empty or next
to another one, and each ends where the next reference begins (`assemble_covers`).
-/

namespace ConfigRefs.Expr

open ConfigRefs.Text ConfigRefs.Declaration

/-- The text of the literal parts of a template, as it is read. -/
def literalText : List TemplatePart → List Char
  | [] => []
  | .literal text :: parts => unescapeLiteral text.toList ++ literalText parts
  | .expr _ :: parts => literalText parts

/-- Whether a part is literal text. -/
def isLiteral : TemplatePart → Bool
  | .literal _ => true
  | .expr _ => false

/-- Whether some reference covers the byte at an offset. -/
def covers (references : List Reference) (offset : Nat) : Bool :=
  references.any fun reference => reference.start ≤ offset && offset < reference.stop

/-- The bytes of a piece of text, the first of them at an offset, that no reference covers. -/
def uncovered (references : List Reference) (offset : Nat) (bytes : List UInt8) : List UInt8 :=
  ((bytes.zipIdx offset).filter fun mark => !covers references mark.2).map Prod.fst

/-- References are sorted by where they begin, and those that begin together keep their order. -/
structure SortedByStart (references sorted : List Reference) : Prop where
  perm : sorted.Perm references
  pairwise : sorted.Pairwise fun a b => a.start ≤ b.start
  filter_eq (start : Nat) : (sorted.filter fun reference => reference.start = start)
    = references.filter fun reference => reference.start = start

/-- References begin and end between characters, and do not end before they begin. -/
def AreRanges (input : List Char) (references : List Reference) : Prop :=
  ∀ reference ∈ references, reference.start ≤ reference.stop ∧
    IsBoundary input reference.start ∧ IsBoundary input reference.stop

/-! ### Sorting -/

theorem sortedByStart_outerReferences (references : List Reference) (scope : Scope) :
    SortedByStart (references.filter fun reference => !scope.contains reference.id)
      (outerReferences references scope) := by
  have htrans : ∀ a b c : Reference, decide (a.start ≤ b.start) = true →
      decide (b.start ≤ c.start) = true → decide (a.start ≤ c.start) = true := by
    intro a b c hab hbc
    simp only [decide_eq_true_eq] at hab hbc ⊢
    omega
  have htotal : ∀ a b : Reference,
      (decide (a.start ≤ b.start) || decide (b.start ≤ a.start)) = true := by
    intro a b
    simp only [Bool.or_eq_true, decide_eq_true_eq]
    omega
  generalize hkept : (references.filter fun reference => !scope.contains reference.id) = kept
  have hperm : (outerReferences references scope).Perm kept := by
    rw [outerReferences, hkept]
    exact List.mergeSort_perm _ _
  refine ⟨hperm, ?_, fun start => ?_⟩
  · rw [outerReferences]
    exact (List.pairwise_mergeSort htrans htotal _).imp of_decide_eq_true
  · -- references that begin together are in order already, so sorting keeps them a sublist
    have hsublist : (kept.filter fun reference => reference.start = start).Sublist
        (outerReferences references scope) := by
      rw [outerReferences, hkept]
      refine List.sublist_mergeSort htrans htotal ?_ List.filter_sublist
      refine List.pairwise_of_forall_mem_list fun a ha b hb => ?_
      have hstarta := (List.mem_filter.1 ha).2
      have hstartb := (List.mem_filter.1 hb).2
      simp only [decide_eq_true_eq] at hstarta hstartb ⊢
      omega
    have hfilter := hsublist.filter fun reference => decide (reference.start = start)
    rw [List.filter_filter] at hfilter
    simp only [Bool.and_self] at hfilter
    exact (hfilter.eq_of_length (hperm.symm.filter _).length_eq).symm

/-! ### Bytes that no reference covers -/

section Uncovered

variable {references : List Reference} {offset : Nat}

theorem uncovered_append (references : List Reference) (offset : Nat) (a b : List UInt8) :
    uncovered references offset (a ++ b)
      = uncovered references offset a ++ uncovered references (offset + a.length) b := by
  rw [uncovered, List.zipIdx_append, List.filter_append, List.map_append, uncovered, uncovered]

theorem uncovered_eq_self {bytes : List UInt8} (h : ∀ position, offset ≤ position →
    position < offset + bytes.length → covers references position = false) :
    uncovered references offset bytes = bytes := by
  rw [uncovered, List.filter_eq_self.2, List.zipIdx_map_fst]
  intro mark hmark
  obtain ⟨hle, hlt, -⟩ := List.mem_zipIdx hmark
  rw [h mark.2 hle hlt]
  rfl

theorem uncovered_eq_nil {bytes : List UInt8} (h : ∀ position, offset ≤ position →
    position < offset + bytes.length → covers references position = true) :
    uncovered references offset bytes = [] := by
  rw [uncovered, List.filter_eq_nil_iff.2, List.map_nil]
  intro mark hmark
  obtain ⟨hle, hlt, -⟩ := List.mem_zipIdx hmark
  rw [h mark.2 hle hlt]
  exact Bool.false_ne_true

theorem uncovered_congr {others : List Reference} (bytes : List UInt8)
    (h : ∀ position, offset ≤ position → covers references position = covers others position) :
    uncovered references offset bytes = uncovered others offset bytes := by
  rw [uncovered, uncovered, List.filter_congr]
  intro mark hmark
  rw [h mark.2 (List.mem_zipIdx hmark).1]

/-- The bytes between two boundaries of a text that no reference covers. -/
def uncoveredBetween (references : List Reference) (input : List Char) (start stop : Nat) :
    List UInt8 :=
  uncovered references start (utf8 (slice input start stop))

variable {input : List Char} {start middle stop : Nat}

theorem length_utf8_slice (hle : start ≤ stop) (hstart : IsBoundary input start)
    (hstop : IsBoundary input stop) :
    start + (utf8 (slice input start stop)).length = stop := by
  rw [length_utf8, byteLength_slice hle hstart hstop]
  omega

theorem uncoveredBetween_append (references : List Reference) (h : start ≤ middle)
    (h' : middle ≤ stop) (hstart : IsBoundary input start) (hmiddle : IsBoundary input middle)
    (hstop : IsBoundary input stop) :
    uncoveredBetween references input start stop
      = uncoveredBetween references input start middle
        ++ uncoveredBetween references input middle stop := by
  rw [uncoveredBetween, ← slice_append_slice h h' hstart hmiddle hstop, utf8_append,
    uncovered_append, length_utf8_slice h hstart hmiddle]
  rfl

end Uncovered

/-! ### Literal parts -/

section Parts

variable {input : List Char}

theorem literalText_append (front back : List TemplatePart) :
    literalText (front ++ back) = literalText front ++ literalText back := by
  induction front with
  | nil => rfl
  | cons part front ih =>
    cases part with
    | literal text => rw [List.cons_append, literalText, literalText, ih, List.append_assoc]
    | expr expr => exact ih

/-- The literal part up to a boundary is the text up to it, be there any or not. -/
theorem literalText_literalBetween {start stop : Nat} (hstart : IsBoundary input start) :
    literalText (literalBetween input start stop) = slice input start (max start stop) := by
  unfold literalBetween
  split
  · next hlt =>
    rw [literalText, literalText, List.append_nil, String.toList_ofList,
      unescapeLiteral_escapeLiteral, Nat.max_eq_right (Nat.le_of_lt hlt)]
  · next hle =>
    rw [literalText, Nat.max_eq_left (Nat.not_lt.1 hle), slice_eq_nil hstart (Nat.le_refl _)]

/-- **The literal parts hold the bytes that no reference covers**, each once and in order. -/
theorem utf8_literalText_partsFrom : ∀ {references : List Reference} {offset : Nat},
    IsBoundary input offset → AreRanges input references →
      references.Pairwise (fun a b => a.start ≤ b.start) →
        utf8 (literalText (partsFrom input offset references))
          = uncoveredBetween references input offset (byteLength input)
  | [], offset, hoffset, _, _ => by
    rw [partsFrom, literalText_literalBetween hoffset, Nat.max_eq_right hoffset.le,
      uncoveredBetween, uncovered_eq_self fun _ _ _ => rfl]
  | reference :: rest, offset, hoffset, hranges, hpairwise => by
    obtain ⟨hle, hstart, hstop⟩ := hranges reference List.mem_cons_self
    have hend := isBoundary_byteLength input
    have hfirst := hoffset.max hstart
    have hsecond := hoffset.max hstop
    have ih := utf8_literalText_partsFrom hsecond
      (fun other hother => hranges other (List.mem_cons_of_mem reference hother)) hpairwise.of_cons
    rw [partsFrom, literalText_append, literalText, utf8_append,
      literalText_literalBetween hoffset, ih,
      uncoveredBetween_append _ (Nat.le_max_left _ _) hfirst.le hoffset hfirst hend,
      uncoveredBetween_append _ (by omega) hsecond.le hfirst hsecond hend]
    -- before the reference nothing is covered, since all others begin behind it
    have hbefore : uncoveredBetween (reference :: rest) input offset (max offset reference.start)
        = utf8 (slice input offset (max offset reference.start)) := by
      refine uncovered_eq_self fun position hposition hlt => ?_
      rw [length_utf8_slice (Nat.le_max_left _ _) hoffset hfirst] at hlt
      simp only [covers, List.any_eq_false, Bool.and_eq_true, decide_eq_true_eq, not_and]
      intro other hother hbegun
      rcases List.mem_cons.1 hother with rfl | hother
      · omega
      · have := List.rel_of_pairwise_cons hpairwise hother
        omega
    have hinside : uncoveredBetween (reference :: rest) input (max offset reference.start)
        (max offset reference.stop) = [] := by
      refine uncovered_eq_nil fun position hposition hlt => ?_
      rw [length_utf8_slice (by omega) hfirst hsecond] at hlt
      simp only [covers, List.any_cons, Bool.or_eq_true, Bool.and_eq_true, decide_eq_true_eq]
      exact Or.inl ⟨by omega, by omega⟩
    have hbehind : uncoveredBetween (reference :: rest) input (max offset reference.stop)
          (byteLength input)
        = uncoveredBetween rest input (max offset reference.stop) (byteLength input) := by
      refine uncovered_congr _ fun position hposition => ?_
      have hpassed : ¬ position < reference.stop := by omega
      simp [covers, hpassed]
    rw [hbefore, hinside, hbehind, List.nil_append]

theorem escapeLiteral_ne_nil {text : List Char} (h : text ≠ []) : escapeLiteral text ≠ [] := by
  fun_cases escapeLiteral text with
  | case1 => exact absurd rfl h
  | case2 | case3 | case4 | case5 => exact List.cons_ne_nil _ _

theorem ne_empty_of_mem_literalBetween {start stop : Nat} (hstart : IsBoundary input start)
    (hstop : IsBoundary input stop) {text : String}
    (h : .literal text ∈ literalBetween input start stop) : text ≠ "" := by
  unfold literalBetween at h
  split at h
  · next hlt =>
    obtain rfl := TemplatePart.literal.inj (List.mem_singleton.1 h)
    have hlength := byteLength_slice (Nat.le_of_lt hlt) hstart hstop
    rw [Ne, String.ofList_eq_empty_iff]
    refine escapeLiteral_ne_nil fun hnil => ?_
    rw [hnil, byteLength_nil] at hlength
    omega
  · cases h

theorem ne_empty_of_mem_partsFrom {references : List Reference} {offset : Nat}
    (hoffset : IsBoundary input offset) (hranges : AreRanges input references) {text : String}
    (h : .literal text ∈ partsFrom input offset references) : text ≠ "" := by
  induction references generalizing offset with
  | nil => exact ne_empty_of_mem_literalBetween hoffset (isBoundary_byteLength input) h
  | cons reference references ih =>
    obtain ⟨-, hstart, hstop⟩ := hranges reference List.mem_cons_self
    rw [partsFrom, List.mem_append, List.mem_cons] at h
    rcases h with h | h | h
    · exact ne_empty_of_mem_literalBetween hoffset hstart h
    · cases h
    · exact ih (hoffset.max hstop)
        (fun other hother => hranges other (List.mem_cons_of_mem reference hother)) h

/-- Of two parts one is an expression. -/
def Separated (a b : TemplatePart) : Prop := isLiteral a = false ∨ isLiteral b = false

theorem isChain_partsFrom (references : List Reference) (offset : Nat) :
    (partsFrom input offset references).IsChain Separated := by
  have hexpr : ∀ {parts : List TemplatePart} (expr : Expr), parts.IsChain Separated →
      (TemplatePart.expr expr :: parts).IsChain Separated := fun expr hparts =>
    List.isChain_cons.2 ⟨fun _ _ => Or.inl rfl, hparts⟩
  induction references generalizing offset with
  | nil =>
    unfold partsFrom literalBetween
    split
    · exact List.isChain_singleton _
    · exact List.isChain_nil
  | cons reference references ih =>
    unfold partsFrom literalBetween
    split
    · refine List.isChain_cons.2 ⟨fun part hpart => ?_, hexpr _ (ih _)⟩
      obtain rfl := Option.some.inj hpart
      exact Or.inr rfl
    · exact hexpr _ (ih _)

/-- In front of a literal part there is none. -/
theorem opensLiteral_of_isChain {front back : List TemplatePart} {text : String}
    (h : (front ++ .literal text :: back).IsChain Separated) : OpensLiteral front := by
  rcases List.eq_nil_or_concat front with rfl | ⟨before, last, rfl⟩
  · exact Or.inl rfl
  · rw [List.concat_eq_append] at h ⊢
    cases last with
    | expr expr => exact Or.inr ⟨before, expr, rfl⟩
    | literal other =>
      obtain h | h := (List.isChain_append.1 h).2.2 (.literal other) (by simp) (.literal text) rfl
      · cases h
      · cases h

theorem expressions_partsFrom (references : List Reference) (offset : Nat) :
    expressions (partsFrom input offset references) = references.map ofReference := by
  induction references generalizing offset with
  | nil => exact expressions_literalBetween input offset _
  | cons reference references ih =>
    rw [partsFrom, expressions_append, expressions_literalBetween, List.nil_append, expressions, ih,
      List.map_cons]

/-- A literal part before an expression is the text up to its reference, from where those before it
end. -/
theorem exists_of_literal_expr {references : List Reference} (hranges : AreRanges input references)
    {front back : List TemplatePart} {text : String} {expr : Expr}
    (h : partsFrom input 0 references = front ++ .literal text :: .expr expr :: back) :
    ∃ reference, references[(expressions front).length]? = some reference ∧
      expr = ofReference reference ∧
      ∃ start, StandsAt input start (unescapeLiteral text.toList) ∧
        start + byteLength (unescapeLiteral text.toList) = reference.start := by
  have hopens := opensLiteral_of_isChain (h ▸ isChain_partsFrom references 0)
  obtain ⟨left, right, rfl, hleft, hback⟩ := exists_of_partsFrom_eq_append hopens h
  have hcovered : IsBoundary input (coveredEnd 0 left) :=
    isBoundary_coveredEnd (isBoundary_zero input) fun reference hreference =>
      (hranges reference (List.mem_append_left right hreference)).2.2
  cases right with
  | nil =>
    -- behind the last expression there is only one part
    rw [partsFrom, literalBetween] at hback
    split at hback <;> cases hback
  | cons reference rest =>
    have hstart := (hranges reference (List.mem_append_right left List.mem_cons_self)).2.1
    rw [partsFrom, literalBetween] at hback
    split at hback
    · next hlt =>
      obtain ⟨hliteral, hexpr⟩ := List.cons.inj hback
      obtain rfl := TemplatePart.literal.inj hliteral
      refine ⟨reference, ?_, TemplatePart.expr.inj (List.cons.inj hexpr).1, coveredEnd 0 left, ?_⟩
      · rw [hleft, List.length_map, List.getElem?_append_right (Nat.le_refl _), Nat.sub_self]
        rfl
      · rw [String.toList_ofList, unescapeLiteral_escapeLiteral]
        refine ⟨hcovered.standsAt_slice hstart, ?_⟩
        rw [byteLength_slice (Nat.le_of_lt hlt) hcovered hstart]
        omega
    · cases hback

end Parts

/-! ### Templates -/

/-- Parts cover a text with references, sorted by where they begin. -/
structure CoversText (input : List Char) (sorted : List Reference) (parts : List TemplatePart) :
    Prop where
  expressions_eq : expressions parts = sorted.map ofReference
  ne_empty {text : String} : .literal text ∈ parts → text ≠ ""
  isChain : parts.IsChain Separated
  utf8_eq : utf8 (literalText parts) = uncovered sorted 0 (utf8 input)
  ends {front back : List TemplatePart} {text : String} {expr : Expr} :
    parts = front ++ .literal text :: .expr expr :: back →
      ∃ reference, sorted[(expressions front).length]? = some reference ∧
        expr = ofReference reference ∧
        ∃ start, StandsAt input start (unescapeLiteral text.toList) ∧
          start + byteLength (unescapeLiteral text.toList) = reference.start

theorem coversText_partsFrom {input : List Char} {references : List Reference}
    (hranges : AreRanges input references)
    (hpairwise : references.Pairwise fun a b => a.start ≤ b.start) :
    CoversText input references (partsFrom input 0 references) where
  expressions_eq := expressions_partsFrom references 0
  ne_empty := ne_empty_of_mem_partsFrom (isBoundary_zero input) hranges
  isChain := isChain_partsFrom references 0
  utf8_eq := by
    rw [utf8_literalText_partsFrom (isBoundary_zero input) hranges hpairwise, uncoveredBetween,
      slice_zero]
  ends := exists_of_literal_expr hranges

/-- **A template covers its text.** Its expressions are those of the references that are not to loop
variables, sorted by where they begin, and its literal parts hold each byte that none of these covers,
once and in order. The references may lie in any order and over each other. -/
theorem assemble_covers {input : String} {references : List Reference} {scope : Scope}
    {parts : List TemplatePart} (hranges : AreRanges input.toList references)
    (h : assemble input references scope = .template parts) :
    ∃ sorted, SortedByStart (references.filter fun reference => !scope.contains reference.id) sorted ∧
      CoversText input.toList sorted parts := by
  have hsorted := sortedByStart_outerReferences references scope
  refine ⟨_, hsorted, ?_⟩
  rw [eq_partsFrom_of_assemble h]
  exact coversText_partsFrom (fun reference hreference =>
    hranges reference (mem_of_mem_outerReferences hreference)) hsorted.pairwise

/-- References out of order and over each other, one of them empty, one given twice and one to a loop
variable, in a text with characters that are escaped. -/
theorem assemble_covers_overlapping :
    let input := "a\x60b$\x7bcdé\\"
    let references : List Reference := [⟨6, 9, "net.b", "net.b.id", false⟩,
      ⟨2, 2, "var.e", "var.e", false⟩, ⟨5, 7, "var.a", "var.a", true⟩,
      ⟨0, 10, "each", "each.key", false⟩, ⟨5, 7, "var.a", "var.a", false⟩]
    let parts : List TemplatePart := [.literal "a\\\x60", .expr (.identifier "e"),
      .literal "b\\$\x7b", .expr (.member (.identifier "a") "fqn"), .expr (.identifier "a"),
      .expr (.member (.identifier "netB") "id"), .literal "\\\\"]
    AreRanges input.toList references ∧
      assemble input references ⟨["each"]⟩ = .template parts ∧
      ∃ sorted, SortedByStart (references.filter fun reference => reference.id != "each") sorted ∧
        CoversText input.toList sorted parts := by
  intro input references parts
  have hranges : AreRanges input.toList references := by
    unfold AreRanges
    decide
  have hsorted : outerReferences references ⟨["each"]⟩ = [⟨2, 2, "var.e", "var.e", false⟩,
      ⟨5, 7, "var.a", "var.a", true⟩, ⟨5, 7, "var.a", "var.a", false⟩,
      ⟨6, 9, "net.b", "net.b.id", false⟩] := by
    unfold references
    simp [outerReferences, Scope.contains, List.mergeSort,
      List.MergeSort.Internal.splitInTwo_fst, List.MergeSort.Internal.splitInTwo_snd]
  have hassemble : assemble input references ⟨["each"]⟩ = .template parts := by
    rw [assemble, hsorted]
    unfold input parts
    with_unfolding_all rfl
  exact ⟨hranges, hassemble, assemble_covers hranges hassemble⟩

end ConfigRefs.Expr
