import ConfigRefs.Proofs.Expr.Restore

/-!
# Expr: reading a rendered template

`readLiteral` reads the source of a template literal up to the backtick that closes it or to the marker
of an interpolation. Escaped text is read as the text when one of the two stands behind it
(`readLiteral_escapeLiteral_append`), and in a rendered template one always does: what is read behind the
opening backtick, or behind the brace that closes an interpolation, is the text between two references
(`assemble_reads_back`).
-/

namespace ConfigRefs.Expr

open ConfigRefs.Text ConfigRefs.Declaration

/-! ### The reader -/

/-- The text that is read from the source of a template literal, and the source that is left when the
reader stops. A backslash makes the next character stand for itself. -/
def readLiteral : List Char → List Char × List Char
  | [] => ([], [])
  | '\\' :: c :: rest => (c :: (readLiteral rest).1, (readLiteral rest).2)
  | '\x60' :: rest => ([], '\x60' :: rest)
  | '$' :: '\x7b' :: rest => ([], '$' :: '\x7b' :: rest)
  | c :: rest => (c :: (readLiteral rest).1, (readLiteral rest).2)

/-- What a reader stops at: the closing backtick or the marker of an interpolation. -/
inductive EndsLiteral : List Char → Prop where
  | backtick (rest : List Char) : EndsLiteral ('\x60' :: rest)
  | marker (rest : List Char) : EndsLiteral ('$' :: '\x7b' :: rest)

section Reader

variable {rest : List Char}

theorem EndsLiteral.readLiteral_eq (h : EndsLiteral rest) : readLiteral rest = ([], rest) := by
  cases h <;> rw [readLiteral]

/-- A character that begins neither an escape nor the end of the literal is read as itself. -/
theorem readLiteral_cons {c : Char} (hescape : c ≠ '\\') (hbacktick : c ≠ '\x60')
    (hmarker : c = '$' → ∀ tail, rest ≠ '\x7b' :: tail) :
    readLiteral (c :: rest) = (c :: (readLiteral rest).1, (readLiteral rest).2) := by
  rw [readLiteral]
  · exact fun d tail hc => (hescape hc).elim
  · exact hbacktick
  · exact fun tail hc htail => hmarker hc tail htail

/-- No escape makes a brace of anything else, and none stands behind the text. -/
theorem escapeLiteral_append_ne (h : EndsLiteral rest) {text : List Char}
    (htext : ∀ tail, text ≠ '\x7b' :: tail) (tail : List Char) :
    escapeLiteral text ++ rest ≠ '\x7b' :: tail := by
  fun_cases escapeLiteral text with
  | case1 => cases h <;> simp
  | case2 | case3 | case4 => simp
  | case5 c text =>
    intro heq
    exact htext text (by rw [(List.cons.inj heq).1])

/-- **Escaped text is read as the text**, and the reader stops behind it. A dollar sign at its end is
read as itself, since no brace follows. -/
theorem readLiteral_escapeLiteral_append (h : EndsLiteral rest) (text : List Char) :
    readLiteral (escapeLiteral text ++ rest) = (text, rest) := by
  fun_induction escapeLiteral text with
  | case1 => exact h.readLiteral_eq
  | case2 text ih => rw [List.cons_append, List.cons_append, readLiteral, ih]
  | case3 text ih => rw [List.cons_append, List.cons_append, readLiteral, ih]
  | case4 text ih =>
    rw [List.cons_append, List.cons_append, readLiteral, List.cons_append,
      readLiteral_cons (by decide) (by decide) (absurd · (by decide)), ih]
  | case5 c text hescape hbacktick hmarker ih =>
    rw [List.cons_append, readLiteral_cons hescape hbacktick, ih]
    -- a dollar sign is not before a brace, be there more text behind it or the end of the literal
    exact fun hc => escapeLiteral_append_ne h fun tail htail => hmarker tail hc htail

end Reader

/-! ### Rendered parts -/

theorem renderParts_append (front back : List TemplatePart) :
    renderParts (front ++ back) = renderParts front ++ renderParts back := by
  induction front with
  | nil => rw [List.nil_append, renderParts, String.empty_append]
  | cons part front ih =>
    cases part with
    | literal text => rw [List.cons_append, renderParts, renderParts, ih, String.append_assoc]
    | expr expr => rw [List.cons_append, renderParts, renderParts, ih, ← String.append_assoc]

theorem toList_render_template (parts : List TemplatePart) :
    (Expr.template parts).render.toList = '\x60' :: ((renderParts parts).toList ++ ['\x60']) := by
  rw [render, String.toList_append, String.toList_append]
  rfl

/-- A literal part is written as the escaped text, also when it is empty and left out. -/
theorem toList_renderParts_literalBetween {input : List Char} {start stop : Nat}
    (hstop : IsBoundary input stop) :
    (renderParts (literalBetween input start stop)).toList
      = escapeLiteral (slice input start stop) := by
  unfold literalBetween
  split
  · rw [renderParts, renderParts, String.append_empty, String.toList_ofList]
  · rw [slice_eq_nil hstop (by omega), renderParts, escapeLiteral]
    rfl

/-! ### Places in a template -/

/-- The expressions among the parts of a template. -/
def expressions : List TemplatePart → List Expr
  | [] => []
  | .literal _ :: parts => expressions parts
  | .expr expr :: parts => expr :: expressions parts

/-- Behind these parts a literal part may stand: they are none, or they end with an expression. -/
def OpensLiteral (front : List TemplatePart) : Prop :=
  front = [] ∨ ∃ before expr, front = before ++ [.expr expr]

/-- The offset behind a beginning of a text and the references in it. -/
def coveredEnd (offset : Nat) (references : List Reference) : Nat :=
  references.foldl (fun offset reference => max offset reference.stop) offset

/-- The offset of the next reference, or of the end of the text. -/
def nextStart (input : List Char) : List Reference → Nat
  | [] => byteLength input
  | reference :: _ => reference.start

/-- The text between the references before a place and those behind it. -/
def gap (input : List Char) (left right : List Reference) : List Char :=
  slice input (coveredEnd 0 left) (nextStart input right)

theorem expressions_append (front back : List TemplatePart) :
    expressions (front ++ back) = expressions front ++ expressions back := by
  induction front with
  | nil => rfl
  | cons part front ih =>
    cases part with
    | literal text => exact ih
    | expr expr => exact congrArg (expr :: ·) ih

theorem expressions_literalBetween (input : List Char) (start stop : Nat) :
    expressions (literalBetween input start stop) = [] := by
  unfold literalBetween
  split <;> rfl

theorem OpensLiteral.of_append_cons {before after : List TemplatePart} {part : TemplatePart}
    (h : OpensLiteral (before ++ part :: after)) : OpensLiteral after := by
  rcases List.eq_nil_or_concat after with rfl | ⟨between, last, rfl⟩
  · exact Or.inl rfl
  · obtain hnil | ⟨front, expr, hfront⟩ := h
    · exact absurd hnil (by simp)
    · rw [List.concat_eq_append, ← List.cons_append, ← List.append_assoc] at hfront
      obtain rfl := List.singleton_inj.1 (List.append_inj' hfront rfl).2
      exact Or.inr ⟨between, expr, List.concat_eq_append⟩

section Places

variable {input : List Char} {front back : List TemplatePart}

/-- Parts that end with an expression do not lie in a literal part. -/
theorem not_literalBetween_eq_append {start stop : Nat} {before behind : List TemplatePart}
    {expr : Expr} : literalBetween input start stop ≠ before ++ [.expr expr] ++ behind := by
  intro heq
  have h := expressions_literalBetween input start stop
  rw [heq, expressions_append, expressions_append] at h
  simp [expressions] at h

/-- **A place in the parts** is a place in the references: the expressions before it are those of the
references before it, and the parts behind it go on where these references end. -/
theorem exists_of_partsFrom_eq_append : ∀ {references : List Reference} {offset : Nat}
    {front : List TemplatePart}, OpensLiteral front →
      partsFrom input offset references = front ++ back →
        ∃ left right, references = left ++ right ∧ expressions front = left.map ofReference ∧
          back = partsFrom input (coveredEnd offset left) right
  | references, offset, _, .inl rfl, h => ⟨[], references, rfl, rfl, h.symm⟩
  | [], offset, _, .inr ⟨before, expr, rfl⟩, h => (not_literalBetween_eq_append h).elim
  | reference :: rest, offset, front, hfront@(.inr ⟨before, expr, hexpr⟩), h => by
    rw [partsFrom] at h
    -- the parts before the place end with an expression, so they reach beyond the first literal part
    rcases List.append_eq_append_iff.1 h with ⟨more, hmore, hrest⟩ | ⟨more, hmore, hrest⟩
    · cases more with
      | nil =>
        rw [hexpr, List.append_nil] at hmore
        exact (not_literalBetween_eq_append (by rw [← hmore, List.append_nil])).elim
      | cons part more =>
        obtain ⟨rfl, hparts⟩ := List.cons.inj hrest
        rw [hmore] at hfront
        obtain ⟨left, right, rfl, hleft, rfl⟩ :=
          exists_of_partsFrom_eq_append hfront.of_append_cons hparts
        refine ⟨reference :: left, right, rfl, ?_, rfl⟩
        rw [hmore, expressions_append, expressions_literalBetween, List.nil_append, expressions,
          hleft, List.map_cons]
    · rw [hexpr] at hmore
      exact (not_literalBetween_eq_append hmore).elim

/-- What follows a place is the literal part between the references, and then the next of them. -/
theorem exists_partsFrom_eq (offset : Nat) (right : List Reference) :
    ∃ further, partsFrom input offset right
        = literalBetween input offset (nextStart input right) ++ further ∧
      further.head? = right.head?.map fun reference => .expr (ofReference reference) := by
  cases right with
  | nil => exact ⟨[], (List.append_nil _).symm, rfl⟩
  | cons reference rest => exact ⟨_, rfl, rfl⟩

theorem isBoundary_coveredEnd {offset : Nat} (hoffset : IsBoundary input offset)
    {references : List Reference}
    (h : ∀ reference ∈ references, IsBoundary input reference.stop) :
    IsBoundary input (coveredEnd offset references) := by
  induction references generalizing offset with
  | nil => exact hoffset
  | cons reference references ih =>
    exact ih (hoffset.max (h reference List.mem_cons_self))
      fun other hother => h other (List.mem_cons_of_mem reference hother)

theorem isBoundary_nextStart {references : List Reference}
    (h : ∀ reference ∈ references, IsBoundary input reference.start) :
    IsBoundary input (nextStart input references) := by
  cases references with
  | nil => exact isBoundary_byteLength input
  | cons reference references => exact h reference List.mem_cons_self

/-- In a rendered template the next expression or the closing backtick ends a literal. -/
theorem endsLiteral_renderParts {further : List TemplatePart} {next : Option Reference}
    (h : further.head? = next.map fun reference => .expr (ofReference reference)) :
    EndsLiteral ((renderParts further).toList ++ ['\x60']) := by
  cases further with
  | nil =>
    rw [renderParts]
    exact .backtick []
  | cons part further =>
    cases next with
    | none => cases h
    | some reference =>
      obtain rfl := Option.some.inj h
      rw [renderParts, String.append_assoc, String.append_assoc, String.toList_append]
      exact .marker _

end Places

/-! ### Reading a template -/

section Template

variable {input : String} {references : List Reference} {scope : Scope} {parts : List TemplatePart}

theorem mem_of_mem_outerReferences {reference : Reference}
    (h : reference ∈ outerReferences references scope) : reference ∈ references :=
  (List.mem_filter.1 (List.mem_mergeSort.1 h)).1

/-- The parts of a template are those of the references that are not to loop variables. -/
theorem eq_partsFrom_of_assemble (h : assemble input references scope = .template parts) :
    parts = partsFrom input.toList 0 (outerReferences references scope) := by
  unfold assemble at h
  generalize outerReferences references scope = outer at h ⊢
  rcases outer with _ | ⟨only, _ | ⟨second, more⟩⟩
  · cases h
  · rcases ofReference_eq only with ⟨name, hexpr⟩ | ⟨object, property, hexpr⟩ <;>
    · simp only [hexpr] at h
      split at h
      · cases h
      · exact (Expr.template.inj h).symm
  · exact (Expr.template.inj h).symm

/-- **A rendered template can be read back.** Behind its opening backtick and behind the brace that
closes any of its expressions a reader reads the text between the references before the place and those
behind it, and stops at the marker of the next expression or at the closing backtick. The references
may lie in any order and over each other. -/
theorem assemble_reads_back {front back : List TemplatePart}
    (h : assemble input references scope = .template parts)
    (hvalid : ∀ reference ∈ references,
      IsBoundary input.toList reference.start ∧ IsBoundary input.toList reference.stop)
    (hparts : parts = front ++ back) (hfront : OpensLiteral front) :
    ∃ left right further, outerReferences references scope = left ++ right ∧
      expressions front = left.map ofReference ∧
      back = literalBetween input.toList (coveredEnd 0 left) (nextStart input.toList right) ++ further ∧
      further.head? = right.head?.map (fun reference => .expr (ofReference reference)) ∧
      StandsAt input.toList (coveredEnd 0 left) (gap input.toList left right) ∧
      (Expr.template parts).render.toList
        = '\x60' :: (renderParts front).toList ++ ((renderParts back).toList ++ ['\x60']) ∧
      readLiteral ((renderParts back).toList ++ ['\x60'])
        = (gap input.toList left right, (renderParts further).toList ++ ['\x60']) := by
  rw [eq_partsFrom_of_assemble h] at hparts
  obtain ⟨left, right, houter, hleft, rfl⟩ := exists_of_partsFrom_eq_append hfront hparts
  obtain ⟨further, hback, hnext⟩ := exists_partsFrom_eq (coveredEnd 0 left) right
  have hmem : ∀ reference ∈ left ++ right, reference ∈ references := fun reference hreference =>
    mem_of_mem_outerReferences (houter ▸ hreference)
  have hstart : IsBoundary input.toList (coveredEnd 0 left) :=
    isBoundary_coveredEnd (isBoundary_zero _) fun reference hreference =>
      (hvalid reference (hmem reference (List.mem_append_left right hreference))).2
  have hstop : IsBoundary input.toList (nextStart input.toList right) :=
    isBoundary_nextStart fun reference hreference =>
      (hvalid reference (hmem reference (List.mem_append_right left hreference))).1
  refine ⟨left, right, further, houter, hleft, hback, hnext, hstart.standsAt_slice hstop, ?_, ?_⟩
  · rw [toList_render_template, eq_partsFrom_of_assemble h, hparts, renderParts_append,
      String.toList_append, List.append_assoc, List.cons_append]
  · rw [hback, renderParts_append, String.toList_append, toList_renderParts_literalBetween hstop,
      List.append_assoc, readLiteral_escapeLiteral_append (endsLiteral_renderParts hnext), gap]

end Template

/-- References out of order, two of them at one place, and between them a text that begins with a brace
and ends with a backslash and a dollar sign. -/
theorem assemble_reads_back_mixed :
    let input := "a\x7b\\$b\x60"
    let references : List Reference := [⟨4, 5, "net.b", "net.b.id", false⟩,
      ⟨0, 6, "each", "each.key", false⟩, ⟨0, 1, "var.a", "var.a", false⟩,
      ⟨0, 1, "var.a", "var.a", true⟩]
    let front : List TemplatePart :=
      [.expr (.identifier "a"), .expr (.member (.identifier "a") "fqn")]
    let back : List TemplatePart :=
      [.literal "\x7b\\\\$", .expr (.member (.identifier "netB") "id"), .literal "\\\x60"]
    assemble input references ⟨["each"]⟩ = .template (front ++ back) ∧
      (∀ reference ∈ references,
        IsBoundary input.toList reference.start ∧ IsBoundary input.toList reference.stop) ∧
      OpensLiteral front ∧
      readLiteral ((renderParts back).toList ++ ['\x60'])
        = ("\x7b\\$".toList, "$\x7bnetB.id\x7d\\\x60\x60".toList) ∧
      ∃ left right further, outerReferences references ⟨["each"]⟩ = left ++ right ∧
        expressions front = left.map ofReference ∧
        readLiteral ((renderParts back).toList ++ ['\x60'])
          = (gap input.toList left right, (renderParts further).toList ++ ['\x60']) := by
  intro input references front back
  have hsorted : outerReferences references ⟨["each"]⟩ = [⟨0, 1, "var.a", "var.a", false⟩,
      ⟨0, 1, "var.a", "var.a", true⟩, ⟨4, 5, "net.b", "net.b.id", false⟩] := by
    unfold references
    simp [outerReferences, Scope.contains, List.mergeSort,
      List.MergeSort.Internal.splitInTwo_fst, List.MergeSort.Internal.splitInTwo_snd]
  have hassemble : assemble input references ⟨["each"]⟩ = .template (front ++ back) := by
    rw [assemble, hsorted]
    unfold input front back
    with_unfolding_all rfl
  have hvalid : ∀ reference ∈ references,
      IsBoundary input.toList reference.start ∧ IsBoundary input.toList reference.stop := by
    decide
  have hfront : OpensLiteral front := Or.inr ⟨[.expr (.identifier "a")], _, rfl⟩
  obtain ⟨left, right, further, houter, hleft, -, -, -, -, hread⟩ :=
    assemble_reads_back hassemble hvalid rfl hfront
  refine ⟨hassemble, hvalid, hfront, ?_, left, right, further, houter, hleft, hread⟩
  unfold back
  decide +kernel

end ConfigRefs.Expr
