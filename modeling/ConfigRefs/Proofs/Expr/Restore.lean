import ConfigRefs.Expr.Assembly
import ConfigRefs.Proofs.Reference.Place

/-!
# Expr: the text that an expression was made from

`restore? input references expr` puts a text together again: from a string literal, from the literal
parts of a template with the written form of a reference for each expression between them, or from the
one reference that a bare expression stands for. A converted text is restored in all cases but one: a
bare expression whose text ends with something else than the closing brace (`convert_restores_iff`).
-/

namespace ConfigRefs.Expr

open ConfigRefs.Text ConfigRefs.Declaration

/-! ### Literal parts -/

/-- A text as it is read inside a template literal: a backslash makes the next character stand for
itself. -/
def unescapeLiteral : List Char → List Char
  | '\\' :: c :: rest => c :: unescapeLiteral rest
  | c :: rest => c :: unescapeLiteral rest
  | [] => []

theorem unescapeLiteral_cons {c : Char} (h : c ≠ '\\') (rest : List Char) :
    unescapeLiteral (c :: rest) = c :: unescapeLiteral rest := by
  rw [unescapeLiteral]
  exact fun d tail hc => (h hc).elim

/-- **An escaped text is read as the text.** -/
theorem unescapeLiteral_escapeLiteral (text : List Char) :
    unescapeLiteral (escapeLiteral text) = text := by
  fun_induction escapeLiteral text with
  | case1 => rfl
  | case2 rest ih => rw [unescapeLiteral, ih]
  | case3 rest ih => rw [unescapeLiteral, ih]
  | case4 rest ih => rw [unescapeLiteral, unescapeLiteral_cons (by decide), ih]
  | case5 c rest hescape _ _ ih => rw [unescapeLiteral_cons hescape, ih]

/-! ### Restoring a text -/

/-- The text of the parts of a template, if it holds as many expressions as there are references. -/
def restoreParts? (input : List Char) : List TemplatePart → List Reference → Option (List Char)
  | [], [] => some []
  | .literal text :: parts, references =>
    (restoreParts? input parts references).map (unescapeLiteral text.toList ++ ·)
  | .expr _ :: parts, reference :: references =>
    (restoreParts? input parts references).map (slice input reference.start reference.stop ++ ·)
  | _, _ => none

/-- The text of an expression that was made from an input with some references. -/
def restore? (input : List Char) (references : List Reference) : Expr → Option (List Char)
  | .stringLiteral value => some value.toList
  | .template parts => restoreParts? input parts references
  | .identifier _ | .member _ _ =>
    match references with
    | [only] => some ('$' :: '\x7b' :: slice input only.start only.stop ++ ['\x7d'])
    | _ => none

section Parts

variable {input : List Char}

/-- The literal text between two boundaries is restored, also when it is empty and left out. -/
theorem restoreParts?_literalBetween {start stop : Nat} (hle : start ≤ stop)
    (hstart : IsBoundary input start) (hstop : IsBoundary input stop) (parts : List TemplatePart)
    (references : List Reference) :
    restoreParts? input (literalBetween input start stop ++ parts) references
      = (restoreParts? input parts references).map (slice input start stop ++ ·) := by
  unfold literalBetween
  split
  · rw [List.singleton_append, restoreParts?, String.toList_ofList, unescapeLiteral_escapeLiteral]
  · have hnil : slice input start stop = [] := by
      apply eq_nil_of_byteLength_eq_zero
      rw [byteLength_slice hle hstart hstop]
      omega
    rw [hnil]
    simp

/-- **Parts with their references are the text from the offset on**, if the references lie in order
behind it. -/
theorem restoreParts?_partsFrom : ∀ {references : List Reference} {offset : Nat},
    IsBoundary input offset → (∀ reference ∈ references, reference.IsPlaced input) →
      (∀ reference ∈ references, offset ≤ reference.start) →
      references.Pairwise (fun a b => a.stop ≤ b.start) →
        restoreParts? input (partsFrom input offset references) references
          = some (slice input offset (byteLength input))
  | [], offset, hoffset, _, _, _ => by
    have h := restoreParts?_literalBetween hoffset.le hoffset (isBoundary_byteLength input) [] []
    rwa [List.append_nil, restoreParts?, Option.map_some, List.append_nil] at h
  | reference :: references, offset, hoffset, hplaced, hle, hpairwise => by
    obtain ⟨hstart, hstop, hlt⟩ := hplaced reference List.mem_cons_self
    have hfirst : offset ≤ reference.start := hle reference List.mem_cons_self
    have hmax : max offset reference.stop = reference.stop := by omega
    have ih := restoreParts?_partsFrom hstop
      (fun other hother => hplaced other (List.mem_cons_of_mem reference hother))
      (fun other hother => List.rel_of_pairwise_cons hpairwise hother) hpairwise.of_cons
    have hend := hstop.le
    rw [partsFrom, hmax, restoreParts?_literalBetween hfirst hoffset hstart, restoreParts?, ih,
      Option.map_some, Option.map_some,
      slice_append_slice (Nat.le_of_lt hlt) hend hstart hstop (isBoundary_byteLength input),
      slice_append_slice hfirst (Nat.le_trans (Nat.le_of_lt hlt) hend) hoffset hstart
        (isBoundary_byteLength input)]

end Parts

/-! ### Converted texts -/

/-- The expression of a reference is its variable or a member of something. -/
theorem ofReference_eq (reference : Reference) : (∃ name, ofReference reference = .identifier name) ∨
    ∃ object property, ofReference reference = .member object property := by
  simp only [ofReference]
  rcases List.eq_nil_or_concat (memberNames (segments reference.full)
    ++ (if reference.useFqn then ["fqn"] else [])) with hnil | ⟨names, last, hconcat⟩
  · exact Or.inl ⟨_, by rw [hnil, List.foldl_nil]⟩
  · exact Or.inr ⟨_, _, by rw [hconcat, List.concat_eq_append, List.foldl_append]; rfl⟩

theorem restore?_ofReference (input : List Char) (reference only : Reference) :
    restore? input [only] (ofReference reference)
      = some ('$' :: '\x7b' :: slice input only.start only.stop ++ ['\x7d']) := by
  rcases ofReference_eq reference with ⟨name, h⟩ | ⟨object, property, h⟩ <;> rw [h, restore?]

section Converted

variable {input : String} {index : Index} {scope : Scope} {found : List Reference}

/-- References that are found are in order already. -/
theorem outerReferences_eq (h : references input index scope = .ok found) :
    outerReferences found scope = found.filter fun reference => !scope.contains reference.id := by
  refine List.mergeSort_of_pairwise (List.Pairwise.filter _ ?_)
  refine (pairwise_references h).imp_of_mem fun {a b} ha hb hle => ?_
  have := (isPlaced_of_mem_references h ha).start_lt_stop
  exact decide_eq_true (by omega)

theorem isPlaced_of_mem_outerReferences (h : references input index scope = .ok found)
    {reference : Reference} (hmem : reference ∈ outerReferences found scope) :
    reference.IsPlaced input.toList := by
  rw [outerReferences_eq h] at hmem
  exact isPlaced_of_mem_references h (List.mem_filter.1 hmem).1

theorem pairwise_outerReferences (h : references input index scope = .ok found) :
    (outerReferences found scope).Pairwise fun a b => a.stop ≤ b.start := by
  rw [outerReferences_eq h]
  exact (pairwise_references h).filter _

/-- **The parts of a converted text are the text.** -/
theorem restoreParts?_outerReferences (h : references input index scope = .ok found) :
    restoreParts? input.toList (partsFrom input.toList 0 (outerReferences found scope))
      (outerReferences found scope) = some input.toList := by
  rw [restoreParts?_partsFrom (isBoundary_zero _) (fun _ => isPlaced_of_mem_outerReferences h)
    (fun _ _ => Nat.zero_le _) (pairwise_outerReferences h), slice_zero]

/-- A text with a reference begins with the marker of an interpolation. -/
theorem exists_marker_of_mem_references (h : references input index scope = .ok found)
    {reference : Reference} (hmem : reference ∈ found) :
    ∃ rest, input.toList = '$' :: '\x7b' :: rest := by
  obtain ⟨kept, hkept, rfl⟩ := exists_of_references h
  obtain ⟨made, hmade, rfl⟩ := List.mem_map.1 hmem
  have htraversal := hkept.subset (List.mem_map.2 ⟨made, hmade, rfl⟩)
  unfold Traversal.traversals at htraversal
  split at htraversal
  · next rest heq => exact ⟨rest, heq⟩
  · cases htraversal

/-- A text that a reference is the whole of is the marker, the reference and one character more. -/
theorem exists_last_of_isWhole (h : references input index scope = .ok found)
    {only : Reference} (hmem : only ∈ found) (hwhole : isWhole input.toList only = true) :
    ∃ last, input.toList
      = '$' :: '\x7b' :: slice input.toList only.start only.stop ++ [last] := by
  obtain ⟨rest, hrest⟩ := exists_marker_of_mem_references h hmem
  obtain ⟨hstart, hstop, hlt⟩ := isPlaced_of_mem_references h hmem
  simp only [isWhole, Bool.and_eq_true, beq_iff_eq] at hwhole
  obtain ⟨⟨hstart_eq, hstop_eq⟩, -⟩ := hwhole
  obtain ⟨before, piece, behind, htext, hbefore, hpiece⟩ :=
    hstart.exists_between (Nat.le_of_lt hlt) hstop
  have hslice : slice input.toList only.start only.stop = piece := by
    rw [htext, ← hbefore, ← hpiece, slice_append]
  have hmarker : before = ['$', '\x7b'] := by
    have hbefore' : takeBytes 2 input.toList = before := by
      rw [htext, List.append_assoc, ← hstart_eq, ← hbefore, takeBytes_append]
    rw [← hbefore', hrest]
    exact takeBytes_append ['$', '\x7b'] rest
  have hbehind : byteLength behind = 1 := by
    have hlength := congrArg byteLength htext
    rw [byteLength_append, byteLength_append] at hlength
    omega
  obtain ⟨last, rfl⟩ := exists_of_byteLength_eq_one hbehind
  refine ⟨last, ?_⟩
  rw [hslice, htext, hmarker]
  rfl

/-- **What is lost**: a bare expression does not tell how its text ends. -/
theorem restore?_assemble_iff (h : references input index scope = .ok found) :
    restore? input.toList (outerReferences found scope) (assemble input found scope)
        = some input.toList ↔
      ¬ ∃ only, outerReferences found scope = [only] ∧ isWhole input.toList only = true ∧
        input.toList.getLast? ≠ some '\x7d' := by
  have hparts : restoreParts? input.toList
      (partsFrom input.toList 0 (outerReferences found scope)) (outerReferences found scope)
        = some input.toList := restoreParts?_outerReferences h
  rcases houter : outerReferences found scope with _ | ⟨only, _ | ⟨second, more⟩⟩
  · simp [assemble, houter, restore?]
  · rw [houter] at hparts
    by_cases hwhole : isWhole input.toList only = true
    · have hmem : only ∈ found := by
        rw [outerReferences_eq h] at houter
        exact (List.mem_filter.1 (houter ▸ List.mem_singleton_self only)).1
      obtain ⟨last, hlast⟩ := exists_last_of_isWhole h hmem hwhole
      have hgetLast : input.toList.getLast? = some last := by
        rw [hlast, List.getLast?_concat]
      simp only [assemble, houter, hwhole, if_true, restore?_ofReference]
      constructor
      · rintro hrestored ⟨-, -, -, hne⟩
        have hsame := Option.some.inj hrestored
        rw [← hsame, List.getLast?_concat] at hne
        exact hne rfl
      · intro hclosed
        have hbrace : last = '\x7d' := by
          by_contra hne
          exact hclosed ⟨only, rfl, hwhole, by rw [hgetLast]; exact fun h => hne (Option.some.inj h)⟩
        rw [← hbrace, ← hlast]
    · simp only [assemble, houter, if_neg hwhole, restore?, hparts, true_iff]
      rintro ⟨other, hother, hwhole', -⟩
      obtain rfl := (List.cons.inj hother).1
      exact hwhole hwhole'
  · rw [houter] at hparts
    simp [assemble, houter, restore?, hparts]

/-- **What conversion loses.** A converted text can be restored from its expression and its
references, unless the expression is a bare reference and the text does not end with the brace that
would close the interpolation. -/
theorem convert_restores_iff {expr : Expr} (h : convert input index scope = .ok expr) :
    ∃ found, references input index scope = .ok found ∧
      (restore? input.toList (outerReferences found scope) expr = some input.toList ↔
        ¬ ∃ only, outerReferences found scope = [only] ∧ isWhole input.toList only = true ∧
          input.toList.getLast? ≠ some '\x7d') := by
  unfold convert at h
  cases hfound : references input index scope with
  | error e => rw [hfound] at h; cases h
  | ok found =>
    rw [hfound] at h
    obtain rfl := Except.ok.inj h
    exact ⟨found, rfl, restore?_assemble_iff hfound⟩

end Converted

/-- Two references with escaped text between them, the second one cut off before a number. -/
theorem convert_restores_mixed :
    let expr : Expr := .template
      [.literal "\\$\x7b", .expr (.member (.identifier "prefix") "fqn"),
        .literal "\x7d\\\x60\\\\\\$\x7b", .expr (.member (.identifier "net") "fqn"),
        .literal ".ids.0.é\x7d"]
    convert "$\x7bvar.prefix\x7d\x60\\$\x7bmodule.net.ids.0.é\x7d"
        (Index.ofList ["module.net", "var.prefix"]) ⟨[]⟩ = .ok expr ∧
      ∃ found, references "$\x7bvar.prefix\x7d\x60\\$\x7bmodule.net.ids.0.é\x7d"
          (Index.ofList ["module.net", "var.prefix"]) ⟨[]⟩ = .ok found ∧
        restore? "$\x7bvar.prefix\x7d\x60\\$\x7bmodule.net.ids.0.é\x7d".toList
            (outerReferences found ⟨[]⟩) expr
          = some "$\x7bvar.prefix\x7d\x60\\$\x7bmodule.net.ids.0.é\x7d".toList := by
  intro expr
  have hfound : references "$\x7bvar.prefix\x7d\x60\\$\x7bmodule.net.ids.0.é\x7d"
      (Index.ofList ["module.net", "var.prefix"]) ⟨[]⟩
        = .ok [⟨2, 12, "var.prefix", "var.prefix", true⟩,
            ⟨17, 27, "module.net", "module.net", true⟩] := by
    decide +kernel
  have hconvert : convert "$\x7bvar.prefix\x7d\x60\\$\x7bmodule.net.ids.0.é\x7d"
      (Index.ofList ["module.net", "var.prefix"]) ⟨[]⟩ = .ok expr := by
    rw [convert, hfound, Except.map_ok, assemble, outerReferences_eq hfound]
    with_unfolding_all rfl
  obtain ⟨found, hfound, hrestore⟩ := convert_restores_iff hconvert
  refine ⟨hconvert, found, hfound, hrestore.2 ?_⟩
  rintro ⟨-, -, -, hlast⟩
  exact hlast (by decide)

/-- An interpolation that ends with a blank and no brace is converted like one that is closed. -/
theorem convert_unclosed :
    references "$\x7baws_instance.foo.id " (Index.ofList ["aws_instance.foo"]) ⟨[]⟩
        = .ok [⟨2, 21, "aws_instance.foo", "aws_instance.foo.id", false⟩] ∧
      convert "$\x7baws_instance.foo.id " (Index.ofList ["aws_instance.foo"]) ⟨[]⟩
        = .ok (.member (.identifier "awsInstanceFoo") "id") ∧
      restore? "$\x7baws_instance.foo.id ".toList
          (outerReferences [⟨2, 21, "aws_instance.foo", "aws_instance.foo.id", false⟩] ⟨[]⟩)
          (.member (.identifier "awsInstanceFoo") "id")
        = some "$\x7baws_instance.foo.id\x7d".toList ∧
      "$\x7baws_instance.foo.id\x7d" ≠ "$\x7baws_instance.foo.id " := by
  refine ⟨by decide +kernel, by with_unfolding_all rfl, by decide +kernel, by decide⟩

end ConfigRefs.Expr
