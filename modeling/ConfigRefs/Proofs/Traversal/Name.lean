import ConfigRefs.Proofs.Traversal.Spelling

/-!
# Traversal: names as segments

A segment of a traversal is made from a name or a number of the text (`exists_token_of_mem_segments`).
So it is a name if it is not numeric (`isName_of_mem_segments`).
-/

namespace ConfigRefs.Traversal

open ConfigRefs.Text ConfigRefs.Token ConfigRefs.Interpolation

/-! ### The tokens of segments -/

/-- A step is made from a name or a number. -/
theorem exists_mark_of_mem_splitSteps {marks : List (Token × Bool)} {step : Segment}
    (hmem : step ∈ (splitSteps marks).1) :
    ∃ mark ∈ marks, step = segmentOf mark.1 ∧ (mark.1.kind = .ident ∨ mark.1.kind = .number) := by
  fun_induction splitSteps marks with
  | case1 dot name rest hstep steps behind hsplit ih =>
    rcases List.mem_cons.1 hmem with rfl | hmem
    · simp only [Bool.and_eq_true, isStep, Bool.or_eq_true, beq_iff_eq] at hstep
      exact ⟨name, by simp, rfl, hstep.2.1⟩
    · obtain ⟨mark, hmark, hmade⟩ := ih (by rwa [hsplit])
      exact ⟨mark, List.mem_cons_of_mem dot (List.mem_cons_of_mem name hmark), hmade⟩
  | case2 | case3 => cases hmem

theorem exists_mark_of_mem_chainsFrom {afterDot : Bool} {marks : List (Token × Bool)}
    {traversal : Traversal} {segment : Segment} (hmem : traversal ∈ chainsFrom afterDot marks)
    (hsegment : segment ∈ traversal.segments) :
    ∃ mark ∈ marks, segment = segmentOf mark.1 ∧
      (mark.1.kind = .ident ∨ mark.1.kind = .number) := by
  fun_induction chainsFrom afterDot marks with
  | case1 => cases hmem
  | case2 afterDot first rest hname split ih =>
    simp only [Bool.and_eq_true, beq_iff_eq] at hname
    rcases List.mem_cons.1 hmem with rfl | hmem
    · rcases List.mem_cons.1 hsegment with rfl | hstep
      · exact ⟨first, List.mem_cons_self, rfl, Or.inl hname.1.1⟩
      · obtain ⟨mark, hmark, hmade⟩ := exists_mark_of_mem_splitSteps hstep
        exact ⟨mark, List.mem_cons_of_mem first hmark, hmade⟩
    · obtain ⟨mark, hmark, hmade⟩ := ih hmem
      exact ⟨mark, List.mem_cons_of_mem first ((splitSteps_suffix rest).subset hmark), hmade⟩
  | case3 afterDot first rest _ ih =>
    obtain ⟨mark, hmark, hmade⟩ := ih hmem
    exact ⟨mark, List.mem_cons_of_mem first hmark, hmade⟩

/-! ### The segments of a whole text -/

section Segments

variable {input : String} {traversal : Traversal} {segment : Segment}

/-- **A segment is made from a name or a number** of the text. -/
theorem exists_token_of_mem_segments (hmem : traversal ∈ traversals input)
    (hsegment : segment ∈ traversal.segments) :
    ∃ token ∈ allTokens input.toList, segment = segmentOf token ∧
      (token.kind = .ident ∨ token.kind = .number) := by
  obtain ⟨body, hbody, hchain⟩ := exists_body_of_mem_traversals hmem
  obtain ⟨mark, hmark, hmade⟩ := exists_mark_of_mem_chainsFrom hchain hsegment
  have htoken : mark.1 ∈ tokensFrom body.start body.text := by
    rw [← map_fst_marked (tokensFrom body.start body.text)]
    exact List.mem_map_of_mem hmark
  exact ⟨mark.1, List.mem_flatMap.2 ⟨body, hbody, htoken⟩, hmade⟩

/-- **A segment that is not numeric is a name.** -/
theorem isName_of_mem_segments (hmem : traversal ∈ traversals input)
    (hsegment : segment ∈ traversal.segments) (hnumeric : segment.numeric = false) :
    IsName segment.text := by
  obtain ⟨token, htoken, rfl, hkind⟩ := exists_token_of_mem_segments hmem hsegment
  obtain ⟨body, -, htoken⟩ := List.mem_flatMap.1 htoken
  have hident : token.kind = .ident := hkind.resolve_right fun hnumber => by
    simp [segmentOf, hnumber] at hnumeric
  rw [IsName, segmentOf, String.toList_ofList]
  exact isName_of_ident htoken hident

end Segments

end ConfigRefs.Traversal
