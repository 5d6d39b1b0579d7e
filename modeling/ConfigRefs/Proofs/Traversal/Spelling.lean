import ConfigRefs.Proofs.Token.Spelling
import ConfigRefs.Proofs.Traversal.Place

/-!
# Traversal: what traversals spell

The segments of a traversal are written one after the other with a dot between them, and nothing else
but white space (`spelled_of_mem_traversals`). So the text from its first segment up to the end of any
other one spells the dotted path of the segments between (`Spelled.spells_joinDots`).
-/

namespace ConfigRefs.Traversal

open ConfigRefs.Text ConfigRefs.Token ConfigRefs.Interpolation

/-- Segments that are written in a text with dots between them. -/
structure Spelled (whole : List Char) (segments : List Segment) : Prop where
  isChain : segments.IsChain fun a b => Spells whole a.stop b.start ['.']
  spells : ∀ segment ∈ segments,
    Spells whole segment.start segment.stop segment.text.toList

section Spelled

variable {whole : List Char} {first : Segment} {rest : List Segment}

theorem spelled_singleton (h : Spells whole first.start first.stop first.text.toList) :
    Spelled whole [first] where
  isChain := List.isChain_singleton first
  spells segment hmem := by rwa [List.mem_singleton.1 hmem]

theorem Spelled.cons {next : Segment} (h : Spelled whole (next :: rest))
    (hfirst : Spells whole first.start first.stop first.text.toList)
    (hdot : Spells whole first.stop next.start ['.']) : Spelled whole (first :: next :: rest) where
  isChain := List.isChain_cons_cons.2 ⟨hdot, h.isChain⟩
  spells segment hmem := by
    rcases List.mem_cons.1 hmem with rfl | hmem
    · exact hfirst
    · exact h.spells segment hmem

theorem Spelled.of_isPrefix {segments front : List Segment} (h : Spelled whole segments)
    (hfront : front <+: segments) : Spelled whole front where
  isChain := List.IsChain.prefix h.isChain hfront
  spells segment hmem := h.spells segment (hfront.subset hmem)

/-- **Segments spell their dotted path**, from the first to the last. -/
theorem Spelled.spells_joinDots : ∀ {first last : Segment} {rest : List Segment},
    Spelled whole (first :: rest) → (first :: rest).getLast? = some last →
      Spells whole first.start last.stop (joinDots ((first :: rest).map Segment.text)).toList
  | first, last, [], h, hlast => by
    obtain rfl := Option.some.inj hlast
    have hspells := h.spells first List.mem_cons_self
    rwa [List.map_singleton, joinDots_singleton]
  | first, last, next :: rest, h, hlast => by
    have hfirst := h.spells first List.mem_cons_self
    have hdot := (List.isChain_cons_cons.1 h.isChain).1
    have hrest : Spelled whole (next :: rest) :=
      ⟨(List.isChain_cons_cons.1 h.isChain).2,
        fun segment hmem => h.spells segment (List.mem_cons_of_mem first hmem)⟩
    have ih := hrest.spells_joinDots (by rwa [List.getLast?_cons_cons] at hlast)
    have hspells := (hfirst.append hdot).append ih
    rw [List.map_cons, List.map_cons, toList_joinDots_cons_cons]
    rwa [List.append_assoc] at hspells

end Spelled

/-! ### Segments among tokens -/

section Chains

variable {whole : List Char}

theorem splitSteps_suffix (marks : List (Token × Bool)) : (splitSteps marks).2 <:+ marks := by
  fun_induction splitSteps marks with
  | case1 dot name rest _ steps behind hsplit ih =>
    rw [hsplit] at ih
    exact ih.trans ((List.suffix_cons name rest).trans (List.suffix_cons dot _))
  | case2 dot name rest _ => exact List.suffix_refl _
  | case3 rest _ => exact List.suffix_refl _

theorem spells_segmentOf {token : Token} (h : Spells whole token.start token.stop token.text) :
    Spells whole (segmentOf token).start (segmentOf token).stop (segmentOf token).text.toList := by
  simp only [segmentOf, String.toList_ofList]
  exact h

/-- A name and the steps behind it. -/
theorem spelled_splitSteps (name : Token × Bool) (marks : List (Token × Bool))
    (h : Consecutive whole ((name :: marks).map Prod.fst)) (hname : name.1.kind.isInPath = true) :
    Spelled whole (segmentOf name.1 :: (splitSteps marks).1) := by
  have hfirst := spells_segmentOf (h.spells name.1 List.mem_cons_self hname)
  fun_induction splitSteps marks generalizing name with
  | case1 dot next rest hstep steps behind hsplit ih =>
    simp only [Bool.and_eq_true, beq_iff_eq, isStep, Bool.or_eq_true] at hstep
    have hnext : next.1.kind.isInPath = true := by
      simp only [Kind.isInPath, Bool.or_eq_true, beq_iff_eq]
      exact Or.inl hstep.2.1
    have htail : Consecutive whole ((next :: rest).map Prod.fst) :=
      h.suffix ((List.suffix_cons dot.1 _).trans (List.suffix_cons name.1 _))
    have hspelled := ih next htail hnext (spells_segmentOf (htail.spells _ List.mem_cons_self hnext))
    rw [hsplit] at hspelled
    exact hspelled.cons hfirst (h.spells_dot hstep.1)
  | case2 dot next rest _ => exact spelled_singleton hfirst
  | case3 rest _ => exact spelled_singleton hfirst

/-- **The segments of a chain are written with dots between them.** -/
theorem spelled_of_mem_chainsFrom {afterDot : Bool} {marks : List (Token × Bool)}
    {traversal : Traversal} (h : Consecutive whole (marks.map Prod.fst))
    (hmem : traversal ∈ chainsFrom afterDot marks) : Spelled whole traversal.segments := by
  fun_induction chainsFrom afterDot marks with
  | case1 => cases hmem
  | case2 afterDot mark rest hname split ih =>
    rcases List.mem_cons.1 hmem with rfl | hmem
    · simp only [Bool.and_eq_true, beq_iff_eq] at hname
      exact spelled_splitSteps mark rest h (by rw [hname.1.1]; rfl)
    · have hsuffix : split.2 <:+ mark :: rest :=
        (splitSteps_suffix rest).trans (List.suffix_cons mark rest)
      exact ih (h.suffix (hsuffix.map Prod.fst)) hmem
  | case3 afterDot mark rest _ ih => exact ih (h.suffix (List.suffix_cons mark.1 _)) hmem

end Chains

/-! ### Traversals of a whole text -/

/-- **The segments of a traversal are written with dots between them** and nothing else but white
space. -/
theorem spelled_of_mem_traversals {input : String} {traversal : Traversal}
    (hmem : traversal ∈ traversals input) : Spelled input.toList traversal.segments := by
  obtain ⟨body, hbody, hchain⟩ := exists_body_of_mem_traversals hmem
  have hstands := standsAt_of_mem_bodiesFrom (standsAt_zero input.toList) hbody
  refine spelled_of_mem_chainsFrom ?_ hchain
  rw [map_fst_marked]
  exact consecutive_tokensFrom hstands

/-- **A traversal lies inside of one body.** -/
theorem exists_body_bounds {input : String} {traversal : Traversal}
    (hmem : traversal ∈ traversals input) : ∃ body ∈ bodies input.toList,
      ∀ segment ∈ traversal.segments,
        body.span.start ≤ segment.start ∧ segment.stop ≤ body.span.stop := by
  obtain ⟨body, hbody, hchain⟩ := exists_body_of_mem_traversals hmem
  refine ⟨body, hbody, fun segment hsegment => ?_⟩
  have hfrom := (chains_sublist _).subset (List.mem_flatMap.2 ⟨traversal, hchain, hsegment⟩)
  obtain ⟨token, htoken, rfl⟩ := List.mem_map.1 hfrom
  exact bounds_of_mem_tokensFrom htoken

end ConfigRefs.Traversal
