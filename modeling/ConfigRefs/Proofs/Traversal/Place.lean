import ConfigRefs.Traversal.Basic
import ConfigRefs.Proofs.Interpolation.Place
import ConfigRefs.Proofs.Token.Place
import Mathlib.Data.List.Flatten

/-!
# Traversal: the places of segments

The segments of the traversals of a text are made from some of its tokens, in the order of those
(`traversals_sublist`). So they stand in the text, they are not empty and they lie one behind the
other (`isPlaced_of_mem_traversals`, `pairwise_traversals`).
-/

namespace ConfigRefs.Traversal

open ConfigRefs.Text ConfigRefs.Token ConfigRefs.Interpolation

/-! ### Segments among tokens -/

theorem splitSteps_sublist (marks : List (Token × Bool)) :
    ((splitSteps marks).1 ++ (splitSteps marks).2.map (segmentOf ·.1)).Sublist
      (marks.map (segmentOf ·.1)) := by
  fun_induction splitSteps marks with
  | case1 dot name rest _ steps behind hsplit ih =>
    rw [hsplit] at ih
    exact (ih.cons_cons (segmentOf name.1)).cons (segmentOf dot.1)
  | case2 dot name rest _ => exact List.Sublist.refl _
  | case3 rest _ => exact List.Sublist.refl _

/-- **The segments of chains are some of those that the tokens make.** -/
theorem chainsFrom_sublist (afterDot : Bool) (marks : List (Token × Bool)) :
    ((chainsFrom afterDot marks).flatMap segments).Sublist (marks.map (segmentOf ·.1)) := by
  fun_induction chainsFrom afterDot marks with
  | case1 => exact List.Sublist.refl _
  | case2 afterDot mark rest _ split ih =>
    rw [List.flatMap_cons, List.map_cons, segments, List.cons_append]
    exact (((List.Sublist.refl split.1).append ih).trans (splitSteps_sublist rest)).cons_cons _
  | case3 afterDot mark rest _ ih => exact ih.cons _

/-- A chain begins with a name. -/
theorem head_numeric_of_mem_chainsFrom {afterDot : Bool} {marks : List (Token × Bool)}
    {traversal : Traversal} (hmem : traversal ∈ chainsFrom afterDot marks) :
    traversal.head.numeric = false := by
  fun_induction chainsFrom afterDot marks with
  | case1 => cases hmem
  | case2 afterDot mark rest hname split ih =>
    rcases List.mem_cons.1 hmem with rfl | hmem
    · simp only [Bool.and_eq_true, beq_iff_eq] at hname
      simp [segmentOf, hname.1.1]
    · exact ih hmem
  | case3 afterDot mark rest _ ih => exact ih hmem

theorem map_fst_marked (tokens : List Token) : (marked tokens).map Prod.fst = tokens := by
  rw [marked, List.map_map]
  exact List.zipIdx_map_fst 0 tokens

theorem chains_sublist (tokens : List Token) :
    ((chains tokens).flatMap segments).Sublist (tokens.map segmentOf) := by
  have h := chainsFrom_sublist false (marked tokens)
  have hmap : (marked tokens).map (segmentOf ·.1) = tokens.map segmentOf := by
    conv_rhs => rw [← map_fst_marked tokens, List.map_map]
    rfl
  rwa [hmap] at h

/-! ### Tokens of a whole text -/

/-- The tokens of all bodies of a text. -/
def allTokens (text : List Char) : List Token :=
  (bodies text).flatMap fun body => tokensFrom body.start body.text

theorem standsAt_of_mem_allTokens {text : List Char} {token : Token} (hmem : token ∈ allTokens text) :
    StandsAt text token.start token.text := by
  obtain ⟨body, hbody, hmem⟩ := List.mem_flatMap.1 hmem
  exact standsAt_of_mem_tokensFrom (standsAt_of_mem_bodiesFrom (standsAt_zero text) hbody) hmem

theorem start_lt_stop_of_mem_allTokens {text : List Char} {token : Token}
    (hmem : token ∈ allTokens text) : token.start < token.stop := by
  obtain ⟨body, _, hmem⟩ := List.mem_flatMap.1 hmem
  exact start_lt_stop_of_mem_tokensFrom hmem

/-- **Each token of a text lies behind the one before**, also across its bodies. -/
theorem pairwise_allTokens (text : List Char) :
    (allTokens text).Pairwise fun a b => a.stop ≤ b.start := by
  refine List.pairwise_flatMap.2 ⟨fun body _ => pairwise_tokensFrom _ _, ?_⟩
  refine (pairwise_bodiesFrom 0 text).imp fun {body next} hle token htoken other hother => ?_
  have := (bounds_of_mem_tokensFrom htoken).2
  have := (bounds_of_mem_tokensFrom hother).1
  simp only [Body.span] at hle
  omega

/-! ### Traversals of a whole text -/

/-- The traversals of a text that begins with an interpolation are those of all its bodies. -/
theorem traversals_of_marker {input : String} (h : ['$', '\x7b'] <+: input.toList) :
    traversals input
      = (bodies input.toList).flatMap fun body => chains (tokensFrom body.start body.text) := by
  obtain ⟨rest, hinput⟩ := h
  rw [traversals, ← hinput]
  rfl

/-- A traversal of a text is one of the tokens of a body. -/
theorem exists_body_of_mem_traversals {input : String} {traversal : Traversal}
    (hmem : traversal ∈ traversals input) : ∃ body ∈ bodies input.toList,
      traversal ∈ chains (tokensFrom body.start body.text) := by
  unfold traversals at hmem
  split at hmem
  · exact List.mem_flatMap.1 hmem
  · cases hmem

/-! ### Segments of a whole text -/

/-- A segment stands in a text and is not empty. -/
structure IsPlaced (text : List Char) (segment : Segment) : Prop where
  standsAt : StandsAt text segment.start segment.text.toList
  stop_eq : segment.stop = segment.start + byteLength segment.text.toList
  start_lt_stop : segment.start < segment.stop

/-- **The segments of the traversals of a text** are some of those that its tokens make. -/
theorem traversals_sublist (input : String) :
    ((traversals input).flatMap segments).Sublist ((allTokens input.toList).map segmentOf) := by
  unfold traversals
  split
  · rw [List.flatMap_assoc, allTokens, List.map_flatMap]
    exact List.Sublist.flatMap_right _ fun body _ => chains_sublist _
  · exact List.nil_sublist _

theorem isPlaced_of_mem_traversals {input : String} {traversal : Traversal} {segment : Segment}
    (htraversal : traversal ∈ traversals input) (hsegment : segment ∈ traversal.segments) :
    IsPlaced input.toList segment := by
  have hmem := (traversals_sublist input).subset (List.mem_flatMap.2 ⟨_, htraversal, hsegment⟩)
  obtain ⟨token, htoken, rfl⟩ := List.mem_map.1 hmem
  have hstands := standsAt_of_mem_allTokens htoken
  exact
    { standsAt := by rwa [segmentOf, String.toList_ofList]
      stop_eq := by rw [segmentOf, String.toList_ofList, Token.stop]
      start_lt_stop := start_lt_stop_of_mem_allTokens htoken }

theorem pairwise_traversals (input : String) :
    ((traversals input).flatMap segments).Pairwise fun a b => a.stop ≤ b.start :=
  (List.pairwise_map.2 (pairwise_allTokens input.toList)).sublist (traversals_sublist input)

theorem head_numeric_of_mem_traversals {input : String} {traversal : Traversal}
    (hmem : traversal ∈ traversals input) : traversal.head.numeric = false := by
  obtain ⟨body, _, hchain⟩ := exists_body_of_mem_traversals hmem
  exact head_numeric_of_mem_chainsFrom hchain

end ConfigRefs.Traversal
