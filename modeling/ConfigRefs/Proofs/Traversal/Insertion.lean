import ConfigRefs.Proofs.Interpolation.Insertion
import ConfigRefs.Proofs.Traversal.Locality

/-!
# Traversal: white space between tokens

White space between the tokens of a body (`IsBetween`) makes room in the text: whatever stands in front
of it stays where it is, and all other tokens are the same further on (`tokensFrom_insert`). So are the
traversals of the text (`traversals_insert`), and none of their segments reaches across the place
(`outside_of_mem_traversals`).
-/

namespace ConfigRefs

open ConfigRefs.Text

/-- A token in a text with more bytes at a place. -/
def Token.makeRoom (place distance : Nat) (token : Token) : Token :=
  if place ≤ token.start then token.shift distance else token

/-- A segment in a text with more bytes at a place. -/
def Segment.makeRoom (place distance : Nat) (segment : Segment) : Segment :=
  if place ≤ segment.start then segment.shift distance else segment

namespace Traversal

open ConfigRefs.Interpolation ConfigRefs.Token

/-- A place in a body: in front of its first token, between two tokens, or, if a brace closes the body,
behind the last one. -/
structure IsBetween (input : String) (span : Span) (place : Nat) : Prop where
  mem : span ∈ interpolations input
  start_le : span.start ≤ place
  le_stop : place ≤ span.stop
  outside : ∀ token ∈ tokenize input span, token.stop ≤ place ∨ place ≤ token.start
  closed_or : StandsAt input.toList span.stop ['\x7d'] ∨
    ∀ last ∈ (tokenize input span).getLast?, place ≤ last.start

/-! ### Tokens -/

section Tokens

variable {front back blank : List Char}

/-- White space in front of a text belongs to no token. -/
theorem tokensFrom_blanks : ∀ {blank : List Char}, (∀ c ∈ blank, isBlank c = true) →
    ∀ (offset : Nat) (text : List Char),
      tokensFrom offset (blank ++ text) = tokensFrom (offset + byteLength blank) text
  | [], _, _, _ => rfl
  | c :: blank, h, offset, text => by
    rw [List.cons_append, tokensFrom, if_pos (h c List.mem_cons_self),
      tokensFrom_blanks fun d hd => h d (List.mem_cons_of_mem c hd), byteLength_cons, Nat.add_assoc]

/-- **White space at a seam** makes room between the tokens. -/
theorem tokensFrom_insert (h : Seam front back) (hblank : ∀ c ∈ blank, isBlank c = true) :
    ∀ offset, tokensFrom offset (front ++ (blank ++ back))
      = (tokensFrom offset (front ++ back)).map
          (Token.makeRoom (offset + byteLength front) (byteLength blank)) := by
  induction h with
  | start =>
    intro offset
    rw [List.nil_append, List.nil_append, tokensFrom_blanks hblank, tokensFrom_add]
    refine List.map_congr_left fun token hmem => ?_
    exact (if_pos (bounds_of_mem_tokensFrom hmem).1).symm
  | @blank c front back hc _ ih =>
    intro offset
    rw [List.cons_append, List.cons_append, tokensFrom, tokensFrom, if_pos hc, if_pos hc, ih,
      byteLength_cons, Nat.add_assoc]
  | @token c piece front back kind hc hclassify hquoted _ ih =>
    intro offset
    have hclassify' : classify c (piece ++ (front ++ (blank ++ back))) = (kind, piece.length) := by
      cases blank with
      | nil => exact hclassify
      | cons d blank =>
        refine classify_seam hclassify hquoted (List.prefix_append front back) fun e he => ?_
        obtain rfl : d = e := Option.some.inj he
        exact hblank d List.mem_cons_self
    have hfirst : Token.makeRoom (offset + byteLength (c :: (piece ++ front))) (byteLength blank)
        ⟨kind, offset, c :: piece⟩ = ⟨kind, offset, c :: piece⟩ := by
      refine if_neg ?_
      have := c.utf8Size_pos
      simp only [byteLength_cons]
      omega
    have hplace : offset + byteLength (c :: piece) + byteLength front
        = offset + byteLength (c :: (piece ++ front)) := by
      rw [← List.cons_append, byteLength_append, Nat.add_assoc]
    rw [List.cons_append, List.append_assoc, List.cons_append, List.append_assoc,
      tokensFrom_cons hc, tokensFrom_cons hc, hclassify, hclassify', List.map_cons]
    simp only [List.take_left, List.drop_left]
    rw [hfirst, ih, hplace]

end Tokens

/-! ### Places between tokens -/

section Places

variable {input : String} {span : Span} {before after : List Char}

/-- **A place between tokens is a seam** in a body. -/
theorem IsBetween.exists_seam (h : IsBetween input span (byteLength before))
    (hinput : input.toList = before ++ after) : ∃ body ∈ bodies input.toList, body.span = span ∧
      ∃ front back, body.text = front ++ back ∧
        byteLength before = body.start + byteLength front ∧ Seam front back := by
  obtain ⟨body, hbody, rfl⟩ := List.mem_map.1 h.mem
  have houtside := h.outside
  have hclosed := h.closed_or
  have hstop := h.le_stop
  rw [tokenize_span hbody] at houtside hclosed
  rw [← closed_iff_of_mem_bodies hbody] at hclosed
  obtain ⟨lead, behind, htext, hlead⟩ := standsAt_of_mem_bodiesFrom (standsAt_zero input.toList) hbody
  rw [htext] at hinput
  obtain ⟨front, rfl⟩ : lead <+: before :=
    isPrefix_of_byteLength_le ⟨body.text ++ behind, by simp⟩ ⟨after, hinput.symm⟩
      (hlead.trans_le h.start_le)
  rw [byteLength_append, hlead] at houtside hclosed hstop
  have hrest : front ++ after = body.text ++ behind := by
    rw [List.append_assoc, List.append_assoc] at hinput
    exact (List.append_cancel_left hinput).symm
  obtain ⟨back, hback⟩ : front <+: body.text :=
    isPrefix_of_byteLength_le ⟨after, hrest⟩ ⟨behind, rfl⟩ (by simp only [Body.span] at hstop; omega)
  refine ⟨body, hbody, rfl, front, back, hback.symm, by rw [byteLength_append, hlead], ?_⟩
  have hnested := nested_tokensFrom body.start (endsBody_of_mem_bodies hbody)
  rw [← hback] at houtside hclosed hnested
  refine seam_of_tokensFrom houtside fun token htoken hle hkind => ?_
  rcases hnested.isQuoted_or htoken hkind with hquoted | ⟨hopen, hend, -⟩
  · exact hquoted
  · -- a string that is not closed is the last token, and the place is in front of that
    exfalso
    obtain ⟨last, hlast⟩ := Option.ne_none_iff_exists'.1
      (mt List.getLast?_eq_none_iff.1 (List.ne_nil_of_mem htoken))
    have hmem := List.mem_of_getLast? hlast
    have hstart := hclosed.resolve_left (by simp [hopen]) last hlast
    have := start_lt_stop_of_mem_tokensFrom hmem
    have := (bounds_of_mem_tokensFrom hmem).2
    omega

/-- The bodies in front of a place in a body end before it, and those behind it begin after it. -/
theorem bounds_around_body {earlier later : List Body} {body : Body} {place : Nat}
    (hbodies : bodies input.toList = earlier ++ body :: later) (hstart : body.span.start ≤ place)
    (hstop : place ≤ body.span.stop) : (∀ other ∈ earlier, other.span.stop ≤ place) ∧
      ∀ other ∈ later, place ≤ other.span.start := by
  have hpairwise : (bodies input.toList).Pairwise fun a b => a.span.stop ≤ b.span.start :=
    pairwise_bodiesFrom 0 input.toList
  rw [hbodies] at hpairwise
  obtain ⟨-, hlater, hearlier⟩ := List.pairwise_append.1 hpairwise
  refine ⟨fun other hother => ?_, fun other hother => ?_⟩
  · exact (hearlier other hother body List.mem_cons_self).trans hstart
  · exact hstop.trans (List.rel_of_pairwise_cons hlater hother)

end Places

/-! ### Traversals -/

theorem moves_makeRoom (place distance : Nat) : Moves (Token.makeRoom place distance) where
  kind token := by
    rw [Token.makeRoom]
    split <;> rfl
  text token := by
    rw [Token.makeRoom]
    split <;> rfl

theorem segmentOf_makeRoom (place distance : Nat) (token : Token) :
    segmentOf (token.makeRoom place distance) = (segmentOf token).makeRoom place distance := by
  rw [Token.makeRoom, Segment.makeRoom]
  split
  · next h => rw [if_pos (show place ≤ (segmentOf token).start from h), segmentOf_shift]
  · next h => rw [if_neg (show ¬ place ≤ (segmentOf token).start from h)]

/-- A traversal in a text with more bytes at a place. -/
def makeRoom (place distance : Nat) (traversal : Traversal) : Traversal :=
  traversal.mapSegments (Segment.makeRoom place distance)

theorem chains_makeRoom (place distance : Nat) (tokens : List Token) :
    chains (tokens.map (Token.makeRoom place distance))
      = (chains tokens).map (makeRoom place distance) :=
  chains_map (moves_makeRoom place distance) (segmentOf_makeRoom place distance) tokens

/-- Tokens in front of the place stay where they are. -/
theorem map_makeRoom_of_lt {place : Nat} {tokens : List Token}
    (h : ∀ token ∈ tokens, token.start < place) (distance : Nat) :
    tokens.map (Token.makeRoom place distance) = tokens := by
  conv_rhs => rw [← List.map_id tokens]
  exact List.map_congr_left fun token hmem => if_neg (Nat.not_le.2 (h token hmem))

/-- Tokens behind the place lie further on. -/
theorem map_makeRoom_of_le {place : Nat} {tokens : List Token}
    (h : ∀ token ∈ tokens, place ≤ token.start) (distance : Nat) :
    tokens.map (Token.makeRoom place distance) = tokens.map (Token.shift distance) :=
  List.map_congr_left fun token hmem => if_pos (h token hmem)

section Traversals

variable {input : String} {span : Span} {before after blank : List Char}

/-- **White space between tokens makes room** in the text, and nothing else happens to the traversals. -/
theorem traversals_insert (hmarker : ['$', '\x7b'] <+: input.toList)
    (hinput : input.toList = before ++ after) (hblank : ∀ c ∈ blank, isBlank c = true)
    (h : IsBetween input span (byteLength before)) :
    traversals (String.ofList (before ++ (blank ++ after)))
      = (traversals input).map (makeRoom (byteLength before) (byteLength blank)) := by
  obtain ⟨body, hbody, rfl, front, back, htext, hplace, hseam⟩ := h.exists_seam hinput
  obtain ⟨earlier, later, hbodies, hinserted⟩ :=
    bodies_insert hbody hinput htext hplace hseam hblank
  obtain ⟨hearlier, hlater⟩ := bounds_around_body hbodies h.start_le h.le_stop
  have hmarker' : ['$', '\x7b'] <+: (String.ofList (before ++ (blank ++ after))).toList := by
    have hbefore : ['$', '\x7b'] <+: before := by
      refine isPrefix_of_byteLength_le hmarker ⟨after, hinput.symm⟩ ?_
      rw [hplace]
      exact (le_start_of_mem_bodiesFrom hbody).trans (Nat.le_add_right _ _)
    rw [String.toList_ofList]
    exact hbefore.trans (List.prefix_append _ _)
  rw [traversals_of_marker hmarker, traversals_of_marker hmarker', String.toList_ofList, hinserted,
    hbodies, List.map_flatMap, List.flatMap_append, List.flatMap_append, List.flatMap_cons,
    List.flatMap_cons, List.flatMap_map]
  congr 1
  · refine List.flatMap_congr fun other hother => ?_
    rw [← chains_makeRoom, map_makeRoom_of_lt fun token htoken => ?_]
    have := start_lt_stop_of_mem_tokensFrom htoken
    have := (bounds_of_mem_tokensFrom htoken).2
    have := hearlier other hother
    simp only [Body.span] at this
    omega
  congr 1
  · rw [tokensFrom_insert hseam hblank, ← hplace, ← htext, chains_makeRoom]
  · refine List.flatMap_congr fun other hother => ?_
    rw [← chains_makeRoom, map_makeRoom_of_le fun token htoken => ?_, Body.shift, tokensFrom_add]
    exact (hlater other hother).trans (bounds_of_mem_tokensFrom htoken).1

/-- **No segment reaches across a place between tokens.** -/
theorem outside_of_mem_traversals {place : Nat} (h : IsBetween input span place)
    {traversal : Traversal} (htraversal : traversal ∈ traversals input) :
    ∀ segment ∈ traversal.segments, segment.stop ≤ place ∨ place ≤ segment.start := by
  intro segment hsegment
  obtain ⟨body, hbody, rfl⟩ := List.mem_map.1 h.mem
  obtain ⟨earlier, later, hbodies⟩ := List.append_of_mem hbody
  obtain ⟨hearlier, hlater⟩ := bounds_around_body hbodies h.start_le h.le_stop
  obtain ⟨other, hother, hchain⟩ := exists_body_of_mem_traversals htraversal
  obtain ⟨token, htoken, rfl⟩ := List.mem_map.1
    ((chains_sublist _).subset (List.mem_flatMap.2 ⟨_, hchain, hsegment⟩))
  have hbounds := bounds_of_mem_tokensFrom htoken
  rw [hbodies] at hother
  rcases List.mem_append.1 hother with hother | hother
  · exact Or.inl (hbounds.2.trans (hearlier other hother))
  rcases List.mem_cons.1 hother with rfl | hother
  · refine h.outside token ?_
    rwa [tokenize_span hbody]
  · exact Or.inr ((hlater other hother).trans hbounds.1)

end Traversals

end Traversal

end ConfigRefs
