import ConfigRefs.Proofs.Interpolation.Place

/-!
# Interpolation: the bodies divide the text

What stands in front of a body ends with its marker, and no dollar sign escapes that
(`exists_marker_of_mem_bodiesFrom`). Conversely, a marker that belongs to no body stands behind a dollar
sign (`exists_body_or_getLast?`). Only the last body may be unclosed, and each one lies behind the brace
of the one before (`pairwise_bodiesFrom_closed`). In byte ranges this is `interpolations_partition`.
-/

namespace ConfigRefs.Interpolation

open ConfigRefs.Text

/-! ### Markers -/

/-- An interpolation with its delimiters. -/
def delimited (inside : List Char) : List Char := '$' :: '\x7b' :: (inside ++ ['\x7d'])

theorem byteLength_marker (text : List Char) :
    byteLength ('$' :: '\x7b' :: text) = byteLength text + 2 := by
  have hmarker : Char.utf8Size '$' = 1 ∧ Char.utf8Size '\x7b' = 1 := ⟨rfl, rfl⟩
  simp only [byteLength_cons, hmarker]
  omega

theorem byteLength_escaped (text : List Char) :
    byteLength ('$' :: '$' :: '\x7b' :: text) = byteLength text + 3 := by
  have hdollar : Char.utf8Size '$' = 1 := rfl
  rw [byteLength_cons, byteLength_marker, hdollar]
  omega

theorem byteLength_delimited (inside : List Char) :
    byteLength (delimited inside) = byteLength inside + 3 := by
  have hbrace : byteLength ['\x7d'] = 1 := rfl
  rw [delimited, byteLength_marker, byteLength_append, hbrace]

theorem eq_delimited_append {text inside behind : List Char}
    (h : body? text = some (inside, behind)) :
    '$' :: '\x7b' :: text = delimited inside ++ behind := by
  simp [delimited, eq_of_body? h]

section Markers

variable {offset : Nat} {front gap text : List Char} {c : Char}

theorem getLast?_append_ne (hfront : front.getLast? ≠ some c) (hgap : gap.getLast? ≠ some c) :
    (front ++ gap).getLast? ≠ some c := by
  rw [List.getLast?_append]
  cases h : gap.getLast? with
  | none => exact hfront
  | some d => rwa [h] at hgap

theorem getLast?_append_eq (front : List Char) (hgap : gap.getLast? = some c) :
    (front ++ gap).getLast? = some c := by
  rw [List.getLast?_append, hgap]
  rfl

/-- **A body begins behind a marker**, and no dollar sign stands before that. -/
theorem exists_marker_of_mem_bodiesFrom {body : Body} (hmem : body ∈ bodiesFrom offset text) :
    ∃ gap rest, text = gap ++ '$' :: '\x7b' :: rest ∧ body.start = offset + byteLength gap + 2 ∧
      gap.getLast? ≠ some '$' := by
  fun_induction bodiesFrom offset text with
  | case1 => cases hmem
  | case2 offset rest ih =>
    obtain ⟨gap, behind, rfl, hstart, hlast⟩ := ih hmem
    refine ⟨'$' :: '$' :: '\x7b' :: gap, behind, rfl, by rw [byteLength_escaped]; omega, ?_⟩
    have hmarker : ['$', '$', '\x7b'].getLast? ≠ some '$' := by decide
    exact getLast?_append_ne hmarker hlast
  | case3 offset rest hbody =>
    obtain rfl := List.mem_singleton.1 hmem
    exact ⟨[], rest, rfl, rfl, by simp⟩
  | case4 offset rest inside behind hbody ih =>
    rcases List.mem_cons.1 hmem with rfl | hmem
    · exact ⟨[], rest, rfl, rfl, by simp⟩
    · obtain ⟨gap, after, rfl, hstart, hlast⟩ := ih hmem
      have htext := eq_delimited_append hbody
      refine ⟨delimited inside ++ gap, after, by rw [htext, List.append_assoc], ?_, ?_⟩
      · rw [byteLength_append, byteLength_delimited]
        omega
      · refine getLast?_append_ne ?_ hlast
        rw [delimited, ← List.cons_append, ← List.cons_append, List.getLast?_concat]
        decide
  | case5 offset c rest hescaped hmarker ih =>
    obtain ⟨gap, behind, rfl, hstart, hlast⟩ := ih hmem
    refine ⟨c :: gap, behind, rfl, by rw [byteLength_cons]; omega, ?_⟩
    cases gap with
    | nil =>
      -- a dollar sign here and the marker behind it would be the escaped marker
      intro hdollar
      exact hescaped behind (Option.some.inj hdollar) rfl
    | cons d gap => rwa [List.getLast?_cons_cons]

/-- **A marker belongs to a body or stands behind a dollar sign.** -/
theorem exists_body_or_getLast? (offset : Nat) {behind : List Char}
    (h : text = gap ++ '$' :: '\x7b' :: behind) :
    (∃ body ∈ bodiesFrom offset text,
        body.start ≤ offset + byteLength gap + 2 ∧ offset + byteLength gap ≤ body.span.stop) ∨
      gap.getLast? = some '$' := by
  fun_induction bodiesFrom offset text generalizing gap with
  | case1 => simp at h
  | case2 offset rest ih =>
    rcases gap with _ | ⟨a, _ | ⟨b, _ | ⟨c, gap⟩⟩⟩
    · simp at h
    · obtain ⟨rfl, -⟩ := List.cons.inj h
      exact Or.inr rfl
    · simp at h
    · obtain ⟨rfl, rfl, rfl, hrest⟩ : '$' = a ∧ '$' = b ∧ '\x7b' = c ∧
          rest = gap ++ '$' :: '\x7b' :: behind := by simpa using h
      rw [byteLength_escaped]
      rcases ih hrest with ⟨body, hmem, hstart, hstop⟩ | hlast
      · exact Or.inl ⟨body, hmem, by omega, by omega⟩
      · exact Or.inr (getLast?_append_eq ['$', '$', '\x7b'] hlast)
  | case3 offset rest hbody =>
    have hlength := congrArg byteLength h
    rw [byteLength_append, byteLength_marker, byteLength_marker] at hlength
    exact Or.inl ⟨_, List.mem_singleton_self _, by simp only; omega, by simp only [Body.span]; omega⟩
  | case4 offset rest inside after hbody ih =>
    have htext := eq_delimited_append hbody
    have hlength := byteLength_delimited inside
    rcases Nat.lt_or_ge (byteLength inside + 2) (byteLength gap) with hlt | hle
    · -- the marker lies behind the body, so what is before it begins with the body
      obtain ⟨gap, rfl⟩ : delimited inside <+: gap :=
        isPrefix_of_byteLength_le ⟨after, htext.symm⟩ ⟨_, h.symm⟩ (by omega)
      have hafter : after = gap ++ '$' :: '\x7b' :: behind := by
        rw [htext, List.append_assoc] at h
        exact List.append_cancel_left h
      rw [byteLength_append, hlength]
      rcases ih hafter with ⟨body, hmem, hstart, hstop⟩ | hlast
      · exact Or.inl ⟨body, List.mem_cons_of_mem _ hmem, by omega, by omega⟩
      · exact Or.inr (getLast?_append_eq _ hlast)
    · exact Or.inl ⟨_, List.mem_cons_self, by simp only; omega, by simp only [Body.span]; omega⟩
  | case5 offset c rest hescaped hmarker ih =>
    cases gap with
    | nil =>
      obtain ⟨rfl, rfl⟩ := List.cons.inj h
      exact (hmarker behind rfl rfl).elim
    | cons d gap =>
      obtain ⟨rfl, hrest⟩ := List.cons.inj h
      rw [byteLength_cons]
      rcases ih hrest with ⟨body, hmem, hstart, hstop⟩ | hlast
      · exact Or.inl ⟨body, hmem, by omega, by omega⟩
      · exact Or.inr (getLast?_append_eq [c] hlast)

end Markers

/-! ### Ranges -/

/-- Only the last body may be unclosed. -/
theorem closed_or_getLast? {text : List Char} {body : Body} (hmem : body ∈ bodies text) :
    body.closed = true ∨ (bodies text).getLast? = some body := by
  obtain ⟨front, back, hsplit⟩ := List.append_of_mem hmem
  have hpairwise : (bodies text).Pairwise fun a b =>
      a.closed = true ∧ a.span.stop + 3 ≤ b.span.start := pairwise_bodiesFrom_closed 0 text
  rw [hsplit] at hpairwise ⊢
  cases back with
  | nil => exact Or.inr List.getLast?_concat
  | cons next back =>
    have hback := (List.pairwise_append.1 hpairwise).2.1
    exact Or.inl (List.rel_of_pairwise_cons hback List.mem_cons_self).1

/-- **The interpolations divide a text.** They lie one behind the other with their delimiters. Each one
begins behind a marker that no dollar sign stands before, and ends at a brace, or as the last one at the
end of the text. Every other marker stands behind a dollar sign. -/
theorem interpolations_partition (input : String) :
    ((interpolations input).Pairwise fun a b => a.stop + 3 ≤ b.start) ∧
      (∀ span ∈ interpolations input, span.start ≤ span.stop ∧
        (∃ marker, marker + 2 = span.start ∧ StandsAt input.toList marker ['$', '\x7b'] ∧
          ∀ before, before + 1 = marker → ¬ StandsAt input.toList before ['$']) ∧
        (StandsAt input.toList span.stop ['\x7d'] ∨
          (interpolations input).getLast? = some span ∧ span.stop = byteLength input.toList)) ∧
      ∀ marker, StandsAt input.toList marker ['$', '\x7b'] →
        (∀ span ∈ interpolations input, marker + 2 < span.start ∨ span.stop < marker) →
          ∃ before, before + 1 = marker ∧ StandsAt input.toList before ['$'] := by
  refine ⟨?_, fun span hspan => ?_, fun marker hmarker houtside => ?_⟩
  · exact List.pairwise_map.2 ((pairwise_bodiesFrom_closed 0 input.toList).imp And.right)
  · obtain ⟨body, hbody, rfl⟩ := List.mem_map.1 hspan
    refine ⟨Nat.le_add_right _ _, ?_, ?_⟩
    · obtain ⟨gap, rest, htext, hstart, hlast⟩ := exists_marker_of_mem_bodiesFrom hbody
      refine ⟨byteLength gap, ?_, ⟨gap, rest, by rw [htext]; simp, rfl⟩, fun before hbefore h => ?_⟩
      · simp only [Body.span]
        omega
      · rw [htext] at h
        exact hlast (exists_standsAt_iff_getLast?.1 ⟨before, hbefore, h⟩)
    · rcases closed_or_getLast? hbody with hclosed | hlast
      · exact Or.inl ((closed_iff_of_mem_bodies hbody).1 hclosed)
      · rcases Bool.eq_false_or_eq_true body.closed with hclosed | hopen
        · exact Or.inl ((closed_iff_of_mem_bodies hbody).1 hclosed)
        · refine Or.inr ⟨?_, stop_of_not_closed hbody hopen⟩
          rw [interpolations, List.getLast?_map, hlast]
          rfl
  · obtain ⟨gap, behind, htext, rfl⟩ := hmarker
    rw [List.append_assoc] at htext
    rcases exists_body_or_getLast? 0 htext with ⟨body, hmem, hstart, hstop⟩ | hlast
    · have := houtside body.span (List.mem_map_of_mem hmem)
      simp only [Body.span] at this hstop
      omega
    · rw [htext]
      exact exists_standsAt_iff_getLast?.2 hlast

/-- An escaped marker behind one more dollar sign, a body with a quoted brace, an escaped marker right
behind it, and a body that is not closed. -/
theorem interpolations_partition_dollars :
    let input := "$$$\x7b$\x7b\"\x7d\"\x7d$$\x7b$\x7bé"
    interpolations input = [⟨6, 9⟩, ⟨15, 17⟩] ∧ (6 : Nat) ≤ 9 ∧
      (∃ marker, marker + 2 = 6 ∧ StandsAt input.toList marker ['$', '\x7b'] ∧
        ∀ before, before + 1 = marker → ¬ StandsAt input.toList before ['$']) ∧
      (StandsAt input.toList 9 ['\x7d'] ∨
        (interpolations input).getLast? = some ⟨6, 9⟩ ∧ 9 = byteLength input.toList) ∧
      StandsAt input.toList 11 ['$', '\x7b'] ∧
      ∃ before, before + 1 = 11 ∧ StandsAt input.toList before ['$'] := by
  intro input
  have hspans : interpolations input = [⟨6, 9⟩, ⟨15, 17⟩] := by
    unfold input
    decide +kernel
  have hmarker : StandsAt input.toList 11 ['$', '\x7b'] :=
    ⟨input.toList.take 11, input.toList.drop 13, by decide, by decide⟩
  have hmem : (⟨6, 9⟩ : Span) ∈ interpolations input := by simp [hspans]
  have houtside : ∀ span ∈ interpolations input, 11 + 2 < span.start ∨ span.stop < 11 := by
    simp [hspans]
  obtain ⟨-, hspan, hescaped⟩ := interpolations_partition input
  obtain ⟨hle, hstart, hstop⟩ := hspan ⟨6, 9⟩ hmem
  exact ⟨hspans, hle, hstart, hstop, hmarker, hescaped 11 hmarker houtside⟩

end ConfigRefs.Interpolation
