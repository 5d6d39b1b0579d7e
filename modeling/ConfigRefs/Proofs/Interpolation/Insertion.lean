import ConfigRefs.Proofs.Interpolation.Locality
import ConfigRefs.Proofs.Token.Seam

/-!
# Interpolation: white space in a body

What is in front of the marker of a body is read the same whatever is behind the marker
(`exists_front_of_mem_bodiesFrom`). White space at a seam in a body leaves that body as it is but for the
white space, and moves the bodies behind it (`bodies_insert`).
-/

namespace ConfigRefs.Interpolation

open ConfigRefs.Text ConfigRefs.Token

/-! ### One body -/

theorem endsBody_of_body? {text inside behind : List Char} (h : body? text = some (inside, behind)) :
    EndsBody true 0 inside := by
  have hreplaced := closing?_replace (closing?_of_body? h) []
  rwa [List.append_nil] at hreplaced

/-- A text that ends a closed body is one, whatever is behind its brace. -/
theorem body?_of_endsBody {inside : List Char} (h : EndsBody true 0 inside) (behind : List Char) :
    body? (inside ++ '\x7d' :: behind) = some (inside, behind) := by
  have hclosing : closing? [.brace] (inside ++ ['\x7d'] ++ behind)
      = some (inside ++ ['\x7d'], behind) := closing?_replace h behind
  rw [List.append_assoc, List.singleton_append] at hclosing
  rw [body?, hclosing, Option.map_some, List.dropLast_concat]

/-- What ends a body ends it also behind a piece that is read as a whole. -/
theorem EndsBody.reads_append {closed : Bool} {depth after : Nat} {piece text : List Char}
    (h : EndsBody closed after text) (hreads : Reads depth piece after) :
    EndsBody closed depth (piece ++ text) := by
  cases closed with
  | true =>
    rw [EndsBody] at h
    rw [EndsBody, List.append_assoc, hreads, h, Option.map_some, prepend]
  | false => rwa [EndsBody, hreads, Option.map_eq_none_iff]

/-- **White space at a seam** in a body does not change how the body ends. -/
theorem EndsBody.insert {closed : Bool} {front back blank : List Char}
    (h : EndsBody closed 0 (front ++ back)) (hseam : Seam front back)
    (hblank : ∀ c ∈ blank, isBlank c = true) : EndsBody closed 0 (front ++ (blank ++ back)) := by
  obtain ⟨depth, hfront⟩ := hseam.exists_reads h
  have hread : Reads depth blank depth :=
    reads_plain fun c hc => isPlain_of_isBlank (hblank c hc)
  exact ((h.of_reads hfront).reads_append hread).reads_append hfront

/-! ### The text in front of a body -/

/-- **What is in front of a body** does not depend on what is behind its marker. -/
theorem exists_front_of_mem_bodiesFrom {offset : Nat} {text : List Char} {body : Body}
    (hmem : body ∈ bodiesFrom offset text) : ∃ front rest earlier,
      text = front ++ '$' :: '\x7b' :: rest ∧ body.start = offset + byteLength front + 2 ∧
      (bodiesFrom (offset + byteLength front) ('$' :: '\x7b' :: rest)).head? = some body ∧
      ∀ other, bodiesFrom offset (front ++ '$' :: '\x7b' :: other)
        = earlier ++ bodiesFrom (offset + byteLength front) ('$' :: '\x7b' :: other) := by
  fun_induction bodiesFrom offset text with
  | case1 => cases hmem
  | case2 offset rest ih =>
    obtain ⟨front, behind, earlier, rfl, hstart, hhead, hother⟩ := ih hmem
    have hplace : offset + byteLength ('$' :: '$' :: '\x7b' :: front) = offset + 3 + byteLength front := by
      rw [byteLength_escaped]
      omega
    refine ⟨'$' :: '$' :: '\x7b' :: front, behind, earlier, rfl, ?_, ?_, fun other => ?_⟩
    · rw [hplace, hstart]
    · rw [hplace, hhead]
    · rw [hplace, ← hother]
      exact bodiesFrom_escaped offset _
  | case3 offset rest hbody =>
    obtain rfl := List.mem_singleton.1 hmem
    exact ⟨[], rest, [], rfl, rfl, by rw [byteLength_nil, bodiesFrom_unclosed _ hbody]; rfl,
      fun other => rfl⟩
  | case4 offset rest inside behind hbody ih =>
    rcases List.mem_cons.1 hmem with rfl | hmem
    · exact ⟨[], rest, [], rfl, rfl, by rw [byteLength_nil, bodiesFrom_closed _ hbody]; rfl,
        fun other => rfl⟩
    · obtain ⟨front, after, earlier, rfl, hstart, hhead, hother⟩ := ih hmem
      have htext := eq_delimited_append hbody
      have hplace : offset + byteLength (delimited inside ++ front)
          = offset + 2 + byteLength inside + 1 + byteLength front := by
        rw [byteLength_append, byteLength_delimited]
        omega
      refine ⟨delimited inside ++ front, after, ⟨offset + 2, inside, true⟩ :: earlier,
        by rw [htext, List.append_assoc], ?_, ?_, fun other => ?_⟩
      · rw [hplace, hstart]
      · rw [hplace, hhead]
      · have hread := body?_of_endsBody (endsBody_of_body? hbody) (front ++ '$' :: '\x7b' :: other)
        have hfirst := bodiesFrom_closed offset hread
        rw [hplace, List.cons_append, ← hother, ← hfirst]
        simp [delimited]
  | case5 offset c rest hescaped hmarker ih =>
    obtain ⟨front, behind, earlier, rfl, hstart, hhead, hother⟩ := ih hmem
    have hplace : offset + byteLength (c :: front) = offset + c.utf8Size + byteLength front := by
      rw [byteLength_cons, Nat.add_assoc]
    refine ⟨c :: front, behind, earlier, rfl, ?_, ?_, fun other => ?_⟩
    · rw [hplace, hstart]
    · rw [hplace, hhead]
    · have hseam : ∀ more, c = '$' → front ++ '$' :: '\x7b' :: other ≠ '\x7b' :: more := by
        rintro more rfl h
        cases front with
        | nil => exact absurd (List.cons.inj h).1 (by decide)
        | cons d front => exact hmarker _ rfl (by rw [(List.cons.inj h).1]; rfl)
      have hseam' : ∀ more, c = '$' → front ++ '$' :: '\x7b' :: other ≠ '$' :: '\x7b' :: more := by
        rintro more rfl h
        rcases front with _ | ⟨d, _ | ⟨e, front⟩⟩
        · exact hescaped behind rfl rfl
        · simp at h
        · obtain ⟨rfl, rfl, -⟩ : d = '$' ∧ e = '\x7b' ∧ front ++ '$' :: '\x7b' :: other = more := by
            simpa using h
          exact hescaped _ rfl rfl
      rw [hplace, ← hother, List.cons_append, bodiesFrom_other offset hseam' hseam]

/-! ### White space in a body -/

/-- **White space in a body.** At a seam it changes nothing but that body, and the bodies behind it lie
further on. -/
theorem bodies_insert {text before after front back blank : List Char} {body : Body}
    (hmem : body ∈ bodies text) (htext : text = before ++ after) (hbody : body.text = front ++ back)
    (hplace : byteLength before = body.start + byteLength front) (hseam : Seam front back)
    (hblank : ∀ c ∈ blank, isBlank c = true) : ∃ earlier later,
      bodies text = earlier ++ body :: later ∧
      bodies (before ++ (blank ++ after)) = earlier
        ++ ⟨body.start, front ++ (blank ++ back), body.closed⟩
          :: later.map (Body.shift (byteLength blank)) := by
  obtain ⟨lead, rest, earlier, rfl, hstart, hhead, hother⟩ := exists_front_of_mem_bodiesFrom hmem
  have hends : EndsBody body.closed 0 (front ++ (blank ++ back)) :=
    (hbody ▸ endsBody_of_mem_bodies hmem).insert hseam hblank
  have hcut (tail : List Char) (hrest : rest = front ++ tail) :
      before = lead ++ '$' :: '\x7b' :: front ∧ after = tail := by
    have hsplit : before ++ after = (lead ++ '$' :: '\x7b' :: front) ++ tail := by
      rw [← htext, hrest, List.append_assoc]
      rfl
    refine append_inj_of_byteLength_eq hsplit ?_
    rw [hplace, hstart, byteLength_append, byteLength_marker]
    omega
  cases hread : body? rest with
  | none =>
    rw [bodiesFrom_unclosed _ hread, List.head?_cons, Option.some.injEq] at hhead
    subst hhead
    obtain ⟨rfl, rfl⟩ := hcut back hbody
    have hnew : body? (front ++ (blank ++ after)) = none := Option.map_eq_none_iff.2 hends
    refine ⟨earlier, [], ?_, ?_⟩
    · rw [bodies, hother, bodiesFrom_unclosed _ hread]
    · rw [List.append_assoc, bodies, List.cons_append, List.cons_append, hother,
        bodiesFrom_unclosed _ hnew, List.map_nil]
  | some split =>
    obtain ⟨inside, behind⟩ := split
    rw [bodiesFrom_closed _ hread, List.head?_cons, Option.some.injEq] at hhead
    subst hhead
    obtain rfl : inside = front ++ back := hbody
    obtain ⟨rfl, rfl⟩ := hcut (back ++ '\x7d' :: behind) (by
      rw [eq_of_body? hread, List.append_assoc])
    have hnew := body?_of_endsBody hends behind
    have hbehind : 0 + byteLength lead + 2 + byteLength (front ++ (blank ++ back)) + 1
        = 0 + byteLength lead + 2 + byteLength (front ++ back) + 1 + byteLength blank := by
      simp only [byteLength_append]
      omega
    refine ⟨earlier, bodiesFrom (0 + byteLength lead + 2 + byteLength (front ++ back) + 1) behind,
      ?_, ?_⟩
    · rw [bodies, hother, bodiesFrom_closed _ hread]
    · rw [← bodiesFrom_add, ← hbehind, ← bodiesFrom_closed _ hnew, ← hother, bodies]
      simp

end ConfigRefs.Interpolation
