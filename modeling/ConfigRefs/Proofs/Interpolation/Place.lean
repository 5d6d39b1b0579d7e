import ConfigRefs.Interpolation.Body
import ConfigRefs.Proofs.Interpolation.Nesting
import ConfigRefs.Proofs.Text.Place

/-!
# Interpolation: the places of bodies

A body is followed by the brace that closes it (`eq_of_body?`), and only a body that is not closed goes
on up to the end of the text (`closed_iff_of_mem_bodies`). The bodies in a text stand in it
(`standsAt_of_mem_bodiesFrom`), each behind the one before (`pairwise_bodiesFrom`).
-/

namespace ConfigRefs.Interpolation

open ConfigRefs.Text

/-- The delimiter that closes a frame. -/
def Frame.closer : Frame → Char
  | .brace => '\x7d'
  | .quote => '"'

theorem getLast?_consFst {c d : Char} {split : List Char × List Char} (h : split.1.getLast? = some d) :
    (consFst c split).1.getLast? = some d := by
  rw [consFst, List.getLast?_cons, h, Option.getD_some]

/-- **What is split off ends with the delimiter that closes the last open frame.** -/
theorem getLast?_of_closing? {frames : List Frame} {text : List Char}
    {split : List Char × List Char} {frame : Frame} (h : closing? frames text = some split)
    (hframe : frames.getLast? = some frame) : split.1.getLast? = some frame.closer := by
  fun_induction closing? frames text generalizing split <;>
    grind [getLast?_consFst, consFst, Option.map_eq_some_iff, Frame.closer, closing?]

/-- A body is what is split off without the brace that closes it. -/
theorem closing?_of_body? {text inside behind : List Char} (h : body? text = some (inside, behind)) :
    closing? [.brace] text = some (inside ++ ['\x7d'], behind) := by
  obtain ⟨⟨front, back⟩, hclosing, heq⟩ := Option.map_eq_some_iff.1 h
  obtain ⟨rfl, rfl⟩ := Prod.mk.inj heq
  obtain ⟨inside, rfl⟩ := List.getLast?_eq_some_iff.1
    (getLast?_of_closing? hclosing List.getLast?_singleton)
  rw [hclosing, List.dropLast_concat]
  rfl

/-- **The brace that closes a body is the one behind it.** -/
theorem eq_of_body? {text inside behind : List Char} (h : body? text = some (inside, behind)) :
    text = inside ++ '\x7d' :: behind := by
  rw [closing?_append (closing?_of_body? h), List.append_assoc]
  rfl

/-! ### What comes next -/

section Next

variable (offset : Nat) {rest inside behind : List Char}

theorem bodiesFrom_escaped (rest : List Char) :
    bodiesFrom offset ('$' :: '$' :: '\x7b' :: rest) = bodiesFrom (offset + 3) rest := by
  rw [bodiesFrom]

theorem bodiesFrom_unclosed (h : body? rest = none) :
    bodiesFrom offset ('$' :: '\x7b' :: rest) = [⟨offset + 2, rest, false⟩] := by
  rw [bodiesFrom]
  split
  · rfl
  · next heq => rw [h] at heq; cases heq

theorem bodiesFrom_closed (h : body? rest = some (inside, behind)) :
    bodiesFrom offset ('$' :: '\x7b' :: rest)
      = ⟨offset + 2, inside, true⟩ :: bodiesFrom (offset + 2 + byteLength inside + 1) behind := by
  rw [bodiesFrom]
  split
  · next heq => rw [h] at heq; cases heq
  · next heq =>
    rw [h] at heq
    obtain ⟨rfl, rfl⟩ := Prod.mk.inj (Option.some.inj heq)
    rfl

/-- A character that no marker begins with, escaped or not. -/
theorem bodiesFrom_other {c : Char} (hescaped : ∀ more, c = '$' → rest ≠ '$' :: '\x7b' :: more)
    (hmarker : ∀ more, c = '$' → rest ≠ '\x7b' :: more) :
    bodiesFrom offset (c :: rest) = bodiesFrom (offset + c.utf8Size) rest := by
  rw [bodiesFrom]
  · exact hescaped
  · exact hmarker

end Next

/-! ### The bodies of a text -/

section Bodies

variable {whole text : List Char} {offset : Nat}

/-- **The bodies stand in the text.** -/
theorem standsAt_of_mem_bodiesFrom {body : Body} (h : StandsAt whole offset text)
    (hmem : body ∈ bodiesFrom offset text) : StandsAt whole body.start body.text := by
  fun_induction bodiesFrom offset text with
  | case1 => cases hmem
  | case2 offset rest ih => exact ih (h.right ['$', '$', '\x7b']) hmem
  | case3 offset rest hbody =>
    obtain rfl := List.mem_singleton.1 hmem
    exact h.right ['$', '\x7b']
  | case4 offset rest inside behind hbody ih =>
    have hrest : StandsAt whole (offset + 2) (inside ++ '\x7d' :: behind) := by
      rw [← eq_of_body? hbody]
      exact h.right ['$', '\x7b']
    rcases List.mem_cons.1 hmem with rfl | hmem
    · exact hrest.left
    · exact ih ((hrest.right inside).right ['\x7d']) hmem
  | case5 offset c rest _ _ ih => exact ih (h.right [c]) hmem

/-- **A body is what is read behind its marker**, or all of the rest if nothing closes it. -/
theorem exists_rest_of_mem_bodiesFrom {body : Body} (h : RestAt whole offset text)
    (hmem : body ∈ bodiesFrom offset text) : ∃ rest, RestAt whole body.start rest ∧
      (body.closed = true ∧ (∃ behind, body? rest = some (body.text, behind)) ∨
        body.closed = false ∧ body? rest = none ∧ body.text = rest) := by
  fun_induction bodiesFrom offset text with
  | case1 => cases hmem
  | case2 offset rest ih => exact ih (h.right ['$', '$', '\x7b']) hmem
  | case3 offset rest hbody =>
    obtain rfl := List.mem_singleton.1 hmem
    exact ⟨rest, h.right ['$', '\x7b'], Or.inr ⟨rfl, hbody, rfl⟩⟩
  | case4 offset rest inside behind hbody ih =>
    have hrest : RestAt whole (offset + 2) rest := h.right ['$', '\x7b']
    rcases List.mem_cons.1 hmem with rfl | hmem
    · exact ⟨rest, hrest, Or.inl ⟨rfl, behind, hbody⟩⟩
    · rw [eq_of_body? hbody] at hrest
      exact ih ((hrest.right inside).right ['\x7d']) hmem
  | case5 offset c rest _ _ ih => exact ih (h.right [c]) hmem

/-- A body that is not closed goes on up to the end of the text. -/
theorem stop_of_not_closed {body : Body} (hmem : body ∈ bodies text) (hopen : body.closed = false) :
    body.span.stop = byteLength text := by
  obtain ⟨rest, hrest, ⟨hclosed, -⟩ | ⟨-, -, rfl⟩⟩ :=
    exists_rest_of_mem_bodiesFrom (restAt_zero text) hmem
  · rw [hopen] at hclosed
    cases hclosed
  · exact hrest.byteLength_eq.symm

/-- **A body is closed iff there is a brace behind it.** -/
theorem closed_iff_of_mem_bodies {body : Body} (hmem : body ∈ bodies text) :
    body.closed = true ↔ StandsAt text body.span.stop ['\x7d'] := by
  constructor
  · intro hclosed
    obtain ⟨rest, hrest, ⟨-, behind, hbody⟩ | ⟨hopen, -⟩⟩ :=
      exists_rest_of_mem_bodiesFrom (restAt_zero text) hmem
    · rw [eq_of_body? hbody] at hrest
      obtain ⟨before, htext, hbefore⟩ := hrest.right body.text
      exact ⟨before, behind, by rw [htext]; simp, hbefore⟩
    · rw [hclosed] at hopen
      cases hopen
  · rintro ⟨before, behind, htext, hstop⟩
    rw [← Bool.not_eq_false]
    intro hopen
    have hlength := stop_of_not_closed hmem hopen
    have hbrace : 0 < byteLength ['\x7d'] := byteLength_pos
    rw [htext, byteLength_append, byteLength_append, hstop] at hlength
    omega

/-- No body begins before the text that it is found in, and none ends behind it. -/
theorem le_start_of_mem_bodiesFrom {body : Body} (hmem : body ∈ bodiesFrom offset text) :
    offset + 2 ≤ body.start := by
  fun_induction bodiesFrom offset text with
  | case1 => cases hmem
  | case2 offset rest ih => have := ih hmem; omega
  | case3 offset rest hbody =>
    obtain rfl := List.mem_singleton.1 hmem
    exact Nat.le_refl _
  | case4 offset rest inside behind hbody ih =>
    rcases List.mem_cons.1 hmem with rfl | hmem
    · exact Nat.le_refl _
    · have := ih hmem
      omega
  | case5 offset c rest _ _ ih => have := ih hmem; omega

/-- **Each body lies behind the one before**, which is closed, and the delimiters stand between them. -/
theorem pairwise_bodiesFrom_closed (offset : Nat) (text : List Char) :
    (bodiesFrom offset text).Pairwise fun a b => a.closed = true ∧ a.span.stop + 3 ≤ b.span.start := by
  fun_induction bodiesFrom offset text with
  | case1 => exact List.Pairwise.nil
  | case2 offset rest ih => exact ih
  | case3 offset rest hbody => exact List.pairwise_singleton _ _
  | case4 offset rest inside behind hbody ih =>
    refine List.Pairwise.cons (fun body hmem => ⟨rfl, ?_⟩) ih
    have := le_start_of_mem_bodiesFrom hmem
    simp only [Body.span]
    omega
  | case5 offset c rest _ _ ih => exact ih

theorem pairwise_bodiesFrom (offset : Nat) (text : List Char) :
    (bodiesFrom offset text).Pairwise fun a b => a.span.stop ≤ b.span.start :=
  (pairwise_bodiesFrom_closed offset text).imp fun h => by omega

end Bodies

end ConfigRefs.Interpolation
