import ConfigRefs.Token.Lexer
import ConfigRefs.Proofs.Text.Place
import Mathlib.Data.List.TakeWhile

/-!
# Token: the places of tokens

A token is what the lexer takes for one at its first character (`exists_classify_of_mem_tokensFrom`). So
the tokens of a text are not empty (`start_lt_stop_of_mem_tokensFrom`), they stand in it
(`standsAt_of_mem_tokensFrom`), and each one lies behind the one before (`pairwise_tokensFrom`).
-/

namespace ConfigRefs.Token

open ConfigRefs.Text ConfigRefs.Interpolation

/-- A token and what is behind it. -/
theorem cons_take_append_drop (c : Char) (rest : List Char) (more : Nat) :
    (c :: rest.take more) ++ rest.drop more = c :: rest := by
  rw [List.cons_append, List.take_append_drop]

theorem take_length_takeWhile {α : Type} (p : α → Bool) (items : List α) :
    items.take (items.takeWhile p).length = items.takeWhile p :=
  (List.prefix_iff_eq_take.1 (List.takeWhile_prefix p)).symm

theorem drop_length_takeWhile {α : Type} (p : α → Bool) (items : List α) :
    items.drop (items.takeWhile p).length = items.dropWhile p := by
  have hsplit := List.take_append_drop (items.takeWhile p).length items
  rw [take_length_takeWhile] at hsplit
  exact List.append_cancel_left (hsplit.trans List.takeWhile_append_dropWhile.symm)

/-- The lexer decides by the first character what it reads: a word, a number, a quoted string, or
punctuation. -/
theorem classify_eq (c : Char) :
    (beginsWord c = true ∧
        ∀ rest, classify c rest = (.ident, (rest.takeWhile continuesWord).length)) ∨
      (c.isDigit = true ∧
        ∀ rest, classify c rest = (.number, (rest.takeWhile Char.isDigit).length)) ∨
      (c = '"' ∧ ∀ rest, classify c rest = (.str, quotedLength rest)) ∨
      ∀ rest, classify c rest = punctuation c rest := by
  by_cases hword : beginsWord c = true
  · exact Or.inl ⟨hword, fun rest => if_pos hword⟩
  by_cases hdigit : c.isDigit = true
  · refine Or.inr (Or.inl ⟨hdigit, fun rest => ?_⟩)
    rw [classify, if_neg hword, if_pos hdigit]
  by_cases hquote : c = '"'
  · refine Or.inr (Or.inr (Or.inl ⟨hquote, fun rest => ?_⟩))
    rw [classify, if_neg hword, if_neg hdigit, if_pos hquote]
  · refine Or.inr (Or.inr (Or.inr fun rest => ?_))
    rw [classify, if_neg hword, if_neg hdigit, if_neg hquote]

/-- A token in front of a text. -/
theorem tokensFrom_cons {c : Char} (hc : isBlank c = false) (offset : Nat) (rest : List Char) :
    tokensFrom offset (c :: rest)
      = ⟨(classify c rest).1, offset, c :: rest.take (classify c rest).2⟩
        :: tokensFrom (offset + byteLength (c :: rest.take (classify c rest).2))
          (rest.drop (classify c rest).2) := by
  rw [tokensFrom, if_neg (by simp [hc])]

/-- All characters that a word or a number takes are of the kind that it takes. -/
theorem of_mem_takeWhile {accept : Char → Bool} {P : Char → Prop} {c : Char} {rest : List Char}
    (hc : accept c = true) (haccept : ∀ d, accept d = true → P d) :
    ∀ d ∈ c :: rest.take (rest.takeWhile accept).length, P d := by
  intro d hd
  rw [take_length_takeWhile] at hd
  rcases List.mem_cons.1 hd with rfl | hd
  · exact haccept d hc
  · exact haccept d (List.mem_takeWhile_imp hd)

/-- Behind its first character, punctuation takes only ASCII characters. -/
theorem byteLength_take_punctuation (c : Char) (behind : List Char) :
    byteLength (behind.take (punctuation c behind).2) = (punctuation c behind).2 := by
  fun_cases punctuation c behind <;> rfl

section Places

variable {whole text : List Char} {offset : Nat} {token : Token}

/-- **A token is what the lexer takes for one** at the character that it begins with. -/
theorem exists_classify_of_mem_tokensFrom (hmem : token ∈ tokensFrom offset text) :
    ∃ before c rest, text = before ++ c :: rest ∧ token.start = offset + byteLength before ∧
      isBlank c = false ∧ token.kind = (classify c rest).1 ∧
        token.text = c :: rest.take (classify c rest).2 := by
  fun_induction tokensFrom offset text with
  | case1 => cases hmem
  | case2 offset c rest _ ih =>
    obtain ⟨before, d, behind, rfl, hstart, hd⟩ := ih hmem
    rw [Nat.add_assoc] at hstart
    exact ⟨c :: before, d, behind, rfl, hstart, hd⟩
  | case3 offset c rest hblank kind more hclassify piece ih =>
    rcases List.mem_cons.1 hmem with rfl | hmem
    · exact ⟨[], c, rest, rfl, rfl, by simpa using hblank, by rw [hclassify], by rw [hclassify]⟩
    · obtain ⟨before, d, behind, hrest, hstart, hd⟩ := ih hmem
      have hsplit : c :: rest = piece ++ before ++ d :: behind := by
        rw [List.append_assoc, ← hrest, cons_take_append_drop]
      rw [Nat.add_assoc, ← byteLength_append] at hstart
      exact ⟨piece ++ before, d, behind, hsplit, hstart, hd⟩

/-- A token with what is before and behind it. -/
theorem exists_eq_append_of_mem_tokensFrom (hmem : token ∈ tokensFrom offset text) :
    ∃ before behind, text = before ++ (token.text ++ behind) ∧
      token.start = offset + byteLength before := by
  obtain ⟨before, c, rest, rfl, hstart, -, -, htext⟩ := exists_classify_of_mem_tokensFrom hmem
  refine ⟨before, rest.drop (classify c rest).2, ?_, hstart⟩
  rw [htext, cons_take_append_drop]

theorem start_lt_stop_of_mem_tokensFrom (hmem : token ∈ tokensFrom offset text) :
    token.start < token.stop := by
  obtain ⟨before, c, rest, -, -, -, -, htext⟩ := exists_classify_of_mem_tokensFrom hmem
  have hpos : 0 < byteLength token.text := by
    rw [htext]
    exact byteLength_pos
  rw [stop]
  omega

/-- **The tokens stand in the text.** -/
theorem standsAt_of_mem_tokensFrom (h : StandsAt whole offset text)
    (hmem : token ∈ tokensFrom offset text) : StandsAt whole token.start token.text := by
  obtain ⟨before, behind, rfl, hstart⟩ := exists_eq_append_of_mem_tokensFrom hmem
  rw [hstart]
  exact (h.right before).left

/-- No token begins before the text that it is found in, and none ends behind it. -/
theorem bounds_of_mem_tokensFrom (hmem : token ∈ tokensFrom offset text) :
    offset ≤ token.start ∧ token.stop ≤ offset + byteLength text := by
  obtain ⟨before, behind, rfl, hstart⟩ := exists_eq_append_of_mem_tokensFrom hmem
  rw [stop, byteLength_append, byteLength_append]
  omega

/-- **Each token lies behind the one before.** -/
theorem pairwise_tokensFrom (offset : Nat) (text : List Char) :
    (tokensFrom offset text).Pairwise fun a b => a.stop ≤ b.start := by
  fun_induction tokensFrom offset text with
  | case1 => exact List.Pairwise.nil
  | case2 offset c rest _ ih => exact ih
  | case3 offset c rest _ kind more _ piece ih =>
    exact List.Pairwise.cons (fun token hmem => (bounds_of_mem_tokensFrom hmem).1) ih

end Places

end ConfigRefs.Token
