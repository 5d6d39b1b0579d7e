import ConfigRefs.Proofs.Token.Spelling

/-!
# Token: nothing is lost and nothing is invented

The tokens of a range lie in it one behind the other, and what they leave of it is white space. A word
and a number end only where the next character does not belong to them (`slice_behind`). What a token is
depends on its own text alone: behind that the lexer may look on, but what it finds there changes nothing
(`classify_take`, `tokenize_text`). Together this is `covers_tokenize`.
-/

namespace ConfigRefs.Token

open ConfigRefs.Text ConfigRefs.Interpolation

/-- The tokens that cover a range of an input. -/
structure Covers (input : String) (span : Span) (tokens : List Token) : Prop where
  /-- The tokens stand in the input. -/
  standsAt : ∀ token ∈ tokens, StandsAt input.toList token.start token.text
  /-- They lie in the range and are not empty. -/
  bounds : ∀ token ∈ tokens,
    span.start ≤ token.start ∧ token.start < token.stop ∧ token.stop ≤ span.stop
  /-- Each one lies behind the one before. -/
  pairwise : tokens.Pairwise fun a b => a.stop ≤ b.start
  /-- What they leave of the range is white space. -/
  blank : ∀ gap ∈ gaps span.start span.stop tokens,
    gap.start ≤ gap.stop ∧ ∀ c ∈ slice input.toList gap.start gap.stop, isBlank c = true
  /-- A word begins like one and goes on as long as the range does and the characters continue it. -/
  word : ∀ token ∈ tokens, token.kind = .ident → isName token.text = true ∧
    ∀ c ∈ (slice input.toList token.stop span.stop).head?, continuesWord c = false
  /-- A number is made of digits and goes on as long as the range does and there are more. -/
  number : ∀ token ∈ tokens, token.kind = .number → (∀ c ∈ token.text, c.isDigit = true) ∧
    ∀ c ∈ (slice input.toList token.stop span.stop).head?, c.isDigit = false
  /-- The text of a token on its own is read as that token. -/
  alone : ∀ token ∈ tokens,
    tokenize (String.ofList token.text) ⟨0, byteLength token.text⟩ = [⟨token.kind, 0, token.text⟩]

/-! ### A token on its own -/

section Alone

variable {c : Char} {rest text : List Char} {offset : Nat} {token : Token}

theorem punctuation_take (c : Char) (rest : List Char) :
    punctuation c (rest.take (punctuation c rest).2) = punctuation c rest := by
  fun_cases punctuation c rest
  case case29 => simp [punctuation]
  all_goals rfl

/-- **What the lexer reads does not depend on what is behind it.** -/
theorem classify_take (c : Char) (rest : List Char) :
    classify c (rest.take (classify c rest).2) = classify c rest := by
  rcases classify_eq c with ⟨-, heq⟩ | ⟨-, heq⟩ | ⟨-, heq⟩ | heq
  · rw [heq, heq, take_length_takeWhile, List.takeWhile_idem]
  · rw [heq, heq, take_length_takeWhile, List.takeWhile_idem]
  · rw [heq, heq, quotedLength_take]
  · rw [heq, heq, punctuation_take]

/-- **The text of a token on its own is read as that token.** -/
theorem tokenize_text (hmem : token ∈ tokensFrom offset text) :
    tokenize (String.ofList token.text) ⟨0, byteLength token.text⟩
      = [⟨token.kind, 0, token.text⟩] := by
  obtain ⟨before, c, rest, -, -, hblank, hkind, htext⟩ := exists_classify_of_mem_tokensFrom hmem
  have htaken : (rest.take (classify c rest).2).take (classify c rest).2
      = rest.take (classify c rest).2 := by rw [List.take_take, Nat.min_self]
  rw [tokenize, String.toList_ofList, slice_zero, htext, hkind, tokensFrom_cons hblank, classify_take,
    htaken, List.drop_take_self, tokensFrom]

end Alone

/-! ### What is behind a token -/

section Behind

variable {whole text : List Char} {offset : Nat} {token : Token}

/-- A token is read from what stands behind its first character, and what it leaves of that is behind
it. -/
theorem slice_behind (h : StandsAt whole offset text) (hmem : token ∈ tokensFrom offset text) :
    ∃ c rest, token.kind = (classify c rest).1 ∧ token.text = c :: rest.take (classify c rest).2 ∧
      slice whole token.stop (offset + byteLength text) = rest.drop (classify c rest).2 := by
  obtain ⟨before, c, rest, rfl, hstart, -, hkind, htext⟩ := exists_classify_of_mem_tokensFrom hmem
  refine ⟨c, rest, hkind, htext, ?_⟩
  rw [← cons_take_append_drop c rest (classify c rest).2, ← htext] at h ⊢
  have hbehind : StandsAt whole token.stop (rest.drop (classify c rest).2) := by
    rw [stop, hstart]
    exact (h.right before).right token.text
  have hstop : offset + byteLength (before ++ (token.text ++ rest.drop (classify c rest).2))
      = token.stop + byteLength (rest.drop (classify c rest).2) := by
    rw [stop, hstart, byteLength_append, byteLength_append]
    omega
  rw [hstop, hbehind.slice]

theorem head?_drop_takeWhile {accept : Char → Bool} {rest : List Char} :
    ∀ c ∈ (rest.drop (rest.takeWhile accept).length).head?, accept c = false := by
  intro c hc
  have hrest := List.head?_dropWhile_not accept rest
  rw [drop_length_takeWhile] at hc
  rw [hc] at hrest
  exact hrest

/-- A word goes on up to the first character that does not continue it. -/
theorem word_ends (h : StandsAt whole offset text) (hmem : token ∈ tokensFrom offset text)
    (hkind : token.kind = .ident) :
    ∀ c ∈ (slice whole token.stop (offset + byteLength text)).head?, continuesWord c = false := by
  obtain ⟨c, rest, hclassify, -, hslice⟩ := slice_behind h hmem
  obtain ⟨-, hmore⟩ := classify_ident (hclassify ▸ hkind)
  rw [hslice, hmore]
  exact head?_drop_takeWhile

/-- A number consists of digits and goes on up to the first character that is none. -/
theorem number_ends (h : StandsAt whole offset text) (hmem : token ∈ tokensFrom offset text)
    (hkind : token.kind = .number) : (∀ c ∈ token.text, c.isDigit = true) ∧
      ∀ c ∈ (slice whole token.stop (offset + byteLength text)).head?, c.isDigit = false := by
  obtain ⟨c, rest, hclassify, htext, hslice⟩ := slice_behind h hmem
  obtain ⟨hc, hmore⟩ := classify_number (hclassify ▸ hkind)
  rw [hslice, htext, hmore]
  exact ⟨of_mem_takeWhile hc fun _ hd => hd, head?_drop_takeWhile⟩

end Behind

/-! ### All tokens of a range -/

/-- **The lexer loses and invents nothing.** The tokens of a range between two characters cover it. -/
theorem covers_tokenize {input : String} {span : Span} (hle : span.start ≤ span.stop)
    (hstart : IsBoundary input.toList span.start) (hstop : IsBoundary input.toList span.stop) :
    Covers input span (tokenize input span) := by
  have hstands := hstart.standsAt_slice hstop
  have hlength : span.start + byteLength (slice input.toList span.start span.stop) = span.stop := by
    rw [byteLength_slice hle hstart hstop]
    omega
  have hgaps := spells_gaps hstands
  rw [hlength] at hgaps
  exact
    { standsAt := fun token hmem => standsAt_of_mem_tokensFrom hstands hmem
      bounds := fun token hmem => by
        obtain ⟨hfirst, hlast⟩ := bounds_of_mem_tokensFrom hmem
        rw [hlength] at hlast
        exact ⟨hfirst, start_lt_stop_of_mem_tokensFrom hmem, hlast⟩
      pairwise := pairwise_tokensFrom _ _
      blank := fun gap hmem => by
        have hblank := (hgaps gap hmem).withoutBlanks_slice
        refine ⟨(hgaps gap hmem).start_le_stop, fun c hc => ?_⟩
        simpa using List.filter_eq_nil_iff.1 hblank c hc
      word := fun token hmem hkind => by
        have hends := word_ends hstands hmem hkind
        rw [hlength] at hends
        exact ⟨isName_of_ident hmem hkind, hends⟩
      number := fun token hmem hkind => by
        have hends := number_ends hstands hmem hkind
        rwa [hlength] at hends
      alone := fun token hmem => tokenize_text hmem }

/-- A range that begins behind an arrow of three bytes and ends inside of a word, with a superscript
digit, which is no number, and a space of three bytes. -/
theorem covers_tokenize_cut :
    let input := "→²3 \"a\"...\u3000=>é-12"
    let span : Span := ⟨3, 22⟩
    span.start ≤ span.stop ∧ IsBoundary input.toList span.start ∧ IsBoundary input.toList span.stop ∧
      Covers input span [⟨.unknown, 3, ['²']⟩, ⟨.number, 5, ['3']⟩, ⟨.str, 7, ['"', 'a', '"']⟩,
        ⟨.ellipsis, 10, ['.', '.', '.']⟩, ⟨.fatArrow, 16, ['=', '>']⟩,
        ⟨.ident, 18, ['é', '-', '1']⟩] := by
  intro input span
  have hle : span.start ≤ span.stop := by decide
  have hstart : IsBoundary input.toList span.start := by decide
  have hstop : IsBoundary input.toList span.stop := by decide
  have htokens : tokenize input span = [⟨.unknown, 3, ['²']⟩, ⟨.number, 5, ['3']⟩,
      ⟨.str, 7, ['"', 'a', '"']⟩, ⟨.ellipsis, 10, ['.', '.', '.']⟩, ⟨.fatArrow, 16, ['=', '>']⟩,
      ⟨.ident, 18, ['é', '-', '1']⟩] := by
    unfold input span
    decide +kernel
  have hcovers := covers_tokenize hle hstart hstop
  rw [htokens] at hcovers
  exact ⟨hle, hstart, hstop, hcovers⟩

end ConfigRefs.Token
