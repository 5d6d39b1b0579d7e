import ConfigRefs.Proofs.Checked.Token
import ConfigRefs.Proofs.Interpolation.Balance

/-!
# Token: braces and quoted strings in a body

The scan for the end of a body and the lexer read the body independently of each other. Each token is
read by the scan as what it is (`classify_cases`), so the braces among the tokens nest as they do for
the scan, and the quoted strings end where they end for it (`nested_tokensFrom`, `tokenize_nests`).
-/

namespace ConfigRefs.Token

open ConfigRefs.Text ConfigRefs.Interpolation

/-- How the tokens of a body that ends at `stop` nest, where `depth` more braces are open. A closed
body ends with no brace open, and only in a body that is not closed may the last string be unclosed. -/
inductive Nested (closed : Bool) (stop : Nat) : Nat → List Token → Prop where
  | done {depth : Nat} : (closed = true → depth = 0) → Nested closed stop depth []
  | opening {depth : Nat} {token : Token} {rest : List Token} : token.kind = .openBrace →
    Nested closed stop (depth + 1) rest → Nested closed stop depth (token :: rest)
  | closing {depth : Nat} {token : Token} {rest : List Token} : token.kind = .closeBrace →
    Nested closed stop depth rest → Nested closed stop (depth + 1) (token :: rest)
  | quoted {depth : Nat} {token : Token} {rest : List Token} : token.kind = .str →
    IsQuoted token.text → Nested closed stop depth rest → Nested closed stop depth (token :: rest)
  | unclosed {depth : Nat} {token : Token} {inside : List Char} : token.kind = .str →
    closed = false → token.text = '"' :: inside → closing? [.quote] inside = none →
      token.stop = stop → Nested closed stop depth [token]
  | other {depth : Nat} {token : Token} {rest : List Token} : token.kind ≠ .openBrace →
    token.kind ≠ .closeBrace → token.kind ≠ .str →
      Nested closed stop depth rest → Nested closed stop depth (token :: rest)

/-! ### One token -/

section Classify

variable {c : Char} {rest : List Char}

theorem isPlain_of_isBlank (h : isBlank c = true) : IsPlain c := by
  refine ⟨?_, ?_, ?_⟩ <;> rintro rfl <;> revert h <;> decide

theorem isPlain_of_isDigit (h : c.isDigit = true) : IsPlain c := by
  refine ⟨?_, ?_, ?_⟩ <;> rintro rfl <;> revert h <;> decide

/-- Punctuation that is no brace and no quote has none in it. -/
theorem punctuation_plain (h : IsPlain c) :
    (∀ d ∈ c :: rest.take (punctuation c rest).2, IsPlain d) ∧
      (punctuation c rest).1 ∉ [Kind.openBrace, .closeBrace, .str] := by
  fun_cases punctuation c rest <;> simp_all [IsPlain]

/-- **A token is a brace, a quoted string, or without braces and quotes.** -/
theorem classify_cases (c : Char) (rest : List Char) :
    c = '\x7b' ∧ classify c rest = (.openBrace, 0) ∨
      c = '\x7d' ∧ classify c rest = (.closeBrace, 0) ∨
      c = '"' ∧ classify c rest = (.str, quotedLength rest) ∨
      (∀ d ∈ c :: rest.take (classify c rest).2, IsPlain d) ∧
        (classify c rest).1 ∉ [Kind.openBrace, .closeBrace, .str] := by
  by_cases hopen : c = '\x7b'
  · subst hopen
    exact Or.inl ⟨rfl, rfl⟩
  by_cases hclose : c = '\x7d'
  · subst hclose
    exact Or.inr (Or.inl ⟨rfl, rfl⟩)
  by_cases hquote : c = '"'
  · subst hquote
    exact Or.inr (Or.inr (Or.inl ⟨rfl, rfl⟩))
  refine Or.inr (Or.inr (Or.inr ?_))
  rcases classify_eq c with ⟨hword, heq⟩ | ⟨hdigit, heq⟩ | ⟨rfl, -⟩ | heq
  · rw [heq]
    exact ⟨of_mem_takeWhile (continuesWord_of_beginsWord hword) fun _ =>
      isPlain_of_continuesWord, by simp⟩
  · rw [heq]
    exact ⟨of_mem_takeWhile hdigit fun _ => isPlain_of_isDigit, by simp⟩
  · exact absurd rfl hquote
  · rw [heq]
    exact punctuation_plain ⟨hopen, hclose, hquote⟩

theorem isQuoted_take {split : List Char × List Char} (h : closing? [.quote] rest = some split) :
    IsQuoted ('"' :: rest.take (quotedLength rest)) := by
  have htext : rest = split.1 ++ split.2 := closing?_append h
  have htake : rest.take (quotedLength rest) = split.1 := by
    rw [quotedLength_of_closed h, htext, List.take_left]
  rw [htake]
  exact isQuoted_of_closing? h

end Classify

/-! ### All tokens -/

/-- **The tokens of a body nest.** -/
theorem nested_tokensFrom {closed : Bool} {text : List Char} (offset : Nat) :
    ∀ {depth : Nat}, EndsBody closed depth text →
      Nested closed (offset + byteLength text) depth (tokensFrom offset text) := by
  fun_induction tokensFrom offset text with
  | case1 offset =>
    intro depth h
    refine .done fun hclosed => ?_
    subst hclosed
    exact h.eq_zero
  | case2 offset c rest hc ih =>
    intro depth h
    have hplain : ∀ d ∈ [c], IsPlain d := by simpa using isPlain_of_isBlank hc
    have hend : EndsBody closed depth ([c] ++ rest) := h
    rw [byteLength_cons, ← Nat.add_assoc]
    exact ih (hend.of_reads (reads_plain hplain))
  | case3 offset c rest hc kind more hclassify piece =>
    rename_i ih
    intro depth h
    have hsplit : piece ++ rest.drop more = c :: rest := cons_take_append_drop c rest more
    have hstop : offset + byteLength (c :: rest)
        = offset + byteLength piece + byteLength (rest.drop more) := by
      rw [Nat.add_assoc, ← byteLength_append, hsplit]
    have hend : EndsBody closed depth (piece ++ rest.drop more) := by rwa [hsplit]
    rcases classify_cases c rest with ⟨rfl, heq⟩ | ⟨rfl, heq⟩ | ⟨rfl, heq⟩ | ⟨hplain, hkind⟩
    · obtain ⟨rfl, rfl⟩ := Prod.mk.inj (hclassify.symm.trans heq)
      rw [hstop]
      exact .opening rfl (ih (hend.of_reads (reads_open depth)))
    · obtain ⟨rfl, rfl⟩ := Prod.mk.inj (hclassify.symm.trans heq)
      cases depth with
      | zero => exact absurd h (EndsBody.not_close _)
      | succ depth =>
        rw [hstop]
        exact .closing rfl (ih (hend.of_reads (reads_close depth)))
    · obtain ⟨rfl, rfl⟩ := Prod.mk.inj (hclassify.symm.trans heq)
      cases hquote : closing? [.quote] rest with
      | some split =>
        have hquoted := isQuoted_take hquote
        rw [hstop]
        exact .quoted rfl hquoted (ih (hend.of_reads (reads_quoted hquoted)))
      | none =>
        -- the string takes the rest of the text, so it is the last token of a body that is not closed
        have hclosed : closed = false := by
          rw [Bool.eq_false_iff]
          rintro rfl
          obtain ⟨inside, behind, hsome⟩ := h.exists_closing?
          rw [hquote] at hsome
          cases hsome
        have hpiece : piece = '"' :: rest := by
          rw [show piece = '"' :: rest.take (quotedLength rest) from rfl,
            quotedLength_of_unclosed hquote, List.take_length]
        rw [quotedLength_of_unclosed hquote, List.drop_length, tokensFrom, hpiece]
        exact .unclosed rfl hclosed rfl hquote rfl
    · rw [hclassify] at hplain hkind
      simp only [List.mem_cons, List.not_mem_nil, or_false, not_or] at hkind
      rw [hstop]
      exact .other hkind.1 hkind.2.1 hkind.2.2 (ih (hend.of_reads (reads_plain hplain)))

namespace Nested

variable {closed : Bool} {stop depth : Nat} {token : Token} {rest tokens : List Token}

/-- What a token does to the number of open braces. -/
theorem cons_cases (h : Nested closed stop depth (token :: rest)) :
    token.kind = .openBrace ∧ Nested closed stop (depth + 1) rest ∨
      token.kind = .closeBrace ∧ (∃ outer, depth = outer + 1 ∧ Nested closed stop outer rest) ∨
      token.kind ≠ .openBrace ∧ token.kind ≠ .closeBrace ∧ Nested closed stop depth rest := by
  cases h with
  | opening hkind hrest => exact Or.inl ⟨hkind, hrest⟩
  | closing hkind hrest => exact Or.inr (Or.inl ⟨hkind, _, rfl, hrest⟩)
  | quoted hkind _ hrest => exact Or.inr (Or.inr ⟨by simp [hkind], by simp [hkind], hrest⟩)
  | unclosed hkind hclosed =>
    exact Or.inr (Or.inr ⟨by simp [hkind], by simp [hkind], .done fun h => by simp [hclosed] at h⟩)
  | other hopen hclose _ hrest => exact Or.inr (Or.inr ⟨hopen, hclose, hrest⟩)

/-- **Behind some of the tokens** as many braces are open as are not closed by them. -/
theorem exists_behind : ∀ {front : List Token} {depth : Nat},
    Nested closed stop depth (front ++ rest) → ∃ after, Nested closed stop after rest ∧
      after + front.countP (·.kind == .closeBrace) = depth + front.countP (·.kind == .openBrace)
  | [], depth, h => ⟨depth, h, rfl⟩
  | token :: front, depth, h => by
    rcases h.cons_cases with ⟨hkind, hrest⟩ | ⟨hkind, outer, rfl, hrest⟩ | ⟨hopen, hclose, hrest⟩
    · obtain ⟨after, hafter, hcount⟩ := exists_behind hrest
      refine ⟨after, hafter, ?_⟩
      rw [List.countP_cons_of_neg (by simp [hkind]), List.countP_cons_of_pos (by simp [hkind])]
      omega
    · obtain ⟨after, hafter, hcount⟩ := exists_behind hrest
      refine ⟨after, hafter, ?_⟩
      rw [List.countP_cons_of_pos (by simp [hkind]), List.countP_cons_of_neg (by simp [hkind])]
      omega
    · obtain ⟨after, hafter, hcount⟩ := exists_behind hrest
      refine ⟨after, hafter, ?_⟩
      rwa [List.countP_cons_of_neg (by simp [hclose]), List.countP_cons_of_neg (by simp [hopen])]

/-- In a closed body all braces are closed. -/
theorem countP_eq (h : Nested true stop depth tokens) :
    tokens.countP (·.kind == .closeBrace) = depth + tokens.countP (·.kind == .openBrace) := by
  rw [← List.append_nil tokens] at h
  obtain ⟨after, hafter, hcount⟩ := h.exists_behind
  cases hafter with
  | done hzero =>
    rwa [hzero rfl, Nat.zero_add] at hcount

/-- A quoted string is closed, or it goes on up to the end of a body that is not. -/
theorem isQuoted_or (h : Nested closed stop depth tokens) (hmem : token ∈ tokens)
    (hkind : token.kind = .str) : IsQuoted token.text ∨ closed = false ∧ token.stop = stop ∧
      ∃ inside, token.text = '"' :: inside ∧ closing? [.quote] inside = none := by
  induction h with
  | done => cases hmem
  | opening hopen _ ih =>
    rcases List.mem_cons.1 hmem with rfl | hmem
    · rw [hopen] at hkind
      cases hkind
    · exact ih hmem
  | closing hclose _ ih =>
    rcases List.mem_cons.1 hmem with rfl | hmem
    · rw [hclose] at hkind
      cases hkind
    · exact ih hmem
  | quoted _ hquoted _ ih =>
    rcases List.mem_cons.1 hmem with rfl | hmem
    · exact Or.inl hquoted
    · exact ih hmem
  | unclosed _ hclosed htext hnone hstop =>
    obtain rfl := List.mem_singleton.1 hmem
    exact Or.inr ⟨hclosed, hstop, _, htext, hnone⟩
  | other _ _ hstr _ ih =>
    rcases List.mem_cons.1 hmem with rfl | hmem
    · exact absurd hkind hstr
    · exact ih hmem

end Nested

/-! ### The scan over the whole input -/

section Scan

variable {whole inside : List Char} {start : Nat}

/-- **The scan ends a quoted string** where it is closed, whatever is behind. -/
theorem stringEnd_of_closed (h : StandsAt whole start ('"' :: inside))
    (hclosed : closing? [.quote] inside = some (inside, [])) :
    Checked.stringEnd (utf8 whole) (start + 1) = some (start + byteLength ('"' :: inside)) := by
  obtain ⟨behind, hbehind⟩ := h.exists_restAt
  have hrest : RestAt whole (start + 1) (inside ++ behind) := hbehind.right ['"']
  rw [Checked.stringEnd_utf8 hrest, closing?_replace hclosed behind, byteLength_cons, ← Nat.add_assoc]
  rfl

/-- A string that is not closed goes on up to the end of the input. -/
theorem stringEnd_of_unclosed (h : StandsAt whole start ('"' :: inside))
    (hstop : start + byteLength ('"' :: inside) = byteLength whole)
    (hunclosed : closing? [.quote] inside = none) :
    Checked.stringEnd (utf8 whole) (start + 1) = some (start + byteLength ('"' :: inside)) := by
  obtain ⟨behind, hbehind⟩ := h.exists_restAt
  have hlength := hbehind.byteLength_eq
  rw [byteLength_append] at hlength
  obtain rfl : behind = [] := eq_nil_of_byteLength_eq_zero (by omega)
  have hrest : RestAt whole (start + 1) (inside ++ []) := hbehind.right ['"']
  rw [List.append_nil] at hrest
  rw [Checked.stringEnd_utf8 hrest, hunclosed, Option.map_none, Option.getD_none, hstop]

end Scan

/-- The tokens of the range of a body are those of its text. -/
theorem tokenize_span {input : String} {body : Body} (hmem : body ∈ bodies input.toList) :
    tokenize input body.span = tokensFrom body.start body.text := by
  have hstands : StandsAt input.toList body.start body.text :=
    standsAt_of_mem_bodiesFrom (standsAt_zero input.toList) hmem
  rw [tokenize, Body.span, hstands.slice]

/-- **The scan for braces and the lexer read a body the same way.** Every quoted string among the tokens
of a body ends where the scan over the whole input ends it. No more braces are closed than are open. In
a closed body the strings are closed in it, and so are all braces. -/
theorem tokenize_nests {input : String} {span : Span} (h : span ∈ interpolations input) :
    (∀ token ∈ tokenize input span, token.kind = .str → token.text.head? = some '"' ∧
        Checked.stringEnd (utf8 input.toList) (token.start + 1) = some token.stop ∧
        (StandsAt input.toList span.stop ['\x7d'] →
          IsQuoted token.text ∧ token.text.getLast? = some '"' ∧ token.stop ≤ span.stop)) ∧
      (∀ front, front <+: tokenize input span →
        front.countP (·.kind == .closeBrace) ≤ front.countP (·.kind == .openBrace)) ∧
      (StandsAt input.toList span.stop ['\x7d'] →
        (tokenize input span).countP (·.kind == .closeBrace)
          = (tokenize input span).countP (·.kind == .openBrace)) := by
  obtain ⟨body, hbody, rfl⟩ := List.mem_map.1 h
  rw [tokenize_span hbody, ← closed_iff_of_mem_bodies hbody]
  have hnested : Nested body.closed body.span.stop 0 (tokensFrom body.start body.text) :=
    nested_tokensFrom body.start (endsBody_of_mem_bodies hbody)
  refine ⟨fun token hmem hkind => ?_, fun front ⟨rest, hrest⟩ => ?_, fun hclosed => ?_⟩
  · have hstands : StandsAt input.toList token.start token.text :=
      standsAt_of_mem_tokensFrom (standsAt_of_mem_bodiesFrom (standsAt_zero _) hbody) hmem
    have hstop : token.stop ≤ body.span.stop := (bounds_of_mem_tokensFrom hmem).2
    rcases hnested.isQuoted_or hmem hkind with hquoted | ⟨hopen, hend, inside, htext, hunclosed⟩
    · have hlast := hquoted.getLast?
      obtain ⟨inside, htext, hinside⟩ := hquoted
      refine ⟨by rw [htext]; rfl, ?_, fun _ => ⟨⟨inside, htext, hinside⟩, hlast, hstop⟩⟩
      rw [htext] at hstands
      rw [Token.stop, htext]
      exact stringEnd_of_closed hstands hinside
    · refine ⟨by rw [htext]; rfl, ?_, fun hclosed => absurd hclosed (by simp [hopen])⟩
      rw [stop_of_not_closed hbody hopen, Token.stop, htext] at hend
      rw [htext] at hstands
      rw [Token.stop, htext]
      exact stringEnd_of_unclosed hstands hend hunclosed
  · rw [← hrest] at hnested
    obtain ⟨after, -, hcount⟩ := hnested.exists_behind
    omega
  · rw [hclosed] at hnested
    rw [hnested.countP_eq, Nat.zero_add]

/-- A string with a brace, a template that holds a string with a brace, and an escaped quote. -/
theorem tokenize_nests_template :
    let input := "$\x7bf(\"\x7d$\x7bg(\"\x7b\")\x7d\\\"\", \x7bk = 1\x7d)\x7d é"
    let string : Token := ⟨.str, 4, "\"\x7d$\x7bg(\"\x7b\")\x7d\\\"\"".toList⟩
    (⟨2, 28⟩ : Span) ∈ interpolations input ∧ StandsAt input.toList 28 ['\x7d'] ∧
      string ∈ tokenize input ⟨2, 28⟩ ∧
      Checked.stringEnd (utf8 input.toList) (string.start + 1) = some 18 ∧ IsQuoted string.text ∧
      (tokenize input ⟨2, 28⟩).map Token.kind = [.ident, .openParen, .str, .comma, .openBrace,
        .ident, .assign, .number, .closeBrace, .closeParen] ∧
      (tokenize input ⟨2, 28⟩).countP (·.kind == .closeBrace)
        = (tokenize input ⟨2, 28⟩).countP (·.kind == .openBrace) := by
  intro input string
  have hspan : (⟨2, 28⟩ : Span) ∈ interpolations input := by
    have hspans : interpolations input = [⟨2, 28⟩] := by
      unfold input
      decide +kernel
    rw [hspans]
    exact List.mem_singleton_self _
  have hbrace : StandsAt input.toList 28 ['\x7d'] :=
    ⟨input.toList.take 28, [' ', 'é'], by decide, by decide⟩
  have htokens : tokenize input ⟨2, 28⟩ = [⟨.ident, 2, ['f']⟩, ⟨.openParen, 3, ['(']⟩, string,
      ⟨.comma, 18, [',']⟩, ⟨.openBrace, 20, ['\x7b']⟩, ⟨.ident, 21, ['k']⟩, ⟨.assign, 23, ['=']⟩,
      ⟨.number, 25, ['1']⟩, ⟨.closeBrace, 26, ['\x7d']⟩, ⟨.closeParen, 27, [')']⟩] := by
    unfold input string
    decide +kernel
  have hmem : string ∈ tokenize input ⟨2, 28⟩ := by
    rw [htokens]
    simp
  obtain ⟨hstrings, -, hbraces⟩ := tokenize_nests hspan
  obtain ⟨-, hend, hquoted⟩ := hstrings string hmem rfl
  exact ⟨hspan, hbrace, hmem, hend, (hquoted hbrace).1, by rw [htokens]; rfl, hbraces hbrace⟩

end ConfigRefs.Token
