import ConfigRefs.Proofs.Text.Spelling
import ConfigRefs.Proofs.Token.Path
import ConfigRefs.Proofs.Token.Place
import Mathlib.Data.List.Chain

/-!
# Token: what tokens spell

A name or a number has no white space in it and a dot is nothing but a dot, so they spell their texts
(`spells_of_mem_tokensFrom`). In the gaps between tokens there is only white space (`spells_gaps`).
Together this is what the tokens of a piece of text are to the readers of
paths (`Consecutive`).
-/

namespace ConfigRefs.Token

open ConfigRefs.Text

/-- Whether tokens of a kind can be part of a dotted path. -/
def Kind.isInPath (kind : Kind) : Bool := kind == .ident || kind == .number || kind == .dot

/-! ### One token -/

section Classify

variable {c : Char} {rest : List Char}

theorem isBlank_of_isDigit (h : c.isDigit = true) : isBlank c = false := by
  refine isBlank_of_continuesWord ?_
  have hascii : isAscii c = true := by
    simp only [Char.isDigit, Bool.and_eq_true, decide_eq_true_eq] at h
    have hlast : c.toNat ≤ 57 := h.2
    exact decide_eq_true (by omega)
  simp [continuesWord, isAlphanumeric, isNumeric, hascii, h]

/-- Punctuation is no name and no number, and it is a dot only if nothing else belongs to it. -/
theorem punctuation_kind (c : Char) (rest : List Char) :
    (punctuation c rest).1 ≠ .ident ∧ (punctuation c rest).1 ≠ .number ∧
      ((punctuation c rest).1 = .dot → c = '.' ∧ (punctuation c rest).2 = 0) := by
  fun_cases punctuation c rest <;> simp

theorem classify_ident (h : (classify c rest).1 = .ident) :
    beginsWord c = true ∧ (classify c rest).2 = (rest.takeWhile continuesWord).length := by
  rcases classify_eq c with ⟨hc, heq⟩ | ⟨-, heq⟩ | ⟨-, heq⟩ | heq
  · exact ⟨hc, by rw [heq]⟩
  · rw [heq] at h
    cases h
  · rw [heq] at h
    cases h
  · rw [heq] at h
    exact absurd h (punctuation_kind c rest).1

theorem classify_number (h : (classify c rest).1 = .number) :
    c.isDigit = true ∧ (classify c rest).2 = (rest.takeWhile Char.isDigit).length := by
  rcases classify_eq c with ⟨-, heq⟩ | ⟨hc, heq⟩ | ⟨-, heq⟩ | heq
  · rw [heq] at h
    cases h
  · exact ⟨hc, by rw [heq]⟩
  · rw [heq] at h
    cases h
  · rw [heq] at h
    exact absurd h (punctuation_kind c rest).2.1

theorem classify_dot (h : (classify c rest).1 = .dot) :
    c :: rest.take (classify c rest).2 = ['.'] := by
  rcases classify_eq c with ⟨-, heq⟩ | ⟨-, heq⟩ | ⟨-, heq⟩ | heq
  · rw [heq] at h
    cases h
  · rw [heq] at h
    cases h
  · rw [heq] at h
    cases h
  · rw [heq] at h ⊢
    obtain ⟨rfl, hmore⟩ := (punctuation_kind c rest).2.2 h
    rw [hmore, List.take_zero]

/-- A name, a number and a dot have no white space in them. -/
theorem isBlank_of_mem_classify (h : (classify c rest).1.isInPath = true) :
    ∀ d ∈ c :: rest.take (classify c rest).2, isBlank d = false := by
  simp only [Kind.isInPath, Bool.or_eq_true, beq_iff_eq] at h
  rcases h with (hident | hnumber) | hdot
  · obtain ⟨hc, hmore⟩ := classify_ident hident
    rw [hmore]
    exact of_mem_takeWhile (continuesWord_of_beginsWord hc) fun _ => isBlank_of_continuesWord
  · obtain ⟨hc, hmore⟩ := classify_number hnumber
    rw [hmore]
    exact of_mem_takeWhile hc fun _ => isBlank_of_isDigit
  · rw [classify_dot hdot]
    intro d hd
    rw [List.mem_singleton.1 hd]
    decide

end Classify

/-! ### Between tokens -/

/-- The ranges that tokens leave between two offsets: before the first of them, between each one and the
next, and behind the last. -/
def gaps (start stop : Nat) : List Token → List Span
  | [] => [⟨start, stop⟩]
  | token :: rest => ⟨start, token.start⟩ :: gaps token.stop stop rest

theorem isChain_of_forall_gaps {start stop : Nat} {tokens : List Token} {P : Span → Prop}
    (h : ∀ gap ∈ gaps start stop tokens, P gap) : tokens.IsChain fun a b => P ⟨a.stop, b.start⟩ := by
  induction tokens generalizing start with
  | nil => exact List.isChain_nil
  | cons token rest ih =>
    rw [gaps, List.forall_mem_cons] at h
    refine List.isChain_cons.2 ⟨fun next hnext => ?_, ih h.2⟩
    obtain ⟨others, rfl⟩ := List.head?_eq_some_iff.1 hnext
    exact h.2 _ List.mem_cons_self

/-! ### The tokens of a text -/

section Tokens

variable {whole text : List Char} {offset : Nat} {token : Token}

/-- **The text of a name** is one word. -/
theorem isName_of_ident (hmem : token ∈ tokensFrom offset text) (hkind : token.kind = .ident) :
    isName token.text = true := by
  obtain ⟨before, c, rest, -, -, -, hclassify, htext⟩ := exists_classify_of_mem_tokensFrom hmem
  obtain ⟨hc, hmore⟩ := classify_ident (hclassify ▸ hkind)
  rw [htext, hmore, take_length_takeWhile, isName, hc, Bool.true_and, List.all_eq_true]
  exact fun d hd => List.mem_takeWhile_imp hd

theorem text_of_dot (hmem : token ∈ tokensFrom offset text) (hkind : token.kind = .dot) :
    token.text = ['.'] := by
  obtain ⟨before, c, rest, -, -, -, hclassify, htext⟩ := exists_classify_of_mem_tokensFrom hmem
  rw [htext]
  exact classify_dot (hclassify ▸ hkind)

theorem isBlank_of_mem_text (hmem : token ∈ tokensFrom offset text)
    (hkind : token.kind.isInPath = true) : ∀ c ∈ token.text, isBlank c = false := by
  obtain ⟨before, c, rest, -, -, -, hclassify, htext⟩ := exists_classify_of_mem_tokensFrom hmem
  rw [htext]
  exact isBlank_of_mem_classify (hclassify ▸ hkind)

/-- **A name, a number and a dot spell their texts.** -/
theorem spells_of_mem_tokensFrom (h : StandsAt whole offset text)
    (hmem : token ∈ tokensFrom offset text) (hkind : token.kind.isInPath = true) :
    Spells whole token.start token.stop token.text := by
  have hspells := (standsAt_of_mem_tokensFrom h hmem).spells
  rwa [withoutBlanks_eq_self (isBlank_of_mem_text hmem hkind)] at hspells

/-- White space in front of tokens belongs to the first gap. -/
theorem forall_gaps_of_spells {start middle stop : Nat} {tokens : List Token}
    (hblank : Spells whole start middle [])
    (h : ∀ gap ∈ gaps middle stop tokens, Spells whole gap.start gap.stop []) :
    ∀ gap ∈ gaps start stop tokens, Spells whole gap.start gap.stop [] := by
  cases tokens with
  | nil =>
    rw [gaps, List.forall_mem_singleton] at h ⊢
    exact hblank.append h
  | cons token rest =>
    rw [gaps, List.forall_mem_cons] at h ⊢
    exact ⟨hblank.append h.1, h.2⟩

/-- **In the gaps that the tokens of a text leave** there is only white space. -/
theorem spells_gaps (h : StandsAt whole offset text) :
    ∀ gap ∈ gaps offset (offset + byteLength text) (tokensFrom offset text),
      Spells whole gap.start gap.stop [] := by
  fun_induction tokensFrom offset text with
  | case1 =>
    rw [gaps, List.forall_mem_singleton]
    exact h.isBoundary_start.spells_nil
  | case2 offset c rest hblank ih =>
    have hfront : StandsAt whole offset ([c] ++ rest) := h
    have hspells := hfront.left.spells
    rw [withoutBlanks_blank hblank] at hspells
    rw [byteLength_cons, ← Nat.add_assoc]
    exact forall_gaps_of_spells hspells (ih (h.right [c]))
  | case3 offset c rest _ kind more _ piece ih =>
    rw [← cons_take_append_drop c rest more] at h ⊢
    rw [gaps, List.forall_mem_cons, byteLength_append, ← Nat.add_assoc]
    exact ⟨h.isBoundary_start.spells_nil, ih (h.right piece)⟩

/-- **Between a token and the next one there is only white space.** -/
theorem isChain_tokensFrom (h : StandsAt whole offset text) :
    (tokensFrom offset text).IsChain fun a b => Spells whole a.stop b.start [] :=
  isChain_of_forall_gaps (spells_gaps h)

end Tokens

/-! ### Tokens that follow each other -/

/-- Tokens that follow each other in a text, with only white space between one and the next. -/
structure Consecutive (whole : List Char) (tokens : List Token) : Prop where
  isChain : tokens.IsChain fun a b => Spells whole a.stop b.start []
  spells : ∀ token ∈ tokens, token.kind.isInPath = true →
    Spells whole token.start token.stop token.text
  text_of_dot : ∀ token ∈ tokens, token.kind = .dot → token.text = ['.']

/-- **The tokens of a piece of a text follow each other.** -/
theorem consecutive_tokensFrom {whole text : List Char} {offset : Nat}
    (h : StandsAt whole offset text) : Consecutive whole (tokensFrom offset text) where
  isChain := isChain_tokensFrom h
  spells _ hmem hkind := spells_of_mem_tokensFrom h hmem hkind
  text_of_dot _ hmem hkind := text_of_dot hmem hkind

theorem Consecutive.suffix {whole : List Char} {tokens behind : List Token}
    (h : Consecutive whole tokens) (hsuffix : behind <:+ tokens) : Consecutive whole behind where
  isChain := h.isChain.suffix hsuffix
  spells token hmem := h.spells token (hsuffix.subset hmem)
  text_of_dot token hmem := h.text_of_dot token (hsuffix.subset hmem)

/-- **A dot between two tokens** is all that is written between them. -/
theorem Consecutive.spells_dot {whole : List Char} {before dot behind : Token} {rest : List Token}
    (h : Consecutive whole (before :: dot :: behind :: rest)) (hdot : dot.kind = .dot) :
    Spells whole before.stop behind.start ['.'] := by
  obtain ⟨hbefore, hchain⟩ := List.isChain_cons_cons.1 h.isChain
  have hbehind := (List.isChain_cons_cons.1 hchain).1
  have hmem : dot ∈ before :: dot :: behind :: rest :=
    List.mem_cons_of_mem before List.mem_cons_self
  have hspells := h.spells dot hmem (by rw [hdot]; rfl)
  rw [h.text_of_dot dot hmem hdot] at hspells
  exact (hbefore.append hspells).append hbehind

end ConfigRefs.Token
