import ConfigRefs.Proofs.Checked.Comprehension

/-!
# Traversal: brackets among tokens

Tokens are balanced if they close all brackets that they open and no others. A group goes on behind
tokens that leave it open (`group_append`) and ends among those that close it (`group_append_of_none`).
The parts of a clause are outside of all brackets, so none of them begins or ends among tokens with
brackets around them (`IsClause.not_among`).
-/

namespace ConfigRefs.Traversal

open ConfigRefs.Checked (isKeyword isColon clause?_eq length_group_le)

/-- The number of brackets that are open behind a token, unless it closes one and none is open. -/
def depthBehind? (depth : Nat) (token : Token) : Option Nat :=
  if token.kind.opens then some (depth + 1)
  else if token.kind.closes then (if depth = 0 then none else some (depth - 1))
  else some depth

/-- The number of brackets that are open behind tokens, `depth` being open before them, unless one of
the tokens closes a bracket and none is open. -/
def depthAfter? (depth : Nat) : List Token → Option Nat
  | [] => some depth
  | token :: rest => (depthBehind? depth token).bind (depthAfter? · rest)

/-- A token is no bracket. -/
def NoBracket (token : Token) : Prop := token.kind.opens = false ∧ token.kind.closes = false

/-- Tokens close the brackets that they open, and no others. -/
def Balanced (tokens : List Token) : Prop := depthAfter? 0 tokens = some 0

instance (tokens : List Token) : Decidable (Balanced tokens) :=
  inferInstanceAs (Decidable (depthAfter? 0 tokens = some 0))

/-! ### Depths -/

section Depth

variable {depth last : Nat} {token : Token} {front : List Token}

theorem noBracket_of_kind {kind : Token.Kind} (h : token.kind = kind)
    (hkind : kind.opens = false ∧ kind.closes = false) : NoBracket token := by
  rwa [NoBracket, h]

theorem depthBehind?_noBracket (h : NoBracket token) (depth : Nat) :
    depthBehind? depth token = some depth := by
  rw [depthBehind?, h.1, if_neg Bool.false_ne_true, h.2, if_neg Bool.false_ne_true]

theorem depthBehind?_closes (h : token.kind.closes = true) (depth : Nat) :
    depthBehind? depth token = if depth = 0 then none else some (depth - 1) := by
  have hopens : ¬ token.kind.opens = true := by
    intro hopens
    revert h hopens
    cases token.kind <;> decide
  rw [depthBehind?, if_neg hopens, if_pos h]

theorem kind_of_isWord {word : String} (h : token.isWord word = true) : token.kind = .ident := by
  simp only [Token.isWord, Bool.and_eq_true, beq_iff_eq] at h
  exact h.1

/-- A bracket is no word. -/
theorem isWord_of_opens (h : token.kind.opens = true) (word : String) :
    token.isWord word = false := by
  rw [Bool.eq_false_iff]
  intro hword
  rw [kind_of_isWord hword] at h
  cases h

theorem kind_opens_of_opensComprehension (h : opensComprehension token = true) :
    token.kind.opens = true := by
  simp only [opensComprehension, Bool.or_eq_true, beq_iff_eq] at h
  rcases h with h | h <;> rw [h] <;> rfl

/-- More brackets around a token stay open behind it. -/
theorem depthBehind?_add (h : depthBehind? depth token = some last) (more : Nat) :
    depthBehind? (depth + more) token = some (last + more) := by
  unfold depthBehind? at h ⊢
  split at h
  · next hopens =>
    obtain rfl := Option.some.inj h
    rw [if_pos hopens, Nat.add_right_comm]
  split at h
  · next hopens hcloses =>
    split at h
    · cases h
    · next hpos =>
      obtain rfl := Option.some.inj h
      rw [if_neg hopens, if_pos hcloses, if_neg (by omega), Nat.sub_add_comm (by omega)]
  · next hopens hcloses =>
    obtain rfl := Option.some.inj h
    rw [if_neg hopens, if_neg hcloses]

theorem depthAfter?_append (depth : Nat) (front back : List Token) :
    depthAfter? depth (front ++ back)
      = (depthAfter? depth front).bind fun last => depthAfter? last back := by
  induction front generalizing depth with
  | nil => rfl
  | cons token front ih =>
    rw [List.cons_append, depthAfter?, depthAfter?, Option.bind_assoc]
    exact congrArg _ (funext fun next => ih next)

theorem depthAfter?_add (h : depthAfter? depth front = some last) (more : Nat) :
    depthAfter? (depth + more) front = some (last + more) := by
  induction front generalizing depth with
  | nil =>
    obtain rfl := Option.some.inj h
    rfl
  | cons token front ih =>
    obtain ⟨next, hnext, hlast⟩ := Option.bind_eq_some_iff.1 h
    rw [depthAfter?, depthBehind?_add hnext, Option.bind_some, ih hlast]

/-- Tokens that leave fewer brackets open close one that they did not open. -/
theorem depthAfter?_eq_none (h : depthAfter? depth front = some last) (hlt : last < depth) :
    depthAfter? 0 front = none := by
  rw [Option.eq_none_iff_forall_ne_some]
  intro other hother
  have hsum := depthAfter?_add hother depth
  rw [Nat.zero_add, h, Option.some.injEq] at hsum
  omega

namespace Balanced

theorem depthAfter? (h : Balanced front) (depth : Nat) :
    Traversal.depthAfter? depth front = some depth := by
  have := depthAfter?_add h depth
  rwa [Nat.zero_add] at this

theorem append {back : List Token} (h : Balanced front) (hback : Balanced back) :
    Balanced (front ++ back) := by
  rw [Balanced, depthAfter?_append, h, Option.bind_some, hback]

/-- A token that is no bracket may stand anywhere. -/
theorem cons (hbracket : NoBracket token) (h : Balanced front) : Balanced (token :: front) := by
  rw [Balanced, Traversal.depthAfter?, depthBehind?_noBracket hbracket, Option.bind_some, h]

theorem of_noBracket (h : ∀ token ∈ front, NoBracket token) : Balanced front := by
  induction front with
  | nil => rfl
  | cons token front ih =>
    exact (ih fun other hother => h other (List.mem_cons_of_mem token hother)).cons
      (h token List.mem_cons_self)

/-- Balanced tokens do not end with a bracket that is still open. -/
theorem any_getLast? (h : Balanced front) : front.getLast?.any opensComprehension = false := by
  rcases List.eq_nil_or_concat front with rfl | ⟨before, token, rfl⟩
  · rfl
  · rw [List.concat_eq_append] at h ⊢
    rw [List.getLast?_concat, Option.any_some, Bool.eq_false_iff]
    intro hopens
    rw [Balanced, depthAfter?_append] at h
    obtain ⟨outer, -, hlast⟩ := Option.bind_eq_some_iff.1 h
    rw [Traversal.depthAfter?, depthBehind?, if_pos (kind_opens_of_opensComprehension hopens)] at hlast
    cases hlast

end Balanced

end Depth

/-! ### Groups -/

section Group

variable {depth last : Nat} {front : List Token}

/-- A group goes on behind a token unless that closes it. -/
theorem group_cons (depth : Nat) (token : Token) (rest : List Token) :
    group depth (token :: rest) = match depthBehind? depth token with
      | none => []
      | some next => (token, min depth next) :: group next rest := by
  rw [group.eq_def, depthBehind?]
  simp only
  by_cases hopens : token.kind.opens = true
  · rw [if_pos hopens, if_pos hopens]
    simp
  rw [if_neg hopens, if_neg hopens]
  by_cases hcloses : token.kind.closes = true
  · rw [if_pos hcloses, if_pos hcloses]
    cases depth <;> simp
  · rw [if_neg hcloses, if_neg hcloses]
    simp

/-- A group that tokens leave open goes on behind them. -/
theorem group_append (h : depthAfter? depth front = some last) (back : List Token) :
    group depth (front ++ back) = group depth front ++ group last back := by
  induction front generalizing depth with
  | nil =>
    obtain rfl := Option.some.inj h
    rfl
  | cons token front ih =>
    obtain ⟨next, hnext, hlast⟩ := Option.bind_eq_some_iff.1 h
    rw [List.cons_append, group_cons, group_cons, hnext]
    exact congrArg (_ :: ·) (ih hlast)

/-- A group that tokens close ends among them. -/
theorem group_append_of_none (h : depthAfter? depth front = none) (back : List Token) :
    group depth (front ++ back) = group depth front := by
  induction front generalizing depth with
  | nil => cases h
  | cons token front ih =>
    rw [List.cons_append, group_cons, group_cons]
    cases hnext : depthBehind? depth token with
    | none => rfl
    | some next =>
      rw [depthAfter?, hnext] at h
      exact congrArg (_ :: ·) (ih h)

theorem map_fst_group (h : depthAfter? depth front = some last) :
    (group depth front).map Prod.fst = front := by
  induction front generalizing depth with
  | nil => rfl
  | cons token front ih =>
    obtain ⟨next, hnext, hlast⟩ := Option.bind_eq_some_iff.1 h
    rw [group_cons, hnext]
    exact congrArg (token :: ·) (ih hlast)

theorem length_group (h : depthAfter? depth front = some last) :
    (group depth front).length = front.length := by
  rw [← List.length_map Prod.fst, map_fst_group h]

theorem length_group_lt (h : depthAfter? depth front = none) :
    (group depth front).length < front.length := by
  induction front generalizing depth with
  | nil => cases h
  | cons token front ih =>
    rw [group_cons]
    cases hnext : depthBehind? depth token with
    | none => exact Nat.zero_lt_succ _
    | some next =>
      rw [depthAfter?, hnext] at h
      exact Nat.succ_lt_succ (ih h)

/-- Brackets around tokens are around each of them. -/
theorem le_of_mem_group (h : depthAfter? depth front = some last) (more : Nat)
    {mark : Token × Nat} (hmem : mark ∈ group (depth + more) front) : more ≤ mark.2 := by
  induction front generalizing depth with
  | nil => cases hmem
  | cons token front ih =>
    obtain ⟨next, hnext, hlast⟩ := Option.bind_eq_some_iff.1 h
    rw [group_cons, depthBehind?_add hnext] at hmem
    rcases List.mem_cons.1 hmem with rfl | hmem
    · exact le_min (Nat.le_add_left _ _) (Nat.le_add_left _ _)
    · exact ih hlast hmem

end Group

/-! ### Clauses -/

section Clause

variable {tokens front back : List Token} {clause : Clause}

/-- The parts of a clause among the tokens of its group. -/
structure IsClause (marks : List (Token × Nat)) (clause : Clause) : Prop where
  keyword : ∃ mark, marks[clause.keyword]? = some mark ∧ isKeyword mark = true
  colon : ∃ mark, marks[clause.colon]? = some mark ∧ isColon mark = true
  keyword_lt : clause.keyword < clause.colon
  close : clause.close = marks.length

theorem isClause_of_clause? (h : clause? tokens = some clause) : IsClause (group 0 tokens) clause := by
  rw [clause?_eq] at h
  obtain ⟨keyword, hkeyword, h⟩ := Option.bind_eq_some_iff.1 h
  obtain ⟨colon, hcolon, rfl⟩ := Option.map_eq_some_iff.1 h
  obtain ⟨hkeywordlt, hword, -⟩ := List.findIdx?_eq_some_iff_getElem.1 hkeyword
  obtain ⟨hcolonlt, hmark, -⟩ := List.findIdx?_eq_some_iff_getElem.1 hcolon
  refine ⟨⟨_, List.getElem?_eq_getElem hkeywordlt, hword⟩, ⟨_, ?_, hmark⟩, ?_, rfl⟩
  · rw [← List.getElem?_drop, List.getElem?_eq_getElem]
  · simp only
    omega

theorem IsClause.colon_lt {marks : List (Token × Nat)} (h : IsClause marks clause) :
    clause.colon < clause.close := by
  obtain ⟨mark, hmark, -⟩ := h.colon
  rw [h.close]
  exact (List.getElem?_eq_some_iff.1 hmark).1

/-- Tokens between two brackets. -/
structure Bracketed (tokens : List Token) : Prop where
  exists_eq : ∃ opening inner closing, tokens = opening :: (inner ++ [closing]) ∧
    opening.kind.opens = true ∧ Balanced inner ∧ closing.kind.closes = true

theorem not_isKeyword_of_bracket {token : Token} {depth : Nat}
    (h : token.kind.opens = true ∨ token.kind.closes = true) : isKeyword (token, depth) = false := by
  rw [Bool.eq_false_iff]
  intro hword
  simp only [isKeyword, Token.isWord, Bool.and_eq_true, beq_iff_eq] at hword
  simp [hword.2.1, Token.Kind.opens, Token.Kind.closes] at h

theorem not_isColon_of_bracket {token : Token} {depth : Nat}
    (h : token.kind.opens = true ∨ token.kind.closes = true) : isColon (token, depth) = false := by
  rw [Bool.eq_false_iff]
  intro hcolon
  simp only [isColon, Bool.and_eq_true, beq_iff_eq] at hcolon
  simp [hcolon.2, Token.Kind.opens, Token.Kind.closes] at h

namespace Bracketed

theorem balanced (h : Bracketed tokens) : Balanced tokens := by
  obtain ⟨opening, inner, closing, rfl, hopens, hinner, hcloses⟩ := h
  rw [Balanced, depthAfter?, depthBehind?, if_pos hopens, Option.bind_some, depthAfter?_append,
    hinner.depthAfter?, Option.bind_some, depthAfter?, depthBehind?_closes hcloses]
  rfl

/-- The parts of a clause are outside of all brackets, so none of them stands between two. -/
theorem not_isKeyword_not_isColon (h : Bracketed tokens) {depth : Nat} {mark : Token × Nat}
    (hmem : mark ∈ group depth tokens) : isKeyword mark = false ∧ isColon mark = false := by
  obtain ⟨opening, inner, closing, rfl, hopens, hinner, hcloses⟩ := h
  rw [group_cons, depthBehind?, if_pos hopens] at hmem
  simp only at hmem
  rw [group_append (hinner.depthAfter? (depth + 1)), List.mem_cons, List.mem_append] at hmem
  rcases hmem with rfl | hmem | hmem
  · exact ⟨not_isKeyword_of_bracket (Or.inl hopens), not_isColon_of_bracket (Or.inl hopens)⟩
  · -- inside the brackets at least one is open
    have hpos := le_of_mem_group (hinner.depthAfter? depth) 1 hmem
    have hne : (mark.2 == 0) = false := by
      rw [beq_eq_false_iff_ne]
      omega
    simp [isKeyword, isColon, hne]
  · rw [group_cons] at hmem
    split at hmem
    · cases hmem
    · obtain rfl := List.mem_singleton.1 hmem
      exact ⟨not_isKeyword_of_bracket (Or.inr hcloses), not_isColon_of_bracket (Or.inr hcloses)⟩

end Bracketed

/-- **The tokens between two brackets lie in one part of a clause**: none of its parts begins or ends
among them. -/
theorem IsClause.not_among (h : IsClause (group 0 (front ++ (tokens ++ back))) clause)
    (htokens : Bracketed tokens) {part : Nat}
    (hpart : part = clause.keyword ∨ part = clause.colon ∨ part = clause.close) :
    part < front.length ∨ front.length + tokens.length ≤ part := by
  have hclose := h.close
  have hkeyword := h.keyword_lt
  have hcolon := h.colon_lt
  cases hdepth : depthAfter? 0 front with
  | none =>
    rw [group_append_of_none hdepth] at hclose
    have := length_group_lt hdepth
    omega
  | some depth =>
    have hgroup : group 0 (front ++ (tokens ++ back))
        = group 0 front ++ (group depth tokens ++ group depth back) := by
      rw [group_append hdepth, group_append (htokens.balanced.depthAfter? depth)]
    have hfront := length_group hdepth
    have hlength := length_group (htokens.balanced.depthAfter? depth)
    -- the word `in` and the colon are found outside of all brackets
    have hfound : ∀ {mark : Token × Nat},
        (group 0 (front ++ (tokens ++ back)))[part]? = some mark →
          (isKeyword mark = true ∨ isColon mark = true) →
            part < front.length ∨ front.length + tokens.length ≤ part := by
      intro mark hmark hkind
      by_contra! hbetween
      rw [hgroup, List.getElem?_append_right (by omega), List.getElem?_append_left (by omega)] at hmark
      obtain ⟨hnot, hnot'⟩ := htokens.not_isKeyword_not_isColon (List.mem_of_getElem? hmark)
      rw [hnot, hnot'] at hkind
      simp at hkind
    rcases hpart with rfl | rfl | rfl
    · obtain ⟨mark, hmark, hword⟩ := h.keyword
      exact hfound hmark (Or.inl hword)
    · obtain ⟨mark, hmark, hkind⟩ := h.colon
      exact hfound hmark (Or.inr hkind)
    · right
      rw [hclose, hgroup, List.length_append, List.length_append]
      omega

end Clause

end ConfigRefs.Traversal
