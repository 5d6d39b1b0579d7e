import ConfigRefs.Proofs.Traversal.SetAside
import ConfigRefs.Traversal.Basic

/-!
# Traversal: what divides chains

A token that is neither a dot nor a step ends the chain before it and begins none, so the chains before
it and those behind it do not depend on each other (`map_segments_chainsFrom_append`). Brackets are such
tokens (`map_segments_chainsFrom_bracketed`), and so is a colon (`map_segments_chains`).
-/

namespace ConfigRefs.Traversal

open ConfigRefs.Checked (isColon)

/-! ### Chains and what divides them -/

section Chains

variable {mark : Token × Bool} {front : List (Token × Bool)}

/-- A mark that is neither a dot nor a step ends a chain. -/
theorem splitSteps_append (hdot : mark.1.kind ≠ .dot) (hstep : isStep mark = false)
    (front back : List (Token × Bool)) : splitSteps (front ++ mark :: back)
      = ((splitSteps front).1, (splitSteps front).2 ++ mark :: back) := by
  have hnot : (mark.1.kind == .dot) = false := beq_eq_false_iff_ne.2 hdot
  fun_induction splitSteps front with
  | case1 dot name rest hdotted steps behind hsplit ih =>
    rw [hsplit] at ih
    rw [List.cons_append, List.cons_append, splitSteps, if_pos hdotted, ih]
  | case2 dot name rest hdotted =>
    rw [List.cons_append, List.cons_append, splitSteps, if_neg hdotted]
  | case3 rest hshort =>
    rcases rest with _ | ⟨first, _ | ⟨second, more⟩⟩
    · cases back with
      | nil => rfl
      | cons next back => simp [splitSteps, hnot]
    · simp [splitSteps, hstep]
    · exact (hshort _ _ _ rfl).elim

/-- **A mark that is neither a dot nor a step divides chains.** Only what follows the last chain before
it changes. -/
theorem map_segments_chainsFrom_append (hdot : mark.1.kind ≠ .dot) (hstep : isStep mark = false)
    (afterDot : Bool) (front back : List (Token × Bool)) :
    (chainsFrom afterDot (front ++ mark :: back)).map segments
      = (chainsFrom afterDot front).map segments ++ (chainsFrom false back).map segments := by
  have hnot : (mark.1.kind == .dot) = false := beq_eq_false_iff_ne.2 hdot
  fun_induction chainsFrom afterDot front with
  | case1 afterDot =>
    have hname : (mark.1.kind == .ident && !mark.2 && !afterDot) = false := by
      rw [isStep, Bool.and_eq_false_iff, Bool.or_eq_false_iff] at hstep
      rcases hstep with ⟨hident, -⟩ | haside
      · rw [hident, Bool.false_and, Bool.false_and]
      · rw [haside, Bool.and_false, Bool.false_and]
    rw [List.nil_append, chainsFrom, hname, if_neg Bool.false_ne_true, hnot]
    rfl
  | case2 afterDot first rest hname split ih =>
    rw [List.cons_append, chainsFrom, if_pos hname, splitSteps_append hdot hstep, List.map_cons, ih]
    rfl
  | case3 afterDot first rest hname ih =>
    rw [List.cons_append, chainsFrom, if_neg hname, ih]

theorem not_isStep_of_bracket (h : mark.1.kind.opens = true ∨ mark.1.kind.closes = true) :
    mark.1.kind ≠ .dot ∧ isStep mark = false := by
  unfold isStep
  revert h
  cases mark.1.kind <;> simp [Token.Kind.opens, Token.Kind.closes]

/-- **Brackets divide chains**: those between them are neither begun before nor continued behind. -/
theorem map_segments_chainsFrom_bracketed {marks : List (Token × Bool)}
    (h : Bracketed (marks.map Prod.fst)) (afterDot : Bool) (before behind : List (Token × Bool)) :
    (chainsFrom afterDot (before ++ (marks ++ behind))).map segments
      = (chainsFrom afterDot before).map segments
        ++ ((chainsFrom false marks).map segments ++ (chainsFrom false behind).map segments) := by
  obtain ⟨opening, inner, closing, heq, hopens, -, hcloses⟩ := h
  obtain ⟨first, rest, rfl, rfl, hrest⟩ := List.map_eq_cons_iff.1 heq
  obtain ⟨inside, others, rfl, rfl, hothers⟩ := List.map_eq_append_iff.1 hrest
  obtain ⟨last, rfl, rfl⟩ := List.map_eq_singleton_iff.1 hothers
  obtain ⟨hdot, hstep⟩ := not_isStep_of_bracket (Or.inl hopens)
  obtain ⟨hdot', hstep'⟩ := not_isStep_of_bracket (Or.inr hcloses)
  have hnil : (chainsFrom false []).map segments = [] := by rw [chainsFrom, List.map_nil]
  have hall : before ++ (first :: (inside ++ [last]) ++ behind)
      = before ++ first :: (inside ++ last :: behind) := by simp
  have hmarks : first :: (inside ++ [last]) = [] ++ first :: (inside ++ last :: []) := rfl
  rw [hall, hmarks, map_segments_chainsFrom_append hdot hstep,
    map_segments_chainsFrom_append hdot' hstep', map_segments_chainsFrom_append hdot hstep,
    map_segments_chainsFrom_append hdot' hstep', hnil, List.nil_append, List.append_nil]

/-- All names are set aside. -/
def NoNames (marks : List (Token × Bool)) : Prop :=
  ∀ mark ∈ marks, mark.1.kind = .ident → mark.2 = true

theorem NoNames.chainsFrom_eq_nil (h : NoNames front) (afterDot : Bool) :
    chainsFrom afterDot front = [] := by
  induction front generalizing afterDot with
  | nil => rw [chainsFrom]
  | cons mark rest ih =>
    have hname : ¬ (mark.1.kind == .ident && !mark.2 && !afterDot) = true := by
      intro hname
      simp only [Bool.and_eq_true, beq_iff_eq, Bool.not_eq_true'] at hname
      rw [h mark List.mem_cons_self hname.1.1] at hname
      cases hname.1.2
    rw [chainsFrom, if_neg hname]
    exact ih (fun other hother => h other (List.mem_cons_of_mem mark hother)) _

end Chains

/-! ### The first colon -/

/-- The tokens before the first colon outside of all brackets, or all tokens if there is none. -/
def beforeColon (tokens : List Token) : List Token :=
  ((group 0 tokens).takeWhile fun mark => !isColon mark).map Prod.fst

/-- The tokens behind the first colon outside of all brackets. -/
def behindColon (tokens : List Token) : List Token :=
  (((group 0 tokens).dropWhile fun mark => !isColon mark).drop 1).map Prod.fst

/-- No colon is outside of all brackets. -/
def NoColon (tokens : List Token) : Prop := ∀ mark ∈ group 0 tokens, isColon mark = false

section Colon

variable {tokens : List Token}

theorem beforeColon_of_noColon (h : Balanced tokens) (hnone : NoColon tokens) :
    beforeColon tokens = tokens ∧ behindColon tokens = [] := by
  have hall : ∀ mark ∈ group 0 tokens, (!isColon mark) = true := by
    intro mark hmark
    rw [hnone mark hmark]
    rfl
  rw [beforeColon, behindColon, List.takeWhile_eq_self_iff.2 hall, List.dropWhile_eq_nil_iff.2 hall]
  exact ⟨map_fst_group h, rfl⟩

/-- **Balanced tokens with a colon are divided by the first one** into balanced tokens. -/
theorem exists_eq_beforeColon_append (h : Balanced tokens) (hsome : ¬ NoColon tokens) :
    ∃ colon : Token, colon.kind = .colon ∧
      tokens = beforeColon tokens ++ colon :: behindColon tokens ∧ Balanced (beforeColon tokens) ∧
        Balanced (behindColon tokens) ∧ NoColon (beforeColon tokens) := by
  have hdivided : (group 0 tokens).takeWhile (fun mark => !isColon mark)
      ++ (group 0 tokens).dropWhile (fun mark => !isColon mark) = group 0 tokens :=
    List.takeWhile_append_dropWhile
  have hfree : ∀ mark ∈ (group 0 tokens).takeWhile (fun mark => !isColon mark),
      isColon mark = false := fun mark hmark => by simpa using List.mem_takeWhile_imp hmark
  have hfirst := List.head?_dropWhile_not (fun mark => !isColon mark) (group 0 tokens)
  unfold beforeColon behindColon
  generalize (group 0 tokens).takeWhile (fun mark => !isColon mark) = before at hdivided hfree ⊢
  generalize (group 0 tokens).dropWhile (fun mark => !isColon mark) = behind at hdivided hfirst ⊢
  cases behind with
  | nil =>
    rw [List.append_nil] at hdivided
    exact absurd (fun mark hmark => hfree mark (hdivided ▸ hmark)) hsome
  | cons mark behind =>
    have hcolon : isColon mark = true := by simpa using hfirst
    simp only [isColon, Bool.and_eq_true, beq_iff_eq] at hcolon
    obtain ⟨hdepth, hkind⟩ := hcolon
    have htokens : tokens = before.map Prod.fst ++ mark.1 :: behind.map Prod.fst := by
      rw [← List.map_cons, ← List.map_append, hdivided, map_fst_group h]
    -- the depth at the colon is the one that the tokens before it leave
    rw [Balanced, htokens, depthAfter?_append] at h
    obtain ⟨depth, hbefore, hbehind⟩ := Option.bind_eq_some_iff.1 h
    have hplain := depthBehind?_noBracket (noBracket_of_kind hkind ⟨rfl, rfl⟩) depth
    rw [htokens, group_append hbefore, group_cons, hplain] at hdivided
    obtain ⟨hgroup, hmark⟩ := List.append_inj hdivided
      (by rw [length_group hbefore, List.length_map])
    obtain rfl : depth = 0 := by
      rw [(List.cons.inj hmark).1, Nat.min_self] at hdepth
      exact hdepth
    rw [depthAfter?, hplain, Option.bind_some] at hbehind
    exact ⟨mark.1, hkind, htokens, hbefore, hbehind, fun other hother => hfree other (hgroup ▸ hother)⟩

theorem chains_nil : chains [] = [] := by
  rw [chains, marked, List.zipIdx_nil, List.map_nil, chainsFrom]

/-- A colon outside of all brackets divides the chains. -/
theorem map_segments_chains (h : Balanced tokens) : (chains tokens).map segments
    = (chains (beforeColon tokens)).map segments ++ (chains (behindColon tokens)).map segments := by
  by_cases hnone : NoColon tokens
  · obtain ⟨hbefore, hbehind⟩ := beforeColon_of_noColon h hnone
    rw [hbefore, hbehind, chains_nil, List.map_nil, List.append_nil]
  · obtain ⟨colon, hkind, htokens, hbefore, -, -⟩ := exists_eq_beforeColon_append h hnone
    have hcolon : Balanced [colon] := Balanced.cons (noBracket_of_kind hkind ⟨rfl, rfl⟩) rfl
    have hmarked : marked tokens
        = marked (beforeColon tokens) ++ (colon, false) :: marked (behindColon tokens) := by
      conv_lhs => rw [htokens, marked_append hbefore, ← List.singleton_append, marked_append hcolon]
      rfl
    have hdot : colon.kind ≠ .dot := by
      rw [hkind]
      decide
    rw [chains, hmarked, map_segments_chainsFrom_append hdot (by simp [isStep, hkind]), chains, chains]

end Colon

end ConfigRefs.Traversal
