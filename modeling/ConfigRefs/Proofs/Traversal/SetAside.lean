import ConfigRefs.Proofs.Traversal.Group

/-!
# Traversal: what comprehensions set aside

What comprehensions set aside in balanced tokens does not depend on what stands behind them
(`marked_append`). In tokens with brackets around them it does not depend on what stands before them
either, unless the bracket that opens them is set aside itself (`exists_marked_append`).
-/

namespace ConfigRefs.Traversal

open ConfigRefs.Checked (clauseIntervals clause?_eq length_group_le)

/-! ### Intervals that are set aside -/

section SetAside

variable {position : Nat} {previous : Option Token} {front back tokens : List Token}

/-- Whether intervals hold a position. -/
def hold (intervals : List Interval) (position : Nat) : Bool :=
  intervals.any fun (first, stop) => first ≤ position && position < stop

theorem hold_cons (first stop : Nat) (intervals : List Interval) (position : Nat) :
    hold ((first, stop) :: intervals) position
      = (decide (first ≤ position) && decide (position < stop) || hold intervals position) := rfl

theorem hold_append (a b : List Interval) (position : Nat) :
    hold (a ++ b) position = (hold a position || hold b position) := List.any_append

theorem setAsideFrom_cons (position : Nat) (previous : Option Token) (token : Token)
    (rest : List Token) : setAsideFrom position previous (token :: rest)
      = (if previous.any opensComprehension && token.isWord "for" then clauseIntervals position rest
          else []) ++ setAsideFrom (position + 1) (some token) rest := rfl

/-- A comprehension begins at no token but the word `for`. -/
theorem setAsideFrom_cons_of_not {token : Token} (h : token.isWord "for" = false) (position : Nat)
    (previous : Option Token) (rest : List Token) :
    setAsideFrom position previous (token :: rest)
      = setAsideFrom (position + 1) (some token) rest := by
  rw [setAsideFrom_cons, h, Bool.and_false, if_neg Bool.false_ne_true, List.nil_append]

/-- What is set aside counts from where the tokens begin. -/
theorem setAsideFrom_add (position more : Nat) (previous : Option Token) (tokens : List Token) :
    setAsideFrom (position + more) previous tokens
      = (setAsideFrom position previous tokens).map fun (first, stop) =>
          (first + more, stop + more) := by
  induction tokens generalizing position previous with
  | nil => rfl
  | cons token rest ih =>
    have hclause : clauseIntervals (position + more) rest
        = (clauseIntervals position rest).map fun (first, stop) => (first + more, stop + more) := by
      unfold clauseIntervals
      cases clause? rest with
      | none => rfl
      | some clause => simp [Nat.add_right_comm]
    rw [setAsideFrom_cons, setAsideFrom_cons, List.map_append, ← ih (position + 1),
      Nat.add_right_comm, hclause]
    split <;> rfl

/-- What a comprehension sets aside lies among its tokens. -/
theorem bounds_of_mem_clauseIntervals {interval : Interval}
    (h : interval ∈ clauseIntervals position tokens) :
    position ≤ interval.1 ∧ interval.2 ≤ position + 1 + tokens.length := by
  unfold clauseIntervals at h
  split at h
  · next clause hclause =>
    have hparts := isClause_of_clause? hclause
    have hlength := length_group_le 0 tokens
    have hkeyword := hparts.keyword_lt
    have hcolon := hparts.colon_lt
    rw [← hparts.close] at hlength
    simp only [List.mem_cons, List.not_mem_nil, or_false] at h
    rcases h with rfl | rfl <;> simp only <;> omega
  · cases h

theorem bounds_of_mem_setAsideFrom {interval : Interval}
    (h : interval ∈ setAsideFrom position previous tokens) :
    position ≤ interval.1 ∧ interval.2 ≤ position + tokens.length := by
  induction tokens generalizing position previous with
  | nil => cases h
  | cons token rest ih =>
    rw [setAsideFrom_cons, List.mem_append] at h
    rw [List.length_cons]
    rcases h with h | h
    · split at h
      · have := bounds_of_mem_clauseIntervals h
        omega
      · cases h
    · have := ih h
      omega

theorem hold_setAsideFrom_of_lt {place : Nat} (h : place < position) :
    hold (setAsideFrom position previous tokens) place = false := by
  refine List.any_eq_false.2 fun interval hmem => ?_
  have := (bounds_of_mem_setAsideFrom hmem).1
  simp only [Bool.and_eq_true, decide_eq_true_eq]
  omega

theorem hold_setAsideFrom_of_le {place : Nat} (h : position + tokens.length ≤ place) :
    hold (setAsideFrom position previous tokens) place = false := by
  refine List.any_eq_false.2 fun interval hmem => ?_
  have := (bounds_of_mem_setAsideFrom hmem).2
  simp only [Bool.and_eq_true, decide_eq_true_eq]
  omega

/-- The last token of some, or else the one before them. -/
theorem getLast?_cons_or (token : Token) (front : List Token) (previous : Option Token) :
    (token :: front).getLast?.or previous = front.getLast?.or (some token) := by
  rw [List.getLast?_cons]
  cases front.getLast? <;> rfl

/-- **What comprehensions set aside in tokens that close their brackets** does not depend on what stands
behind them. The token before them may be a bracket if it is one of those that they close. -/
theorem setAsideFrom_append {depth : Nat} (h : depthAfter? depth front = some 0)
    (hprevious : previous.any opensComprehension = true → 0 < depth) (position : Nat)
    (back : List Token) :
    setAsideFrom position previous (front ++ back) = setAsideFrom position previous front
      ++ setAsideFrom (position + front.length) (front.getLast?.or previous) back := by
  induction front generalizing position previous depth with
  | nil => rfl
  | cons token front ih =>
    obtain ⟨next, hnext, hlast⟩ := Option.bind_eq_some_iff.1 h
    have hopens : (some token).any opensComprehension = true → 0 < next := by
      intro hopens
      rw [depthBehind?, if_pos (kind_opens_of_opensComprehension hopens)] at hnext
      obtain rfl := Option.some.inj hnext
      exact Nat.succ_pos depth
    rw [List.cons_append, setAsideFrom_cons, setAsideFrom_cons, ih hlast hopens, List.append_assoc,
      getLast?_cons_or, List.length_cons, Nat.add_right_comm, Nat.add_assoc position]
    congr 1
    -- the group of a clause is closed, since the bracket before the word `for` is
    split
    · next hfor =>
      obtain ⟨hbracket, hword⟩ := Bool.and_eq_true_iff.1 hfor
      have hbracket' : NoBracket token := noBracket_of_kind (kind_of_isWord hword) ⟨rfl, rfl⟩
      rw [depthBehind?_noBracket hbracket'] at hnext
      obtain rfl := Option.some.inj hnext
      have hgroup := group_append_of_none (depthAfter?_eq_none hlast (hprevious hbracket)) back
      rw [clauseIntervals, clauseIntervals, clause?_eq, clause?_eq, hgroup]
    · rfl

/-- Intervals hold all of the positions between two or none of them. -/
def HoldAllOrNone (intervals : List Interval) (start stop : Nat) : Prop :=
  ∀ interval ∈ intervals,
    interval.2 ≤ start ∨ stop ≤ interval.1 ∨ interval.1 ≤ start ∧ stop ≤ interval.2

theorem HoldAllOrNone.hold_eq {intervals : List Interval} {start stop : Nat}
    (h : HoldAllOrNone intervals start stop) (hle : start ≤ position) (hlt : position < stop) :
    hold intervals position = hold intervals start := by
  rw [hold, hold, Bool.eq_iff_iff, List.any_eq_true, List.any_eq_true]
  refine exists_congr fun interval => and_congr_right fun hmem => ?_
  have := h interval hmem
  simp only [Bool.and_eq_true, decide_eq_true_eq]
  omega

theorem holdAllOrNone_clauseIntervals (htokens : Bracketed tokens) (position : Nat)
    (front back : List Token) :
    HoldAllOrNone (clauseIntervals position (front ++ (tokens ++ back)))
      (position + 1 + front.length) (position + 1 + front.length + tokens.length) := by
  intro interval hmem
  unfold clauseIntervals at hmem
  split at hmem
  · next clause hclause =>
    have hparts := isClause_of_clause? hclause
    have hkeyword := hparts.not_among htokens (Or.inl rfl)
    have hcolon := hparts.not_among htokens (Or.inr (Or.inl rfl))
    have hclose := hparts.not_among htokens (Or.inr (Or.inr rfl))
    have := hparts.colon_lt
    simp only [List.mem_cons, List.not_mem_nil, or_false] at hmem
    rcases hmem with rfl | rfl <;> simp only <;> omega
  · cases hmem

/-- Only a bracket before the first token matters. -/
theorem setAsideFrom_eq_none (h : previous.any opensComprehension = false) (position : Nat)
    (tokens : List Token) :
    setAsideFrom position previous tokens = setAsideFrom position none tokens := by
  cases tokens with
  | nil => rfl
  | cons token rest => rw [setAsideFrom_cons, h, setAsideFrom_cons, Option.any_none]

/-- A bracket is not the word `for`. -/
theorem Bracketed.setAsideFrom_eq_none (h : Bracketed tokens) (position : Nat)
    (previous : Option Token) (back : List Token) :
    setAsideFrom position previous (tokens ++ back) = setAsideFrom position none (tokens ++ back) := by
  obtain ⟨opening, inner, closing, rfl, hopens, -, -⟩ := h
  have hword := isWord_of_opens hopens "for"
  rw [List.cons_append, setAsideFrom_cons_of_not hword, setAsideFrom_cons_of_not hword]

/-- The comprehensions before tokens with brackets around them set aside all of these or none. -/
theorem exists_setAsideFrom_append (htokens : Bracketed tokens) (position : Nat)
    (previous : Option Token) (front back : List Token) :
    ∃ intervals, setAsideFrom position previous (front ++ (tokens ++ back))
        = intervals ++ setAsideFrom (position + front.length) none (tokens ++ back) ∧
      HoldAllOrNone intervals (position + front.length)
        (position + front.length + tokens.length) := by
  induction front generalizing position previous with
  | nil =>
    exact ⟨[], htokens.setAsideFrom_eq_none position previous back,
      fun _ h => absurd h List.not_mem_nil⟩
  | cons token front ih =>
    obtain ⟨intervals, hintervals, hall⟩ := ih (position + 1) (some token)
    rw [List.cons_append, setAsideFrom_cons, hintervals, List.length_cons, ← List.append_assoc,
      Nat.add_comm front.length 1, ← Nat.add_assoc]
    refine ⟨_, rfl, fun interval hmem => ?_⟩
    rcases List.mem_append.1 hmem with hmem | hmem
    · split at hmem
      · exact holdAllOrNone_clauseIntervals htokens position front back interval hmem
      · cases hmem
    · exact hall interval hmem

end SetAside

/-! ### Marks -/

section Marks

variable {front back tokens : List Token}

/-- Tokens, the first of them at a position, each with whether intervals hold its position. -/
def markedBy (intervals : List Interval) (position : Nat) (tokens : List Token) :
    List (Token × Bool) :=
  (tokens.zipIdx position).map fun mark => (mark.1, hold intervals mark.2)

theorem marked_eq (tokens : List Token) :
    marked tokens = markedBy (setAsideFrom 0 none tokens) 0 tokens := rfl

variable {intervals others : List Interval} {position : Nat}

theorem map_fst_markedBy (intervals : List Interval) (position : Nat) (tokens : List Token) :
    (markedBy intervals position tokens).map Prod.fst = tokens := by
  rw [markedBy, List.map_map]
  exact List.zipIdx_map_fst position tokens

theorem markedBy_append (intervals : List Interval) (position : Nat) (front back : List Token) :
    markedBy intervals position (front ++ back)
      = markedBy intervals position front ++ markedBy intervals (position + front.length) back := by
  rw [markedBy, List.zipIdx_append, List.map_append, markedBy, markedBy]

theorem markedBy_cons (intervals : List Interval) (position : Nat) (token : Token)
    (rest : List Token) : markedBy intervals position (token :: rest)
      = (token, hold intervals position) :: markedBy intervals (position + 1) rest := rfl

theorem markedBy_congr (h : ∀ place, position ≤ place → place < position + tokens.length →
    hold intervals place = hold others place) :
    markedBy intervals position tokens = markedBy others position tokens := by
  refine List.map_congr_left fun mark hmark => ?_
  obtain ⟨hle, hlt, -⟩ := List.mem_zipIdx hmark
  rw [h mark.2 hle hlt]

theorem markedBy_eq_map (h : ∀ place, position ≤ place → place < position + tokens.length →
    hold intervals place = true) :
    markedBy intervals position tokens = tokens.map fun token => (token, true) := by
  calc markedBy intervals position tokens
      = (tokens.zipIdx position).map fun mark => (mark.1, true) := by
        refine List.map_congr_left fun mark hmark => ?_
        obtain ⟨hle, hlt, -⟩ := List.mem_zipIdx hmark
        rw [h mark.2 hle hlt]
    _ = ((tokens.zipIdx position).map Prod.fst).map fun token => (token, true) := by
        rw [List.map_map]
        rfl
    _ = tokens.map fun token => (token, true) := by rw [List.zipIdx_map_fst]

theorem getElem?_markedBy (intervals : List Interval) (position : Nat) (tokens : List Token)
    (index : Nat) : (markedBy intervals position tokens)[index]?
      = tokens[index]?.map fun token => (token, hold intervals (position + index)) := by
  rw [markedBy, List.getElem?_map, List.getElem?_zipIdx, Option.map_map]
  rfl

/-- Intervals that count from a position hold what they hold when they count from the beginning. -/
theorem markedBy_setAsideFrom (position : Nat) (tokens : List Token) :
    markedBy (setAsideFrom position none tokens) position tokens = marked tokens := by
  have hshift := setAsideFrom_add 0 position none tokens
  rw [Nat.zero_add] at hshift
  apply List.ext_getElem?
  intro index
  rw [marked_eq, getElem?_markedBy, getElem?_markedBy, hshift, Nat.zero_add]
  congr 1
  funext token
  congr 1
  rw [hold, List.any_map, hold]
  congr 1
  funext interval
  simp only [Function.comp_apply, Nat.add_comm position index, Nat.add_le_add_iff_right,
    Nat.add_lt_add_iff_right]

/-- **What is set aside in balanced tokens** does not depend on what stands behind them. -/
theorem marked_append (h : Balanced front) (back : List Token) :
    marked (front ++ back) = marked front ++ marked back := by
  have hlast : (front.getLast?.or none).any opensComprehension = false := by
    rw [Option.or_none]
    exact h.any_getLast?
  rw [marked_eq, setAsideFrom_append h (fun hnone => by cases hnone), markedBy_append,
    setAsideFrom_eq_none hlast, Nat.zero_add, ← markedBy_setAsideFrom front.length back, marked_eq]
  congr 1
  · refine markedBy_congr fun place _ hlt => ?_
    have hbehind : hold (setAsideFrom front.length none back) place = false :=
      hold_setAsideFrom_of_lt (by omega)
    rw [hold_append, hbehind, Bool.or_false]
  · refine markedBy_congr fun place hle _ => ?_
    rw [hold_append, hold_setAsideFrom_of_le (by omega), Bool.false_or]

/-- **What is set aside between two brackets** does not depend on what stands around them, unless they
are set aside. -/
theorem exists_marked_append (htokens : Bracketed tokens) (front back : List Token)
    (houtside : ((marked (front ++ (tokens ++ back)))[front.length]?).map Prod.snd = some false) :
    ∃ before behind, marked (front ++ (tokens ++ back)) = before ++ (marked tokens ++ behind) ∧
      before.map Prod.fst = front ∧ behind.map Prod.fst = back := by
  obtain ⟨intervals, hintervals, hall⟩ := exists_setAsideFrom_append htokens 0 none front back
  rw [Nat.zero_add, setAsideFrom_append htokens.balanced (fun hnone => by cases hnone)]
    at hintervals
  rw [Nat.zero_add] at hall
  have hfree : hold intervals front.length = false := by
    rw [marked_eq, getElem?_markedBy, hintervals, Option.map_map, Nat.zero_add] at houtside
    obtain ⟨token, -, hhold⟩ := Option.map_eq_some_iff.1 houtside
    rw [Function.comp_apply, hold_append, Bool.or_eq_false_iff] at hhold
    exact hhold.1
  rw [marked_eq, hintervals, markedBy_append, markedBy_append, Nat.zero_add]
  refine ⟨_, _, congrArg (_ ++ ·) (congrArg (· ++ _) ?_), map_fst_markedBy _ _ _,
    map_fst_markedBy _ _ _⟩
  rw [← markedBy_setAsideFrom front.length tokens]
  refine markedBy_congr fun place hle hlt => ?_
  rw [hold_append, hold_append, hall.hold_eq hle hlt, hfree, Bool.false_or,
    hold_setAsideFrom_of_lt hlt, Bool.or_false]

end Marks

end ConfigRefs.Traversal
