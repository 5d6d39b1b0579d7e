import ConfigRefs.Proofs.Checked.Traversal
import Mathlib.Data.List.Forall2

/-!
# Traversal: chains by position

Which tokens form the chains of a body can be said by positions alone, without the order in which they
are read. A chain begins at each name that is not set aside and not directly behind a dot (`beginsAt`),
and its steps are the longest run of dots and steps behind it (`IsLongestRun`). Nothing begins within
such a run (`IsLongestRun.beginsAt_eq_false`), so the chains are those at all beginnings in order, and
no token is in two of them (`chains_isChainAt`).
-/

namespace ConfigRefs.Traversal

open ConfigRefs.Checked (any_dot_of_taken kind_ne_dot_of_isStep)

/-- Whether a chain begins at a position: a name that is not set aside, not directly behind a dot. -/
def beginsAt (marks : List (Token × Bool)) (position : Nat) : Bool :=
  marks[position]?.any (fun mark => mark.1.kind == .ident && !mark.2)
    && (position == 0 || !marks[position - 1]?.any (·.1.kind == .dot))

/-- Whether a dot stands at a position and a step behind it. -/
def stepsAt (marks : List (Token × Bool)) (position : Nat) : Bool :=
  marks[position]?.any (·.1.kind == .dot) && marks[position + 1]?.any isStep

/-- The positions at which chains begin. -/
def beginnings (marks : List (Token × Bool)) : List Nat :=
  (List.range marks.length).filter (beginsAt marks)

/-- From a position on there are `count` dots with a step behind each, and then not another. -/
structure IsLongestRun (marks : List (Token × Bool)) (position count : Nat) : Prop where
  stepsAt : ∀ k < count, stepsAt marks (position + 2 * k) = true
  longest : Traversal.stepsAt marks (position + 2 * count) = false

/-- A traversal is the chain at a position: its segments are made by the name there and by the steps of
the longest run behind it, and what follows it is the token right behind that run. -/
structure IsChainAt (marks : List (Token × Bool)) (position : Nat) (traversal : Traversal) : Prop where
  segments : ∀ k segment, traversal.segments[k]? = some segment → ∃ token,
    marks[position + 2 * k]? = some (token, false) ∧
      segment = ⟨String.ofList token.text, token.start, token.stop, token.kind == .number⟩
  steps : IsLongestRun marks (position + 1) traversal.steps.length
  followedBy : traversal.followedBy
    = marks[position + 1 + 2 * traversal.steps.length]?.map (·.1.kind)

/-- The positions of the tokens that make the segments of the chain at a position. -/
def segmentPositions (position : Nat) (traversal : Traversal) : List Nat :=
  (List.range traversal.segments.length).map fun k => position + 2 * k

/-! ### Runs of steps -/

section Run

variable {marks front rest : List (Token × Bool)} {position count : Nat}

/-- What stands at a position does not depend on where the counting begins. -/
theorem stepsAt_append (front rest : List (Token × Bool)) (position : Nat) :
    stepsAt (front ++ rest) (front.length + position) = stepsAt rest position := by
  rw [stepsAt, stepsAt, Nat.add_assoc, List.getElem?_append_right (Nat.le_add_right _ _),
    List.getElem?_append_right (Nat.le_add_right _ _), Nat.add_sub_cancel_left,
    Nat.add_sub_cancel_left]

theorem IsLongestRun.append (h : IsLongestRun rest position count) (front : List (Token × Bool)) :
    IsLongestRun (front ++ rest) (front.length + position) count where
  stepsAt k hk := by
    rw [Nat.add_assoc, stepsAt_append]
    exact h.stepsAt k hk
  longest := by
    rw [Nat.add_assoc, stepsAt_append]
    exact h.longest

theorem IsLongestRun.zero (h : Traversal.stepsAt marks position = false) :
    IsLongestRun marks position 0 where
  stepsAt k hk := absurd hk (Nat.not_lt_zero k)
  longest := h

/-- A dot and a step in front of a longest run make it longer. -/
theorem IsLongestRun.succ (hstep : Traversal.stepsAt marks position = true)
    (h : IsLongestRun marks (position + 2) count) : IsLongestRun marks position (count + 1) where
  stepsAt k hk := by
    cases k with
    | zero => exact hstep
    | succ k =>
      have hk' := h.stepsAt k (Nat.lt_of_succ_lt_succ hk)
      rwa [Nat.add_assoc, Nat.add_comm 2] at hk'
  longest := by
    have hlongest := h.longest
    rwa [Nat.add_assoc, Nat.add_comm 2] at hlongest

/-- **Nothing begins within a run**: a dot is no name, and a step is directly behind a dot. -/
theorem IsLongestRun.beginsAt_eq_false (h : IsLongestRun marks position count) {place : Nat}
    (hle : position ≤ place) (hlt : place < position + 2 * count) : beginsAt marks place = false := by
  obtain ⟨k, hplace | hplace⟩ : ∃ k, place = position + 2 * k ∨ place = position + 2 * k + 1 :=
    ⟨(place - position) / 2, by omega⟩
  · have hstep := h.stepsAt k (by omega)
    rw [← hplace, Traversal.stepsAt, Bool.and_eq_true] at hstep
    obtain ⟨dot, hdot, hkind⟩ := (Option.any_eq_true _ _).1 hstep.1
    rw [beq_iff_eq] at hkind
    rw [beginsAt, hdot, Option.any_some, hkind]
    rfl
  · have hstep := h.stepsAt k (by omega)
    rw [Traversal.stepsAt, Bool.and_eq_true] at hstep
    have hbefore : place - 1 = position + 2 * k := by omega
    have hpos : (place == 0) = false := by
      rw [beq_eq_false_iff_ne]
      omega
    rw [beginsAt, hbefore, hstep.1, hpos]
    exact Bool.and_false _

/-- **The steps that are split off** are those of the longest run. -/
theorem isLongestRun_splitSteps (rest : List (Token × Bool)) :
    IsLongestRun rest 0 (splitSteps rest).1.length := by
  fun_induction splitSteps rest with
  | case1 dot name rest hstep steps behind hsplit ih =>
    rw [hsplit] at ih
    exact .succ (by simpa [stepsAt] using hstep) (ih.append [dot, name])
  | case2 dot name rest hstep => exact .zero (by simpa [stepsAt] using hstep)
  | case3 rest hshort =>
    rcases rest with _ | ⟨first, _ | ⟨second, more⟩⟩
    · exact .zero rfl
    · exact .zero (Bool.and_false _)
    · exact (hshort _ _ _ rfl).elim

/-- Each step that is split off takes two tokens, and the second of them makes its segment. -/
theorem exists_token_of_splitSteps (rest : List (Token × Bool)) {k : Nat} {segment : Segment}
    (h : (splitSteps rest).1[k]? = some segment) :
    ∃ token, rest[2 * k + 1]? = some (token, false) ∧ segment = segmentOf token := by
  fun_induction splitSteps rest generalizing k with
  | case1 dot name rest hstep steps behind hsplit ih =>
    rw [hsplit] at ih
    cases k with
    | zero =>
      rw [isStep, Bool.and_eq_true, Bool.and_eq_true] at hstep
      have haside : name.2 = false := by simpa using hstep.2.2
      refine ⟨name.1, ?_, (Option.some.inj h).symm⟩
      rw [← haside]
      rfl
    | succ k => exact ih h
  | case2 dot name rest hstep => cases h
  | case3 rest hshort => cases h

theorem drop_splitSteps (rest : List (Token × Bool)) :
    (splitSteps rest).2 = rest.drop (2 * (splitSteps rest).1.length) := by
  fun_induction splitSteps rest with
  | case1 dot name rest hstep steps behind hsplit ih =>
    rw [hsplit] at ih
    exact ih
  | case2 dot name rest hstep => rfl
  | case3 rest hshort => rfl

theorem length_eq_splitSteps (rest : List (Token × Bool)) :
    rest.length = 2 * (splitSteps rest).1.length + (splitSteps rest).2.length := by
  fun_induction splitSteps rest with
  | case1 dot name rest hstep steps behind hsplit ih =>
    rw [hsplit] at ih
    simp only [List.length_cons] at ih ⊢
    omega
  | case2 dot name rest hstep => exact (Nat.zero_add _).symm
  | case3 rest hshort => exact (Nat.zero_add _).symm

end Run

/-! ### Chains -/

section Chains

variable {marks front rest : List (Token × Bool)}

/-- A name that a chain begins with makes the chain at its position. -/
theorem isChainAt_append {mark : Token × Bool} (hmark : mark.2 = false)
    (hmarks : marks = front ++ mark :: rest) : IsChainAt marks front.length
      ⟨segmentOf mark.1, (splitSteps rest).1, (splitSteps rest).2.head?.map (·.1.kind)⟩ where
  segments k segment h := by
    rw [hmarks, List.getElem?_append_right (Nat.le_add_right _ _), Nat.add_sub_cancel_left]
    cases k with
    | zero =>
      obtain rfl := Option.some.inj h
      refine ⟨mark.1, ?_, rfl⟩
      rw [← hmark]
      rfl
    | succ k => exact exists_token_of_splitSteps rest h
  steps := by
    have hrun := (isLongestRun_splitSteps rest).append (front ++ [mark])
    rwa [List.append_assoc, List.singleton_append, ← hmarks, List.length_append] at hrun
  followedBy := by
    have hbehind : marks.drop (front.length + 1) = rest := by
      rw [hmarks, List.drop_append]
      simp
    rw [drop_splitSteps, ← hbehind, List.drop_drop, List.head?_drop]

theorem beginsAt_append {mark : Token × Bool} (hmarks : marks = front ++ mark :: rest) :
    beginsAt marks front.length
      = (mark.1.kind == .ident && !mark.2 && !front.getLast?.any (·.1.kind == .dot)) := by
  have hmark : marks[front.length]? = some mark := by rw [hmarks]; simp
  rw [beginsAt, hmark, Option.any_some]
  rcases List.eq_nil_or_concat front with rfl | ⟨before, last, rfl⟩
  · rfl
  · rw [List.concat_eq_append] at hmarks ⊢
    have hlast : marks[before.length]? = some last := by rw [hmarks]; simp
    have hpos : ((before ++ [last]).length == 0) = false := by simp
    rw [hpos, Bool.false_or, List.length_append, List.length_singleton, Nat.add_sub_cancel, hlast,
      List.getLast?_concat]

/-- The last token that the steps of a chain take is no dot. -/
theorem kind_ne_dot_of_taken (rest : List (Token × Bool)) :
    ∀ last ∈ (rest.take (2 * (splitSteps rest).1.length)).getLast?, last.1.kind ≠ .dot := by
  intro last hlast
  rw [List.getLast?_take] at hlast
  split at hlast
  · cases hlast
  · next hne =>
    have hstep := (isLongestRun_splitSteps rest).stepsAt ((splitSteps rest).1.length - 1) (by omega)
    have hplace : 0 + 2 * ((splitSteps rest).1.length - 1) + 1 = 2 * (splitSteps rest).1.length - 1 := by
      omega
    rw [stepsAt, hplace, Bool.and_eq_true] at hstep
    obtain ⟨name, hname, hisStep⟩ := (Option.any_eq_true _ _).1 hstep.2
    rw [hname, Option.some_or] at hlast
    obtain rfl := Option.some.inj hlast
    exact kind_ne_dot_of_isStep hisStep

/-- **The chains from a position on** are those at all beginnings from there on. -/
theorem chainsFrom_isChainAt (afterDot : Bool) (rest : List (Token × Bool)) :
    ∀ front : List (Token × Bool), marks = front ++ rest →
      afterDot = front.getLast?.any (·.1.kind == .dot) → List.Forall₂ (IsChainAt marks)
        ((List.range' front.length rest.length).filter (beginsAt marks)) (chainsFrom afterDot rest) := by
  fun_induction chainsFrom afterDot rest with
  | case1 afterDot =>
    intro front _ _
    exact .nil
  | case2 afterDot mark rest hbegins split ih =>
    rintro front hmarks rfl
    have hhere := beginsAt_append hmarks
    rw [hbegins] at hhere
    simp only [Bool.and_eq_true, beq_iff_eq, Bool.not_eq_true'] at hbegins
    have hchain := isChainAt_append hbegins.1.2 hmarks
    -- the positions of the steps are passed over, since nothing begins there
    have hbehind : split.2 = rest.drop (2 * split.1.length) := drop_splitSteps rest
    have hlength : rest.length = 2 * split.1.length + split.2.length := length_eq_splitSteps rest
    have htaken : (front ++ mark :: rest.take (2 * split.1.length)).length
        = front.length + 1 + 2 * split.1.length := by
      rw [List.length_append, List.length_cons, List.length_take]
      omega
    have hdot : mark.1.kind ≠ .dot := by
      rw [hbegins.1.1]
      decide
    have hnone : (List.range' (front.length + 1) (2 * split.1.length)).filter (beginsAt marks) = [] := by
      refine List.filter_eq_nil_iff.2 fun place hplace => ?_
      rw [List.mem_range'_1] at hplace
      exact Bool.eq_false_iff.1 (hchain.steps.beginsAt_eq_false hplace.1 hplace.2)
    have hnext : marks = (front ++ mark :: rest.take (2 * split.1.length)) ++ split.2 := by
      rw [hbehind, List.append_assoc, List.cons_append, List.take_append_drop, hmarks]
    have hfurther := ih _ hnext (any_dot_of_taken hdot (kind_ne_dot_of_taken rest)).symm
    rw [List.length_cons, List.range'_succ, List.filter_cons_of_pos hhere, hlength,
      ← List.range'_append_1, List.filter_append, hnone, List.nil_append]
    rw [htaken] at hfurther
    exact .cons hchain hfurther
  | case3 afterDot mark rest hbegins ih =>
    rintro front hmarks rfl
    have hhere := beginsAt_append hmarks
    rw [Bool.eq_false_iff.2 hbegins] at hhere
    have hnext : marks = (front ++ [mark]) ++ rest := by
      rw [hmarks, List.append_assoc, List.singleton_append]
    have hfurther := ih (front ++ [mark]) hnext (by rw [List.getLast?_concat]; rfl)
    rw [List.length_cons, List.range'_succ, List.filter_cons_of_neg (by rw [hhere]; simp)]
    rwa [List.length_append, List.length_singleton] at hfurther

/-- A chain ends before the next one begins. -/
theorem IsChainAt.lt_of_beginsAt {traversal : Traversal} {position next : Nat}
    (h : IsChainAt marks position traversal) (hlt : position < next)
    (hnext : beginsAt marks next = true) : position + 2 * traversal.steps.length < next := by
  by_contra! hle
  have hnone : beginsAt marks next = false := h.steps.beginsAt_eq_false (by omega) (by omega)
  rw [hnext] at hnone
  cases hnone

end Chains

/-- **Every chain is found once and whole.** All tokens are marked, each with whether a comprehension sets
it aside. The chains are those at the positions of all names that are not set aside and not directly
behind a dot, one for each and in order. Each of them takes the longest run of dots and steps behind its
name, and no token makes a segment of two of them. -/
theorem chains_isChainAt (tokens : List Token) :
    (marked tokens).map Prod.fst = tokens ∧
      List.Forall₂ (IsChainAt (marked tokens)) (beginnings (marked tokens)) (chains tokens) ∧
      (((beginnings (marked tokens)).zip (chains tokens)).flatMap fun found =>
        segmentPositions found.1 found.2).Pairwise (· < ·) := by
  have hchains : List.Forall₂ (IsChainAt (marked tokens)) (beginnings (marked tokens))
      (chains tokens) := by
    rw [beginnings, List.range_eq_range']
    exact chainsFrom_isChainAt false (marked tokens) [] rfl rfl
  refine ⟨map_fst_marked tokens, hchains, List.pairwise_flatMap.2 ⟨fun found _ => ?_, ?_⟩⟩
  · rw [segmentPositions, List.pairwise_map]
    exact List.pairwise_lt_range.imp fun hlt => by omega
  · have hordered : ((beginnings (marked tokens)).zip (chains tokens)).Pairwise
        fun found next => found.1 < next.1 := by
      rw [← List.pairwise_map, List.map_fst_zip hchains.length_eq.le]
      exact List.pairwise_lt_range.filter _
    refine hordered.imp_of_mem fun {found next} hfound hnext hlt => ?_
    have hbegins := (List.mem_filter.1 (List.of_mem_zip hnext).1).2
    have hbehind := (List.forall₂_zip hchains hfound).lt_of_beginsAt hlt hbegins
    simp only [segmentPositions, List.mem_map, List.mem_range]
    rintro _ ⟨k, hk, rfl⟩ _ ⟨l, -, rfl⟩
    rw [Traversal.segments, List.length_cons] at hk
    omega

/-- Neither a splat nor a second dot continues a chain, and nothing begins behind them or where a
comprehension sets its tokens aside. -/
theorem chains_isChainAt_splat :
    let tokens := Token.tokensFrom 0 "[for x in a.0.*.b : x.v] + c.d..e".toList
    let first : Traversal := ⟨⟨"a", 10, 11, false⟩, [⟨"0", 12, 13, true⟩], some .splat⟩
    let second : Traversal := ⟨⟨"c", 27, 28, false⟩, [⟨"d", 29, 30, false⟩], some .dot⟩
    (marked tokens).map Prod.fst = tokens ∧ tokens.length = 22 ∧
      chains tokens = [first, second] ∧ IsChainAt (marked tokens) 4 first ∧
      IsChainAt (marked tokens) 16 second := by
  intro tokens first second
  have hbegins : beginnings (marked tokens) = [4, 16] := by
    unfold tokens
    decide +kernel
  have hchains : chains tokens = [first, second] := by
    unfold tokens first second
    decide +kernel
  have hlength : tokens.length = 22 := by
    unfold tokens
    decide +kernel
  obtain ⟨hmarked, hfound, -⟩ := chains_isChainAt tokens
  rw [hbegins, hchains] at hfound
  obtain _ | ⟨hfirst, _ | ⟨hsecond, _⟩⟩ := hfound
  exact ⟨hmarked, hlength, hchains, hfirst, hsecond⟩

end ConfigRefs.Traversal
