import ConfigRefs.Proofs.Checked.Comprehension
import ConfigRefs.Proofs.Traversal.Place

/-!
# Checked: traversals

Chains of names are grouped by positions in the list of tokens and in the list of flags. With a check
on each position this finds the traversals of the tokens (`chains_eq_chainsFrom`), and in all bodies of
a text its traversals (`candidates_eq`).
-/

namespace ConfigRefs.Checked

open ConfigRefs.Text ConfigRefs.Token ConfigRefs.Traversal ConfigRefs.Interpolation

/-- A chain by its segments and the kind of the token behind it. -/
structure Chain where
  segments : List Segment
  followedBy : Option Token.Kind

/-- The chain of a traversal. -/
def Chain.of (traversal : Traversal) : Chain := ⟨traversal.segments, traversal.followedBy⟩

/-- The segment that a lexeme makes. -/
def segment (text : List Char) (lexeme : Lexeme) : Option Segment := do
  let written ← lexeme.text text
  some ⟨String.ofList written, lexeme.start, lexeme.stop, lexeme.kind == .number⟩

/-- Whether a step stands at a position that another one follows. -/
def isStepAt (lexemes : List Lexeme) (flags : List Bool) (position : Nat) : Option Bool := do
  let dot ← lexemes[position]?
  if dot.kind = .dot then do
    let name ← lexemes[position + 1]?
    if name.kind = .ident ∨ name.kind = .number then do
      let aside ← flags[position + 1]?
      some (!aside)
    else some false
  else some false

/-- The steps from a position on, and the position behind them. -/
def steps (text : List Char) (lexemes : List Lexeme) (flags : List Bool) (position : Nat) :
    Option (List Segment × Nat) :=
  if position + 1 < lexemes.length then do
    let goes ← isStepAt lexemes flags position
    if goes then do
      let name ← lexemes[position + 1]?
      let first ← segment text name
      let found ← steps text lexemes flags (position + 2)
      some (first :: found.1, found.2)
    else some ([], position)
  else some ([], position)
termination_by lexemes.length - position
decreasing_by omega

/-- Whether a chain begins at a position. -/
def beginsChain (lexemes : List Lexeme) (flags : List Bool) (position : Nat) : Option Bool := do
  let lexeme ← lexemes[position]?
  if lexeme.kind = .ident then do
    let aside ← flags[position]?
    if aside then some false
    else if position = 0 then some true
    else do
      let before ← subtract position 1
      let previous ← lexemes[before]?
      some (previous.kind != .dot)
  else some false

/-- The chains from a position on. -/
def chains (text : List Char) (lexemes : List Lexeme) (flags : List Bool) (position : Nat) :
    Option (List Chain) :=
  if position < lexemes.length then do
    let begins ← beginsChain lexemes flags position
    if begins then do
      let lexeme ← lexemes[position]?
      let head ← segment text lexeme
      let found ← steps text lexemes flags (position + 1)
      if position < found.2 then do
        let further ← chains text lexemes flags found.2
        some (⟨head :: found.1, lexemes[found.2]?.map Lexeme.kind⟩ :: further)
      else none
    else chains text lexemes flags (position + 1)
  else some []
termination_by lexemes.length - position
decreasing_by all_goals omega

/-- The chains of one body. -/
def chainsOfBody (text : List Char) (span : Span) : Option (List Chain) := do
  let lexemes ← tokenize text span.start (min span.stop (byteLength text))
  let flags ← setAside text lexemes
  chains text lexemes flags 0

/-- The chains of bodies in turn. -/
def chainsOfBodies (text : List Char) : List Span → Option (List Chain)
  | [] => some []
  | span :: rest => do
    let found ← chainsOfBody text span
    let further ← chainsOfBodies text rest
    some (found ++ further)

/-- The chains of all interpolations of a text, which must begin with one. -/
def candidates (text : List Char) : Option (List Chain) :=
  if ['$', '\x7b'] <+: text then do
    let spans ← interpolations (utf8 text) 0
    chainsOfBodies text spans
  else some []

section Chains

variable {text : List Char} {marks : List (Token × Bool)}

theorem segment_of {token : Token} (h : StandsAt text token.start token.text) :
    segment text (Lexeme.of token) = some (segmentOf token) := by
  rw [segment, text_of h]
  rfl

/-- The lexemes and the flags at a place among marked tokens. -/
theorem getElem?_of_eq_append {front rest : List (Token × Bool)} (hmarks : marks = front ++ rest)
    (k : Nat) : (marks.map (Lexeme.of ·.1))[front.length + k]? = rest[k]?.map (Lexeme.of ·.1) ∧
      (marks.map Prod.snd)[front.length + k]? = rest[k]?.map Prod.snd := by
  rw [List.getElem?_map, List.getElem?_map, hmarks,
    List.getElem?_append_right (Nat.le_add_right _ _), Nat.add_sub_cancel_left]
  exact ⟨rfl, rfl⟩

theorem kind_ne_dot_of_isStep {mark : Token × Bool} (h : isStep mark = true) :
    mark.1.kind ≠ .dot := by
  intro hdot
  rw [isStep, hdot] at h
  cases h

theorem isStepAt_eq {front rest : List (Token × Bool)} {dot name : Token × Bool}
    (hmarks : marks = front ++ dot :: name :: rest) :
    isStepAt (marks.map (Lexeme.of ·.1)) (marks.map Prod.snd) front.length
      = some (dot.1.kind == .dot && isStep name) := by
  obtain ⟨hdot, -⟩ := getElem?_of_eq_append hmarks 0
  obtain ⟨hname, hflag⟩ := getElem?_of_eq_append hmarks 1
  rw [Nat.add_zero] at hdot
  simp only [List.getElem?_cons_zero, List.getElem?_cons_succ, Option.map_some] at hdot hname hflag
  have hdotkind : (Lexeme.of dot.1).kind = dot.1.kind := rfl
  have hnamekind : (Lexeme.of name.1).kind = name.1.kind := rfl
  simp only [isStepAt, hdot, hname, hflag, Option.bind_eq_bind, Option.bind_some, hdotkind, hnamekind,
    isStep]
  by_cases h : dot.1.kind = .dot
  · by_cases h' : name.1.kind = .ident ∨ name.1.kind = .number
    · rw [if_pos h, if_pos h', h]
      rcases h' with h' | h' <;> simp [h']
    · rw [if_pos h, if_neg h']
      rw [not_or] at h'
      simp [h'.1, h'.2]
  · rw [if_neg h]
    simp [h]

/-- **The checked steps** are those that the tokens behind a place are split into. -/
theorem steps_eq_splitSteps (hplaced : ∀ mark ∈ marks, StandsAt text mark.1.start mark.1.text) :
    ∀ (rest front : List (Token × Bool)), marks = front ++ rest → ∃ taken,
      rest = taken ++ (splitSteps rest).2 ∧ (∀ mark ∈ taken.getLast?, mark.1.kind ≠ .dot) ∧
        steps text (marks.map (Lexeme.of ·.1)) (marks.map Prod.snd) front.length
          = some ((splitSteps rest).1, (front ++ taken).length) := by
  intro rest
  fun_induction splitSteps rest with
  | case1 dot name rest hstep further behind hsplit ih =>
    intro front hmarks
    obtain ⟨hname, -⟩ := getElem?_of_eq_append hmarks 1
    have hnext : marks = (front ++ [dot, name]) ++ rest := by rw [hmarks]; simp
    obtain ⟨taken, hrest, hlast, hsteps⟩ := ih (front ++ [dot, name]) hnext
    rw [hsplit] at hrest hsteps
    refine ⟨dot :: name :: taken, by rw [hrest]; rfl, ?_, ?_⟩
    · intro mark hmark
      rw [List.getLast?_cons_cons, List.getLast?_cons] at hmark
      cases htaken : taken.getLast? with
      | none =>
        rw [htaken] at hmark
        obtain rfl := Option.some.inj hmark
        exact kind_ne_dot_of_isStep (Bool.and_eq_true_iff.1 hstep).2
      | some last =>
        rw [htaken] at hmark
        obtain rfl := Option.some.inj hmark
        exact hlast last htaken
    · have hplace : StandsAt text name.1.start name.1.text := hplaced name (by rw [hmarks]; simp)
      have hlength : front.length + 2 = (front ++ [dot, name]).length := by simp
      rw [steps, if_pos (by rw [List.length_map, hmarks]; simp), isStepAt_eq hmarks, hstep, hname,
        hlength, hsteps]
      simp only [Option.bind_eq_bind, Option.bind_some, if_true, List.getElem?_cons_succ,
        List.getElem?_cons_zero, Option.map_some, segment_of hplace, List.append_assoc,
        List.cons_append, List.nil_append]
  | case2 dot name rest hstep =>
    intro front hmarks
    refine ⟨[], rfl, by simp, ?_⟩
    have hfalse : (dot.1.kind == .dot && isStep name) = false := Bool.eq_false_iff.2 hstep
    rw [steps, if_pos (by rw [List.length_map, hmarks]; simp), isStepAt_eq hmarks, hfalse,
      List.append_nil]
    rfl
  | case3 rest hshort =>
    intro front hmarks
    refine ⟨[], rfl, by simp, ?_⟩
    have hlength : rest.length ≤ 1 := by
      rcases rest with _ | ⟨first, _ | ⟨second, more⟩⟩
      · exact Nat.zero_le 1
      · exact Nat.le_refl 1
      · exact (hshort _ _ _ rfl).elim
    rw [steps, if_neg, List.append_nil]
    rw [List.length_map, hmarks, List.length_append]
    omega

theorem beginsChain_eq {front rest : List (Token × Bool)} {mark : Token × Bool}
    (hmarks : marks = front ++ mark :: rest) :
    beginsChain (marks.map (Lexeme.of ·.1)) (marks.map Prod.snd) front.length
      = some (mark.1.kind == .ident && !mark.2 && !front.getLast?.any (·.1.kind == .dot)) := by
  obtain ⟨hmark, hflag⟩ := getElem?_of_eq_append hmarks 0
  rw [Nat.add_zero, List.getElem?_cons_zero, Option.map_some] at hmark hflag
  have hkind : (Lexeme.of mark.1).kind = mark.1.kind := rfl
  simp only [beginsChain, hmark, hflag, Option.bind_eq_bind, Option.bind_some, hkind]
  by_cases hident : mark.1.kind = .ident
  · rw [if_pos hident, hident]
    cases mark.2 with
    | true => rfl
    | false =>
      rcases List.eq_nil_or_concat front with rfl | ⟨before, last, rfl⟩
      · rfl
      · rw [List.concat_eq_append] at hmarks ⊢
        have hlast : marks[before.length]? = some last := by rw [hmarks]; simp
        rw [if_neg Bool.false_ne_true, if_neg (by simp), List.length_append, List.length_singleton,
          subtract_of_le (Nat.le_add_left _ _), Nat.add_sub_cancel, List.getLast?_concat,
          Option.bind_some, List.getElem?_map, hlast]
        rfl
  · rw [if_neg hident]
    simp [hident]

/-- Behind a chain the token before is no dot. -/
theorem any_dot_of_taken {front taken : List (Token × Bool)} {mark : Token × Bool}
    (hmark : mark.1.kind ≠ .dot) (htaken : ∀ last ∈ taken.getLast?, last.1.kind ≠ .dot) :
    (front ++ mark :: taken).getLast?.any (·.1.kind == .dot) = false := by
  rw [List.getLast?_append, List.getLast?_cons]
  cases hlast : taken.getLast? with
  | none => simpa using hmark
  | some last => simpa using htaken last hlast

/-- **The checked chains** are those of the tokens from a place on. -/
theorem chains_eq_chainsFrom (hplaced : ∀ mark ∈ marks, StandsAt text mark.1.start mark.1.text)
    (afterDot : Bool) (rest : List (Token × Bool)) : ∀ front : List (Token × Bool),
      marks = front ++ rest → afterDot = front.getLast?.any (·.1.kind == .dot) →
        chains text (marks.map (Lexeme.of ·.1)) (marks.map Prod.snd) front.length
          = some ((chainsFrom afterDot rest).map Chain.of) := by
  fun_induction chainsFrom afterDot rest with
  | case1 afterDot =>
    intro front hmarks _
    rw [chains, if_neg]
    · rfl
    · rw [List.length_map, hmarks, List.append_nil]
      exact Nat.lt_irrefl _
  | case2 afterDot mark rest hbegins split ih =>
    rintro front hmarks rfl
    have hnext : marks = (front ++ [mark]) ++ rest := by
      rw [hmarks, List.append_assoc, List.singleton_append]
    obtain ⟨taken, hrest, hlast, hsteps⟩ := steps_eq_splitSteps hplaced rest (front ++ [mark]) hnext
    have hdot : mark.1.kind ≠ .dot := by
      simp only [Bool.and_eq_true, beq_iff_eq] at hbegins
      rw [hbegins.1.1]
      decide
    have hbehind : marks = (front ++ mark :: taken) ++ split.2 := by
      rw [hmarks, List.append_assoc, List.cons_append, ← hrest]
    have hfurther := ih (front ++ mark :: taken) hbehind (any_dot_of_taken hdot hlast).symm
    have hplace : StandsAt text mark.1.start mark.1.text := hplaced mark (by rw [hmarks]; simp)
    obtain ⟨hmark, -⟩ := getElem?_of_eq_append hmarks 0
    obtain ⟨hfollowed, -⟩ := getElem?_of_eq_append hbehind 0
    have hlength : (front ++ [mark] ++ taken).length = (front ++ mark :: taken).length := by simp
    rw [List.length_append, List.length_singleton, hlength] at hsteps
    rw [Nat.add_zero, ← List.head?_eq_getElem?] at hmark hfollowed
    rw [chains, if_pos (by rw [List.length_map, hmarks]; simp), beginsChain_eq hmarks, hbegins, hmark,
      hsteps]
    simp only [Option.bind_eq_bind, Option.bind_some, if_true, List.head?_cons, Option.map_some,
      segment_of hplace]
    rw [if_pos (by simp), hfurther, hfollowed, Option.map_map]
    rfl
  | case3 afterDot mark rest hbegins ih =>
    rintro front hmarks rfl
    have hnext : marks = (front ++ [mark]) ++ rest := by
      rw [hmarks, List.append_assoc, List.singleton_append]
    have hfurther := ih (front ++ [mark]) hnext (by rw [List.getLast?_concat]; rfl)
    rw [List.length_append, List.length_singleton] at hfurther
    rw [chains, if_pos (by rw [List.length_map, hmarks]; simp), beginsChain_eq hmarks,
      Bool.eq_false_iff.2 hbegins, hfurther]
    rfl

end Chains

/-! ### The bodies of a text -/

theorem arranged_of_standsAt {text piece : List Char} {start : Nat} (h : StandsAt text start piece) :
    Arranged text (tokensFrom start piece) where
  standsAt _ hmem := standsAt_of_mem_tokensFrom h hmem
  pairwise := pairwise_tokensFrom start piece

/-- **The checked chains of a body** are its traversals. -/
theorem chainsOfBody_eq {text : List Char} {body : Body} (h : StandsAt text body.start body.text) :
    chainsOfBody text body.span
      = some ((Traversal.chains (tokensFrom body.start body.text)).map Chain.of) := by
  have harranged := arranged_of_standsAt h
  have hstop : min body.span.stop (byteLength text) = body.start + byteLength body.text :=
    Nat.min_eq_left h.isBoundary_stop.le
  have hlexemes : (tokensFrom body.start body.text).map Lexeme.of
      = (marked (tokensFrom body.start body.text)).map (Lexeme.of ·.1) := by
    conv_lhs => rw [← map_fst_marked (tokensFrom body.start body.text), List.map_map]
    rfl
  have hplaced : ∀ mark ∈ marked (tokensFrom body.start body.text),
      StandsAt text mark.1.start mark.1.text := by
    intro mark hmark
    refine harranged.standsAt mark.1 ?_
    rw [← map_fst_marked (tokensFrom body.start body.text)]
    exact List.mem_map_of_mem hmark
  have hchains := chains_eq_chainsFrom hplaced false _ [] rfl rfl
  rw [chainsOfBody, hstop, Body.span, tokenize_standsAt h]
  simp only [Option.bind_eq_bind, Option.bind_some]
  rw [setAside_eq_marked harranged, Option.bind_some, hlexemes]
  exact hchains

theorem chainsOfBodies_eq {text : List Char} : ∀ {bodies : List Body},
    (∀ body ∈ bodies, StandsAt text body.start body.text) →
      chainsOfBodies text (bodies.map Body.span) = some ((bodies.flatMap fun body =>
        Traversal.chains (tokensFrom body.start body.text)).map Chain.of)
  | [], _ => rfl
  | body :: rest, h => by
    have hrest : ∀ other ∈ rest, StandsAt text other.start other.text :=
      fun other hother => h other (List.mem_cons_of_mem body hother)
    rw [List.map_cons, chainsOfBodies, chainsOfBody_eq (h body List.mem_cons_self),
      chainsOfBodies_eq hrest, List.flatMap_cons, List.map_append]
    rfl

/-- **The checked candidates** are the traversals of a text. -/
theorem candidates_eq (input : String) :
    candidates input.toList = some ((Traversal.traversals input).map Chain.of) := by
  have hstands : ∀ body ∈ bodies input.toList, StandsAt input.toList body.start body.text :=
    fun body hbody => standsAt_of_mem_bodiesFrom (standsAt_zero input.toList) hbody
  unfold Traversal.traversals
  split
  · next rest htext =>
    have hmarker : ['$', '\x7b'] <+: input.toList := ⟨rest, htext.symm⟩
    rw [candidates, if_pos hmarker, interpolations_utf8 (restAt_zero input.toList)]
    exact chainsOfBodies_eq hstands
  · next hother =>
    have hmarker : ¬ ['$', '\x7b'] <+: input.toList := by
      rintro ⟨rest, hrest⟩
      exact hother rest hrest.symm
    rw [candidates, if_neg hmarker]
    rfl

end ConfigRefs.Checked
