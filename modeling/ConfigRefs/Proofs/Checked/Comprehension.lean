import ConfigRefs.Proofs.Checked.Token
import ConfigRefs.Traversal.Comprehension

/-!
# Checked: comprehensions

The tokens of comprehensions are set aside in a list of flags. For each word `for` behind a bracket a
scan looks for the other parts of the clause and counts the brackets that are open (`scanClause`). With
a check on each position, range and count it sets the flags of the tokens that comprehensions set aside
(`setAside_eq_marked`).
-/

namespace ConfigRefs.Checked

open ConfigRefs.Text ConfigRefs.Token ConfigRefs.Traversal

/-- The positions of the word `in` and of the colon of a clause, once they are found, and the end of
the group that the clause stands in. -/
def scanClause (text : List Char) (position depth : Nat) (keyword colon : Option Nat) :
    List Lexeme → Option (Option Nat × Option Nat × Nat)
  | [] => some (keyword, colon, position)
  | lexeme :: rest =>
    if lexeme.kind.opens then scanClause text (position + 1) (depth + 1) keyword colon rest
    else if lexeme.kind.closes then
      if depth = 0 then some (keyword, colon, position)
      else do
        let depth ← subtract depth 1
        scanClause text (position + 1) depth keyword colon rest
    else if lexeme.kind = .ident ∧ depth = 0 ∧ keyword = none then do
      let word ← lexeme.text text
      scanClause text (position + 1) depth (if word = "in".toList then some position else none) colon
        rest
    else if lexeme.kind = .colon ∧ depth = 0 ∧ keyword ≠ none ∧ colon = none then
      scanClause text (position + 1) depth keyword (some position) rest
    else scanClause text (position + 1) depth keyword colon rest

/-- Whether a comprehension may begin at a position, behind the token before it. -/
def opensBefore (lexemes : List Lexeme) (position : Nat) : Option Bool :=
  if position = 0 then some false
  else do
    let before ← subtract position 1
    let previous ← lexemes[before]?
    some (previous.kind == .openBracket || previous.kind == .openBrace)

/-- Whether a lexeme is a given word. Only that of a name is cut out of the text. -/
def Lexeme.isWord (text : List Char) (word : String) (lexeme : Lexeme) : Option Bool :=
  if lexeme.kind = .ident then do
    let written ← lexeme.text text
    some (written == word.toList)
  else some false

/-- The flags after the comprehension whose word `for` stands at a position, if it is one. -/
def setAsideClause (text : List Char) (lexemes : List Lexeme) (position : Nat) (flags : List Bool) :
    Option (List Bool) := do
  let behind ← listBetween lexemes (position + 1) lexemes.length
  let found ← scanClause text (position + 1) 0 none none behind
  match found with
  | (some keyword, some colon, close) => do
    let first ← lexemes[keyword]?
    let second ← lexemes[colon]?
    -- the collection is written to the log
    let _ ← textBetween text first.stop second.start
    let flags ← fill flags position (keyword + 1)
    fill flags colon close
  | _ => some flags

/-- The flags after the token at a position. -/
def setAsideAt (text : List Char) (lexemes : List Lexeme) (position : Nat) (lexeme : Lexeme)
    (flags : List Bool) : Option (List Bool) := do
  let opens ← opensBefore lexemes position
  if opens then do
    let begins ← lexeme.isWord text "for"
    if begins then setAsideClause text lexemes position flags else some flags
  else some flags

/-- The flags after all tokens from a position on. -/
def setAsideLoop (text : List Char) (lexemes : List Lexeme) (position : Nat) (flags : List Bool) :
    List Lexeme → Option (List Bool)
  | [] => some flags
  | lexeme :: rest => do
    let flags ← setAsideAt text lexemes position lexeme flags
    setAsideLoop text lexemes (position + 1) flags rest

/-- For each token, whether it is set aside. -/
def setAside (text : List Char) (lexemes : List Lexeme) : Option (List Bool) :=
  setAsideLoop text lexemes 0 (List.replicate lexemes.length false) lexemes

/-! ### The scan of a clause -/

/-- Whether a token of a group is the word `in` outside of all brackets. -/
def isKeyword (mark : Token × Nat) : Bool := mark.2 == 0 && mark.1.isWord "in"

/-- Whether a token of a group is a colon outside of all brackets. -/
def isColon (mark : Token × Nat) : Bool := mark.2 == 0 && mark.1.kind == .colon

/-- The parts of a clause among the tokens of a group, the first one being at a position. -/
def locate (position : Nat) (keyword colon : Option Nat) :
    List (Token × Nat) → Option Nat × Option Nat × Nat
  | [] => (keyword, colon, position)
  | mark :: rest =>
    if isKeyword mark = true ∧ keyword = none then locate (position + 1) (some position) colon rest
    else if isColon mark = true ∧ keyword ≠ none ∧ colon = none then
      locate (position + 1) keyword (some position) rest
    else locate (position + 1) keyword colon rest

theorem text_of {text : List Char} {token : Token} (h : StandsAt text token.start token.text) :
    (Lexeme.of token).text text = some token.text := textBetween_standsAt h

/-- Brackets are neither. -/
theorem locate_bracket {token : Token} (h : token.kind.opens = true ∨ token.kind.closes = true)
    (depth position : Nat) (keyword colon : Option Nat) (rest : List (Token × Nat)) :
    locate position keyword colon ((token, depth) :: rest)
      = locate (position + 1) keyword colon rest := by
  have hkeyword : ¬ isKeyword (token, depth) = true := by
    rintro hword
    simp only [isKeyword, isWord, Bool.and_eq_true, beq_iff_eq] at hword
    simp [hword.2.1, Kind.opens, Kind.closes] at h
  have hcolon : ¬ isColon (token, depth) = true := by
    rintro hcolon
    simp only [isColon, Bool.and_eq_true, beq_iff_eq] at hcolon
    simp [hcolon.2, Kind.opens, Kind.closes] at h
  rw [locate, if_neg fun hand => hkeyword hand.1, if_neg fun hand => hcolon hand.1]

/-- **The checked scan** finds the parts of a clause in the group of its tokens. -/
theorem scanClause_eq_locate {text : List Char} : ∀ {tokens : List Token} {position depth : Nat}
    (keyword colon : Option Nat), (∀ token ∈ tokens, StandsAt text token.start token.text) →
      scanClause text position depth keyword colon (tokens.map Lexeme.of)
        = some (locate position keyword colon (group depth tokens))
  | [], position, depth, keyword, colon, _ => by
    rw [group]
    rfl
  | token :: rest, position, depth, keyword, colon, h => by
    have hrest : ∀ other ∈ rest, StandsAt text other.start other.text :=
      fun other hother => h other (List.mem_cons_of_mem token hother)
    have hkind : (Lexeme.of token).kind = token.kind := rfl
    rw [List.map_cons, scanClause, hkind, group.eq_def]
    simp only
    by_cases hopens : token.kind.opens = true
    · rw [if_pos hopens, if_pos hopens, locate_bracket (Or.inl hopens),
        scanClause_eq_locate keyword colon hrest]
    rw [if_neg hopens, if_neg hopens]
    by_cases hcloses : token.kind.closes = true
    · rw [if_pos hcloses, if_pos hcloses]
      cases depth with
      | zero => rfl
      | succ depth =>
        rw [if_neg (Nat.succ_ne_zero depth), locate_bracket (Or.inr hcloses),
          subtract_of_le (Nat.succ_le_succ (Nat.zero_le depth))]
        exact scanClause_eq_locate keyword colon hrest
    rw [if_neg hcloses, if_neg hcloses, text_of (h token List.mem_cons_self), locate]
    by_cases hname : token.kind = .ident ∧ depth = 0 ∧ keyword = none
    · obtain ⟨hident, rfl, rfl⟩ := hname
      have hcolon : ¬ isColon (token, 0) = true := by simp [isColon, hident]
      rw [if_pos ⟨hident, rfl, rfl⟩]
      simp only [Option.bind_eq_bind, Option.bind_some]
      rw [scanClause_eq_locate _ colon hrest]
      by_cases hin : token.text = "in".toList
      · rw [if_pos hin, if_pos ⟨by simp [isKeyword, isWord, hident, hin], trivial⟩]
      · rw [if_neg hin, if_neg fun hand => hin (by simpa [isKeyword, isWord, hident] using hand.1),
          if_neg fun hand => hcolon hand.1]
    have hkeyword : ¬ (isKeyword (token, depth) = true ∧ keyword = none) := by
      rintro ⟨hword, hnone⟩
      simp only [isKeyword, isWord, Bool.and_eq_true, beq_iff_eq] at hword
      exact hname ⟨hword.2.1, hword.1, hnone⟩
    rw [if_neg hname, if_neg hkeyword]
    by_cases hcolon : token.kind = .colon ∧ depth = 0 ∧ keyword ≠ none ∧ colon = none
    · obtain ⟨hkind, rfl, hnext⟩ := hcolon
      rw [if_pos ⟨hkind, rfl, hnext⟩, if_pos ⟨by simp [isColon, hkind], hnext⟩,
        scanClause_eq_locate keyword (some position) hrest]
    · rw [if_neg hcolon, if_neg, scanClause_eq_locate keyword colon hrest]
      rintro ⟨hmark, hnext⟩
      simp only [isColon, Bool.and_eq_true, beq_iff_eq] at hmark
      exact hcolon ⟨hmark.2, hmark.1, hnext⟩

/-! ### What the scan finds -/

theorem locate_found (keyword colon : Nat) : ∀ (marks : List (Token × Nat)) (position : Nat),
    locate position (some keyword) (some colon) marks
      = (some keyword, some colon, position + marks.length)
  | [], position => rfl
  | mark :: rest, position => by
    rw [locate, if_neg (by simp), if_neg (by simp), locate_found keyword colon rest,
      List.length_cons, Nat.add_right_comm, Nat.add_assoc]

theorem locate_keyword (keyword : Nat) : ∀ (marks : List (Token × Nat)) (position : Nat),
    locate position (some keyword) none marks
      = (some keyword, (marks.findIdx? isColon).map (position + ·), position + marks.length)
  | [], position => rfl
  | mark :: rest, position => by
    rw [locate, if_neg (by simp), List.findIdx?_cons, List.length_cons]
    by_cases hcolon : isColon mark = true
    · rw [if_pos ⟨hcolon, by simp, rfl⟩, if_pos hcolon, locate_found]
      simp [Nat.add_comm, Nat.add_left_comm]
    · rw [if_neg fun hand => hcolon hand.1, if_neg hcolon, locate_keyword keyword rest]
      simp [Function.comp_def, Nat.add_comm, Nat.add_left_comm]

/-- **The parts of a clause** are the first ones of their kinds. -/
theorem locate_eq : ∀ (marks : List (Token × Nat)) (position : Nat),
    locate position none none marks
      = ((marks.findIdx? isKeyword).map (position + ·),
          (marks.findIdx? isKeyword).bind fun keyword =>
            ((marks.drop (keyword + 1)).findIdx? isColon).map (position + (keyword + 1) + ·),
          position + marks.length)
  | [], position => rfl
  | mark :: rest, position => by
    rw [locate, List.findIdx?_cons, List.length_cons]
    by_cases hkeyword : isKeyword mark = true
    · rw [if_pos ⟨hkeyword, rfl⟩, if_pos hkeyword, locate_keyword]
      simp [Nat.add_comm, Nat.add_left_comm]
    · rw [if_neg fun hand => hkeyword hand.1, if_neg (by simp), if_neg hkeyword, locate_eq rest]
      cases rest.findIdx? isKeyword with
      | none => simp [Nat.add_comm, Nat.add_left_comm]
      | some keyword => simp [Nat.add_comm, Nat.add_left_comm]

/-! ### Flags -/

/-- The flags that intervals of positions set. -/
def covered (length : Nat) (intervals : List Interval) : List Bool :=
  (List.range length).map fun position =>
    intervals.any fun (first, stop) => first ≤ position && position < stop

theorem length_covered (length : Nat) (intervals : List Interval) :
    (covered length intervals).length = length := by
  rw [covered, List.length_map, List.length_range]

theorem covered_nil (length : Nat) : covered length [] = List.replicate length false := by
  simp [covered, List.map_const']

theorem fill_covered {length start stop : Nat} (intervals : List Interval) (hle : start ≤ stop)
    (hstop : stop ≤ length) : fill (covered length intervals) start stop
      = some (covered length (intervals ++ [(start, stop)])) := by
  rw [fill, if_pos ⟨hle, by rwa [length_covered]⟩]
  congr 1
  apply List.ext_getElem
  · rw [List.length_mapIdx, length_covered, length_covered]
  · intro position hposition hposition'
    simp [covered]

theorem map_snd_marked (tokens : List Token) :
    (marked tokens).map Prod.snd = covered tokens.length (setAsideFrom 0 none tokens) := by
  rw [marked, covered, List.map_map, List.range_eq_range', ← List.zipIdx_map_snd 0 tokens,
    List.map_map]
  rfl

/-- The intervals that the clause behind the word `for` at a position sets aside, if it is one. -/
def clauseIntervals (position : Nat) (rest : List Token) : List Interval :=
  match clause? rest with
  | some clause =>
    [(position, position + clause.keyword + 2),
      (position + 1 + clause.colon, position + 1 + clause.close)]
  | none => []

theorem clause?_eq (tokens : List Token) : clause? tokens
    = ((group 0 tokens).findIdx? isKeyword).bind fun keyword =>
        (((group 0 tokens).drop (keyword + 1)).findIdx? isColon).map fun colon =>
          ⟨keyword, keyword + 1 + colon, (group 0 tokens).length⟩ := by
  simp only [clause?, Option.map_eq_bind, Option.bind_eq_bind]
  rfl

theorem length_group_le (depth : Nat) (tokens : List Token) :
    (group depth tokens).length ≤ tokens.length := by
  fun_induction group depth tokens with
  | case1 => exact Nat.le_refl _
  | case2 depth token rest _ ih => exact Nat.succ_le_succ ih
  | case3 token rest => exact Nat.zero_le _
  | case4 token rest _ _ depth ih => exact Nat.succ_le_succ ih
  | case5 depth token rest _ _ ih => exact Nat.succ_le_succ ih

/-- Tokens that stand in a text one behind the other. -/
structure Arranged (text : List Char) (tokens : List Token) : Prop where
  standsAt : ∀ token ∈ tokens, StandsAt text token.start token.text
  pairwise : tokens.Pairwise fun a b => a.stop ≤ b.start

theorem Arranged.textBetween {text : List Char} {tokens : List Token} (h : Arranged text tokens)
    {i j : Nat} (hij : i < j) (hj : j < tokens.length) :
    ∃ piece, Checked.textBetween text tokens[i].stop tokens[j].start = some piece := by
  have hle : tokens[i].stop ≤ tokens[j].start := List.pairwise_iff_getElem.1 h.pairwise i j _ hj hij
  have hfirst := h.standsAt _ (List.getElem_mem (by omega : i < tokens.length))
  have hsecond := h.standsAt _ (List.getElem_mem hj)
  exact ⟨_, textBetween_eq_slice hle hfirst.isBoundary_stop hsecond.isBoundary_start⟩

section Loop

variable {text : List Char} {tokens front rest : List Token} {token : Token}

/-- **The flags of one comprehension** are set inside the list, and the collection is cut out of the
text. -/
theorem setAsideClause_eq (h : Arranged text tokens) (htokens : tokens = front ++ token :: rest)
    (intervals : List Interval) :
    setAsideClause text (tokens.map Lexeme.of) front.length (covered tokens.length intervals)
      = some (covered tokens.length (intervals ++ clauseIntervals front.length rest)) := by
  have hlength : tokens.length = front.length + 1 + rest.length := by
    rw [htokens, List.length_append, List.length_cons]
    omega
  have hrest : ∀ other ∈ rest, StandsAt text other.start other.text := by
    intro other hother
    refine h.standsAt other ?_
    rw [htokens]
    exact List.mem_append_right front (List.mem_cons_of_mem token hother)
  have hbehind : listBetween (tokens.map Lexeme.of) (front.length + 1) (tokens.map Lexeme.of).length
      = some (rest.map Lexeme.of) := by
    rw [listBetween_length (by rw [List.length_map]; omega), ← List.map_drop, htokens]
    congr 2
    rw [← List.singleton_append, ← List.append_assoc]
    exact List.drop_left' (by simp)
  have hgroup := length_group_le 0 rest
  unfold setAsideClause clauseIntervals
  rw [clause?_eq]
  simp only [Option.bind_eq_bind]
  rw [hbehind, Option.bind_some, scanClause_eq_locate none none hrest, locate_eq, Option.bind_some]
  cases hkeyword : (group 0 rest).findIdx? isKeyword with
  | none => simp
  | some keyword =>
    rw [Option.map_some, Option.bind_some, Option.bind_some]
    cases hcolon : ((group 0 rest).drop (keyword + 1)).findIdx? isColon with
    | none => simp
    | some colon =>
      obtain ⟨hcolonlt, -⟩ := List.findIdx?_eq_some_iff_getElem.1 hcolon
      rw [List.length_drop] at hcolonlt
      have hfirst : front.length + 1 + keyword < tokens.length := by omega
      have hsecond : front.length + 1 + (keyword + 1) + colon < tokens.length := by omega
      have hlt : front.length + 1 + keyword < front.length + 1 + (keyword + 1) + colon := by omega
      obtain ⟨piece, hpiece⟩ := h.textBetween hlt hsecond
      simp only [Option.map_some]
      rw [List.getElem?_map, List.getElem?_map, List.getElem?_eq_getElem hfirst,
        List.getElem?_eq_getElem hsecond, Option.map_some, Option.map_some, Option.bind_some,
        Option.bind_some]
      simp only [Lexeme.of]
      rw [hpiece, Option.bind_some, fill_covered _ (by omega) (by omega), Option.bind_some,
        fill_covered _ (by omega) (by omega), List.append_assoc]
      have hkeywordstop : front.length + 1 + keyword + 1 = front.length + keyword + 2 := by omega
      have hcolonstart : front.length + 1 + (keyword + 1) + colon
          = front.length + 1 + (keyword + 1 + colon) := by omega
      rw [hkeywordstop, hcolonstart]
      rfl

/-- The token before a place in a list. -/
theorem opensBefore_eq (htokens : tokens = front ++ rest) :
    opensBefore (tokens.map Lexeme.of) front.length
      = some (front.getLast?.any opensComprehension) := by
  rcases List.eq_nil_or_concat front with rfl | ⟨before, last, rfl⟩
  · rfl
  · rw [List.concat_eq_append] at htokens ⊢
    have hlast : tokens[before.length]? = some last := by rw [htokens]; simp
    rw [opensBefore, if_neg (by simp), List.length_append, List.length_singleton,
      subtract_of_le (Nat.le_add_left _ _), Nat.add_sub_cancel, List.getLast?_concat]
    simp only [Option.bind_eq_bind, Option.bind_some, List.getElem?_map, hlast, Option.map_some]
    rfl

theorem isWord_of (word : String) (h : StandsAt text token.start token.text) :
    (Lexeme.of token).isWord text word = some (token.isWord word) := by
  have hkind : (Lexeme.of token).kind = token.kind := rfl
  rw [Lexeme.isWord, Token.isWord, hkind]
  by_cases hident : token.kind = .ident
  · rw [if_pos hident, text_of h, hident]
    rfl
  · rw [if_neg hident]
    simp [hident]

/-- **One round of the loop** sets the flags of the token's comprehension. -/
theorem setAsideAt_eq (h : Arranged text tokens) (htokens : tokens = front ++ token :: rest)
    (intervals : List Interval) :
    setAsideAt text (tokens.map Lexeme.of) front.length (Lexeme.of token)
        (covered tokens.length intervals)
      = some (covered tokens.length (intervals ++
          if front.getLast?.any opensComprehension && token.isWord "for" then
            clauseIntervals front.length rest
          else [])) := by
  have htoken : StandsAt text token.start token.text := by
    refine h.standsAt token ?_
    rw [htokens]
    exact List.mem_append_right front List.mem_cons_self
  unfold setAsideAt
  rw [opensBefore_eq htokens, isWord_of "for" htoken]
  simp only [Option.bind_eq_bind, Option.bind_some]
  cases front.getLast?.any opensComprehension with
  | false => simp
  | true =>
    cases token.isWord "for" with
    | false => simp
    | true => simpa using setAsideClause_eq h htokens intervals

theorem setAsideLoop_eq (h : Arranged text tokens) : ∀ (rest front : List Token)
    (intervals : List Interval), tokens = front ++ rest →
      setAsideLoop text (tokens.map Lexeme.of) front.length (covered tokens.length intervals)
          (rest.map Lexeme.of)
        = some (covered tokens.length
            (intervals ++ setAsideFrom front.length front.getLast? rest))
  | [], front, intervals, htokens => by
    rw [List.map_nil, setAsideLoop, setAsideFrom, List.append_nil]
  | token :: rest, front, intervals, htokens => by
    have hnext : tokens = (front ++ [token]) ++ rest := by
      rw [htokens, List.append_assoc, List.singleton_append]
    have ih := setAsideLoop_eq h rest (front ++ [token]) (intervals ++
      if front.getLast?.any opensComprehension && token.isWord "for" then
        clauseIntervals front.length rest
      else []) hnext
    rw [List.length_append, List.length_singleton, List.getLast?_concat] at ih
    rw [List.map_cons, setAsideLoop, setAsideAt_eq h htokens]
    simp only [Option.bind_eq_bind, Option.bind_some]
    rw [ih, setAsideFrom, List.append_assoc]
    rfl

/-- **The checked flags** are those of the tokens that comprehensions set aside. -/
theorem setAside_eq_marked (h : Arranged text tokens) :
    setAside text (tokens.map Lexeme.of) = some ((marked tokens).map Prod.snd) := by
  have hloop : setAsideLoop text (tokens.map Lexeme.of) 0 (covered tokens.length [])
      (tokens.map Lexeme.of) = some (covered tokens.length ([] ++ setAsideFrom 0 none tokens)) :=
    setAsideLoop_eq h tokens [] [] rfl
  rw [covered_nil] at hloop
  rw [setAside, List.length_map, map_snd_marked]
  exact hloop

end Loop

end ConfigRefs.Checked
