import ConfigRefs.Proofs.Traversal.Division
import ConfigRefs.Proofs.Traversal.Name
import ConfigRefs.Proofs.Traversal.Path

/-!
# Traversal: the collection of a comprehension

Of a comprehension only the collection has traversals. Its end is looked for as the first colon outside
of all brackets, and that is the colon of the comprehension unless the collection has such a colon
itself, as a conditional does. The traversals that are found are those of the tokens before it
(`traversals_comprehension`).
-/

namespace ConfigRefs.Traversal

open ConfigRefs.Text ConfigRefs.Token ConfigRefs.Interpolation
open ConfigRefs.Checked (isKeyword isColon clauseIntervals clause?_eq)

/-! ### Comprehensions -/

theorem findIdx?_append_cons {α : Type} {p : α → Bool} {front : List α} {item : α}
    (hfront : ∀ other ∈ front, p other = false) (hitem : p item = true) (back : List α) :
    (front ++ item :: back).findIdx? p = some front.length := by
  rw [List.findIdx?_append, List.findIdx?_eq_none_iff.2 hfront, List.findIdx?_cons, if_pos hitem]
  simp

/-- A comprehension: `for`, variables, `in`, a collection, a colon and a result, between two
brackets. -/
structure Comprehension where
  opening : Token
  word : Token
  binders : List Token
  keyword : Token
  collection : List Token
  colon : Token
  result : List Token
  closing : Token
  opens : opensComprehension opening = true
  isWord_for : word.isWord "for" = true
  isBinder : ∀ token ∈ binders,
    token.kind = .ident ∧ token.isWord "in" = false ∨ token.kind = .comma
  isWord_in : keyword.isWord "in" = true
  balanced_collection : Balanced collection
  kind_colon : colon.kind = .colon
  balanced_result : Balanced result
  closes : closing.kind.closes = true

namespace Comprehension

variable (c : Comprehension)

/-- The tokens behind the colon. -/
def behind : List Token := c.result ++ [c.closing]

/-- The tokens behind the word `for`. -/
def clauseTokens : List Token :=
  c.binders ++ c.keyword :: (c.collection ++ c.colon :: c.behind)

/-- All tokens of a comprehension. -/
def tokens : List Token := c.opening :: c.word :: c.clauseTokens

theorem kind_keyword : c.keyword.kind = .ident := kind_of_isWord c.isWord_in

theorem kind_word : c.word.kind = .ident := kind_of_isWord c.isWord_for

theorem noBracket_keyword : NoBracket c.keyword := noBracket_of_kind c.kind_keyword ⟨rfl, rfl⟩

theorem noBracket_colon : NoBracket c.colon := noBracket_of_kind c.kind_colon ⟨rfl, rfl⟩

theorem kind_binder {token : Token} (h : token ∈ c.binders) :
    token.kind = .ident ∨ token.kind = .comma := (c.isBinder token h).imp And.left id

theorem balanced_binders : Balanced c.binders := by
  refine Balanced.of_noBracket fun token hmem => ?_
  rcases c.kind_binder hmem with hkind | hkind
  · exact noBracket_of_kind hkind ⟨rfl, rfl⟩
  · exact noBracket_of_kind hkind ⟨rfl, rfl⟩

theorem bracketed : Bracketed c.tokens := by
  refine ⟨c.opening, c.word :: (c.binders ++ c.keyword :: (c.collection ++ c.colon :: c.result)),
    c.closing, by simp [tokens, clauseTokens, behind], kind_opens_of_opensComprehension c.opens, ?_,
    c.closes⟩
  exact Balanced.cons (noBracket_of_kind c.kind_word ⟨rfl, rfl⟩)
    (c.balanced_binders.append (Balanced.cons c.noBracket_keyword
      (c.balanced_collection.append (Balanced.cons c.noBracket_colon c.balanced_result))))

/-- The group of the clause ends with the result. -/
theorem group_clauseTokens : group 0 c.clauseTokens = group 0 c.binders
    ++ (c.keyword, 0) :: (group 0 c.collection ++ (c.colon, 0) :: group 0 c.result) := by
  have hcloses : depthBehind? 0 c.closing = none := depthBehind?_closes c.closes 0
  have hbehind : group 0 c.behind = group 0 c.result := by
    rw [behind, group_append c.balanced_result, group_cons, hcloses, List.append_nil]
  rw [clauseTokens, group_append c.balanced_binders, group_cons,
    depthBehind?_noBracket c.noBracket_keyword]
  simp only
  rw [group_append c.balanced_collection, group_cons, depthBehind?_noBracket c.noBracket_colon]
  simp only
  rw [hbehind, Nat.min_self]

theorem isKeyword_of_mem_binders {mark : Token × Nat} (h : mark ∈ group 0 c.binders) :
    isKeyword mark = false := by
  have hmem : mark.1 ∈ c.binders := by
    rw [← map_fst_group c.balanced_binders]
    exact List.mem_map_of_mem h
  have hword : mark.1.isWord "in" = false := by
    rcases c.isBinder mark.1 hmem with ⟨-, hword⟩ | hcomma
    · exact hword
    · rw [Token.isWord, hcomma]
      rfl
  rw [isKeyword, hword, Bool.and_false]

/-- The word `in` and the colon are found where they stand. -/
theorem clause?_clauseTokens (h : NoColon c.collection) :
    clause? c.clauseTokens = some ⟨c.binders.length, c.binders.length + 1 + c.collection.length,
      c.binders.length + 1 + c.collection.length + 1 + c.result.length⟩ := by
  have hin : isKeyword (c.keyword, 0) = true := by
    rw [isKeyword, c.isWord_in]
    rfl
  have hcolon : isColon (c.colon, 0) = true := by
    rw [isColon, c.kind_colon]
    rfl
  have hbinders := length_group c.balanced_binders
  have hkeyword : (group 0 c.clauseTokens).findIdx? isKeyword = some c.binders.length := by
    rw [group_clauseTokens, ← hbinders]
    exact findIdx?_append_cons (fun mark => c.isKeyword_of_mem_binders) hin _
  have hbehind : (group 0 c.clauseTokens).drop (c.binders.length + 1)
      = group 0 c.collection ++ (c.colon, 0) :: group 0 c.result := by
    rw [group_clauseTokens, ← hbinders, List.drop_append, List.drop_eq_nil_of_le (Nat.le_succ _),
      Nat.add_sub_cancel_left]
    rfl
  have hlength : (group 0 c.clauseTokens).length
      = c.binders.length + 1 + c.collection.length + 1 + c.result.length := by
    rw [group_clauseTokens, List.length_append, List.length_cons, List.length_append,
      List.length_cons, hbinders, length_group c.balanced_collection, length_group c.balanced_result]
    omega
  rw [clause?_eq, hkeyword, Option.bind_some, hbehind, findIdx?_append_cons h hcolon,
    Option.map_some, hlength, length_group c.balanced_collection]

/-- What is set aside are the tokens up to the word `in` and those from the colon on, and what the
comprehensions of the collection set aside. -/
theorem exists_setAsideFrom_tokens (h : NoColon c.collection) : ∃ intervals,
    setAsideFrom 0 none c.tokens = (1, c.binders.length + 3)
        :: (c.binders.length + 3 + c.collection.length,
            c.binders.length + 3 + c.collection.length + 1 + c.result.length)
        :: (setAsideFrom (c.binders.length + 3) none c.collection ++ intervals) ∧
      ∀ place, place < c.binders.length + 3 + c.collection.length → hold intervals place = false := by
  have hopening := isWord_of_opens (kind_opens_of_opensComprehension c.opens) "for"
  have hword : (some c.word).any opensComprehension = false := by
    simp [opensComprehension, c.kind_word]
  have hfront : Balanced (c.binders ++ [c.keyword]) :=
    c.balanced_binders.append (Balanced.cons c.noBracket_keyword rfl)
  have hplain : ∀ token ∈ c.binders ++ [c.keyword], opensComprehension token = false := by
    intro token hmem
    rw [List.mem_append, List.mem_singleton] at hmem
    rcases hmem with hmem | rfl
    · rcases c.kind_binder hmem with hkind | hkind <;> simp [opensComprehension, hkind]
    · simp [opensComprehension, c.kind_keyword]
  have hlast : ((c.binders ++ [c.keyword]).getLast?.or (some c.word)).any opensComprehension
      = false := by
    rw [List.getLast?_concat]
    simp [opensComprehension, c.kind_keyword]
  have hown : clauseIntervals 1 c.clauseTokens = [(1, c.binders.length + 3),
      (c.binders.length + 3 + c.collection.length,
        c.binders.length + 3 + c.collection.length + 1 + c.result.length)] := by
    rw [clauseIntervals, c.clause?_clauseTokens h]
    simp only [List.cons.injEq, Prod.mk.injEq, and_true, true_and]
    omega
  have hrest : ∃ intervals, setAsideFrom 2 (some c.word) c.clauseTokens
        = setAsideFrom (c.binders.length + 3) none c.collection ++ intervals ∧
      ∀ place, place < c.binders.length + 3 + c.collection.length → hold intervals place = false := by
    have hsplit : c.clauseTokens
        = (c.binders ++ [c.keyword]) ++ (c.collection ++ c.colon :: c.behind) := by
      rw [clauseTokens, List.append_assoc, List.singleton_append]
    have hposition : 2 + (c.binders ++ [c.keyword]).length = c.binders.length + 3 := by
      rw [List.length_append, List.length_singleton]
      omega
    rw [hsplit, setAsideFrom_append hfront (fun hopens => absurd hopens (Bool.eq_false_iff.1 hword)),
      setAsideFrom_eq_nil 2 hword hplain, List.nil_append, setAsideFrom_eq_none hlast, hposition,
      setAsideFrom_append c.balanced_collection (fun hnone => by cases hnone)]
    exact ⟨_, rfl, fun place => hold_setAsideFrom_of_lt⟩
  obtain ⟨intervals, hintervals, hfree⟩ := hrest
  refine ⟨intervals, ?_, hfree⟩
  have hopens : (some c.opening).any opensComprehension = true := c.opens
  rw [tokens, setAsideFrom_cons_of_not hopening, setAsideFrom_cons, hopens, c.isWord_for,
    Bool.and_self, if_pos rfl]
  exact congrArg₂ (· ++ ·) hown hintervals

/-- **The marks of a comprehension**: outside of the collection all names are set aside. -/
theorem exists_marked_tokens (h : NoColon c.collection) : ∃ before behind,
    NoNames before ∧ NoNames behind ∧ marked c.tokens
      = before ++ (c.keyword, true) :: (marked c.collection ++ (c.colon, true) :: behind) := by
  obtain ⟨intervals, hintervals, hfree⟩ := c.exists_setAsideFrom_tokens h
  rw [marked_eq]
  generalize hall : setAsideFrom 0 none c.tokens = all at hintervals ⊢
  have hfront : ∀ place, 1 ≤ place → place < c.binders.length + 3 → hold all place = true := by
    intro place hle hlt
    rw [hintervals, hold_cons, decide_eq_true hle, decide_eq_true hlt]
    rfl
  have hback : ∀ place, c.binders.length + 3 + c.collection.length ≤ place →
      place < c.binders.length + 3 + c.collection.length + 1 + c.result.length →
        hold all place = true := by
    intro place hle hlt
    rw [hintervals, hold_cons, hold_cons, decide_eq_true hle, decide_eq_true hlt, Bool.and_self,
      Bool.true_or, Bool.or_true]
  have hcollection : markedBy all (c.binders.length + 3) c.collection = marked c.collection := by
    rw [← markedBy_setAsideFrom (c.binders.length + 3) c.collection]
    refine markedBy_congr fun place hle hlt => ?_
    rw [hintervals, hold_cons, hold_cons, hold_append, hfree place hlt,
      decide_eq_false (by omega : ¬ place < c.binders.length + 3),
      decide_eq_false (by omega : ¬ c.binders.length + 3 + c.collection.length ≤ place),
      Bool.and_false, Bool.false_and, Bool.false_or, Bool.false_or, Bool.or_false]
  have hnames : ∀ {position : Nat} {tokens : List Token}, (∀ place, position ≤ place →
      place < position + tokens.length → hold all place = true) →
        NoNames (markedBy all position tokens) := by
    intro position tokens hhold mark hmark _
    rw [markedBy_eq_map hhold] at hmark
    obtain ⟨token, -, rfl⟩ := List.mem_map.1 hmark
    rfl
  have hmarked : markedBy all 0 c.tokens = ((c.opening, hold all 0)
      :: markedBy all 1 (c.word :: c.binders)) ++ (c.keyword, hold all (c.binders.length + 2))
      :: (markedBy all (c.binders.length + 3) c.collection
        ++ (c.colon, hold all (c.binders.length + 3 + c.collection.length))
        :: (markedBy all (c.binders.length + 3 + c.collection.length + 1) c.result
          ++ markedBy all (c.binders.length + 3 + c.collection.length + 1 + c.result.length)
            [c.closing])) := by
    have hlength : 0 + 1 + (c.word :: c.binders).length = c.binders.length + 2 := by
      rw [List.length_cons]
      omega
    rw [tokens, clauseTokens, behind, markedBy_cons, ← List.cons_append, markedBy_append, hlength,
      markedBy_cons all _ c.keyword, markedBy_append, markedBy_cons all _ c.colon, markedBy_append]
    rfl
  have hkeyword : hold all (c.binders.length + 2) = true := hfront _ (by omega) (by omega)
  have hcolon : hold all (c.binders.length + 3 + c.collection.length) = true :=
    hback _ (Nat.le_refl _) (by omega)
  rw [hmarked, hcollection, hkeyword, hcolon]
  refine ⟨_, _, ?_, ?_, rfl⟩
  · -- the bracket is no name
    intro mark hmem hident
    rcases List.mem_cons.1 hmem with rfl | hmem
    · have hopens := kind_opens_of_opensComprehension c.opens
      rw [hident] at hopens
      cases hopens
    · refine hnames (fun place hle hlt => ?_) mark hmem hident
      rw [List.length_cons] at hlt
      exact hfront place hle (by omega)
  · intro mark hmem hident
    rcases List.mem_append.1 hmem with hmem | hmem
    · exact hnames (fun place hle hlt => hback place (by omega) (by omega)) mark hmem hident
    · obtain rfl := List.mem_singleton.1 hmem
      have hcloses := c.closes
      rw [hident] at hcloses
      cases hcloses

/-- **A comprehension has the traversals of its collection**, if that has no colon. -/
theorem map_segments_chains_tokens (h : NoColon c.collection) :
    (chainsFrom false (marked c.tokens)).map segments = (chains c.collection).map segments := by
  obtain ⟨before, behind, hbefore, hbehind, hmarked⟩ := c.exists_marked_tokens h
  have hcolon : (c.colon, true).1.kind ≠ .dot := by
    rw [c.kind_colon]
    decide
  have hkeyword : (c.keyword, true).1.kind ≠ .dot := by
    rw [c.kind_keyword]
    decide
  rw [hmarked, map_segments_chainsFrom_append hkeyword (Bool.and_false _),
    map_segments_chainsFrom_append hcolon (Bool.and_false _), hbefore.chainsFrom_eq_nil,
    hbehind.chainsFrom_eq_nil, List.map_nil, List.nil_append, List.append_nil, chains]

/-- The same tokens are a comprehension whose collection ends at its first colon. -/
theorem exists_noColon : ∃ shorter : Comprehension, shorter.tokens = c.tokens ∧
    shorter.opening = c.opening ∧ shorter.closing = c.closing ∧
      shorter.collection = beforeColon c.collection ∧ NoColon shorter.collection := by
  by_cases hnone : NoColon c.collection
  · exact ⟨c, rfl, rfl, rfl, (beforeColon_of_noColon c.balanced_collection hnone).1.symm, hnone⟩
  · obtain ⟨colon, hkind, hcollection, hbefore, hbehind, hfree⟩ :=
      exists_eq_beforeColon_append c.balanced_collection hnone
    have hresult : Balanced (behindColon c.collection ++ c.colon :: c.result) :=
      hbehind.append (c.balanced_result.cons c.noBracket_colon)
    refine ⟨{ c with
        collection := beforeColon c.collection
        colon := colon
        result := behindColon c.collection ++ c.colon :: c.result
        balanced_collection := hbefore
        kind_colon := hkind
        balanced_result := hresult }, ?_, rfl, rfl, rfl, hfree⟩
    simp only [tokens, clauseTokens, behind]
    conv_rhs => rw [hcollection]
    simp only [List.append_assoc, List.cons_append]

/-- **A comprehension has the traversals of its collection up to the first colon.** -/
theorem map_segments_chains_marked : (chainsFrom false (marked c.tokens)).map segments
    = (chains (beforeColon c.collection)).map segments := by
  obtain ⟨shorter, htokens, -, -, hcollection, hfree⟩ := c.exists_noColon
  rw [← htokens, shorter.map_segments_chains_tokens hfree, hcollection]

end Comprehension

/-! ### The traversals of a text -/

/-- The traversals that begin between two byte offsets. -/
def beginningBetween (start stop : Nat) (traversals : List Traversal) : List Traversal :=
  traversals.filter fun traversal =>
    start ≤ traversal.head.start && traversal.head.start < stop

/-- Traversals begin with some of the tokens. -/
def BeginAmong (tokens : List Token) (traversals : List Traversal) : Prop :=
  ∀ traversal ∈ traversals, ∃ token ∈ tokens, traversal.head = segmentOf token

theorem beginAmong_chainsFrom (afterDot : Bool) (marks : List (Token × Bool)) :
    BeginAmong (marks.map Prod.fst) (chainsFrom afterDot marks) := by
  intro traversal hmem
  obtain ⟨mark, hmark, hhead, -⟩ := exists_mark_of_mem_chainsFrom hmem List.mem_cons_self
  exact ⟨mark.1, List.mem_map_of_mem hmark, hhead⟩

theorem beginAmong_chains (tokens : List Token) : BeginAmong tokens (chains tokens) := by
  have h := beginAmong_chainsFrom false (marked tokens)
  rwa [map_fst_marked] at h

theorem beginAmong_flatMap (bodies : List Body) :
    BeginAmong (bodies.flatMap fun body => tokensFrom body.start body.text)
      (bodies.flatMap fun body => chains (tokensFrom body.start body.text)) := by
  intro traversal hmem
  obtain ⟨body, hbody, hmem⟩ := List.mem_flatMap.1 hmem
  obtain ⟨token, htoken, hhead⟩ := beginAmong_chains _ traversal hmem
  exact ⟨token, List.mem_flatMap.2 ⟨body, hbody, htoken⟩, hhead⟩

theorem BeginAmong.append {front back : List Token} {ahead further : List Traversal}
    (h : BeginAmong front ahead) (h' : BeginAmong back further) :
    BeginAmong (front ++ back) (ahead ++ further) := by
  intro traversal hmem
  rcases List.mem_append.1 hmem with hmem | hmem
  · obtain ⟨token, htoken, hhead⟩ := h traversal hmem
    exact ⟨token, List.mem_append_left back htoken, hhead⟩
  · obtain ⟨token, htoken, hhead⟩ := h' traversal hmem
    exact ⟨token, List.mem_append_right front htoken, hhead⟩

section Between

variable {tokens : List Token} {found : List Traversal} {start stop : Nat}

theorem beginningBetween_eq_nil (h : BeginAmong tokens found)
    (houtside : ∀ token ∈ tokens, token.start < start ∨ stop ≤ token.start) :
    beginningBetween start stop found = [] := by
  refine List.filter_eq_nil_iff.2 fun traversal hmem => ?_
  obtain ⟨token, htoken, hhead⟩ := h traversal hmem
  have := houtside token htoken
  simp only [hhead, segmentOf, Bool.and_eq_true, decide_eq_true_eq]
  omega

theorem beginningBetween_eq_self (h : BeginAmong tokens found)
    (hinside : ∀ token ∈ tokens, start ≤ token.start ∧ token.start < stop) :
    beginningBetween start stop found = found := by
  refine List.filter_eq_self.2 fun traversal hmem => ?_
  obtain ⟨token, htoken, hhead⟩ := h traversal hmem
  simp only [hhead, segmentOf, Bool.and_eq_true, decide_eq_true_eq]
  exact hinside token htoken

end Between

/-- The segments tell where a traversal begins. -/
theorem map_segments_beginningBetween (start stop : Nat) (traversals : List Traversal) :
    (beginningBetween start stop traversals).map segments
      = (traversals.map segments).filter fun segments =>
          segments.head?.any fun segment => start ≤ segment.start && segment.start < stop := by
  rw [List.filter_map, beginningBetween]
  rfl

section Text

variable {input : String} {body : Body} {before after : List Token} {c : Comprehension}

/-- The traversals of a text are those before a comprehension, those in it and those behind it. -/
theorem exists_traversals_eq (hinput : ['$', '\x7b'] <+: input.toList)
    (hbody : body ∈ bodies input.toList)
    (htokens : tokensFrom body.start body.text = before ++ (c.tokens ++ after))
    (houtside : (marked (before ++ (c.tokens ++ after)))[before.length]? = some (c.opening, false)) :
    ∃ front back ahead further, allTokens input.toList = front ++ (c.tokens ++ back) ∧
      BeginAmong front ahead ∧ BeginAmong back further ∧
      (traversals input).map segments = ahead.map segments
        ++ ((chains (beforeColon c.collection)).map segments ++ further.map segments) := by
  obtain ⟨left, right, hbodies⟩ := List.append_of_mem hbody
  obtain ⟨marksBefore, marksBehind, hmarked, rfl, rfl⟩ :=
    exists_marked_append c.bracketed before after (by rw [houtside]; rfl)
  have hbracketed : Bracketed ((marked c.tokens).map Prod.fst) := by
    rw [map_fst_marked]
    exact c.bracketed
  refine ⟨_, _, _, _, ?_, (beginAmong_flatMap left).append (beginAmong_chainsFrom false marksBefore),
    (beginAmong_chainsFrom false marksBehind).append (beginAmong_flatMap right), ?_⟩
  · rw [allTokens, hbodies, List.flatMap_append, List.flatMap_cons, htokens]
    simp only [List.append_assoc]
  · rw [traversals_of_marker hinput, hbodies, List.flatMap_append, List.flatMap_cons, htokens, chains,
      hmarked]
    simp only [List.map_append]
    rw [map_segments_chainsFrom_bracketed hbracketed, c.map_segments_chains_marked]
    simp only [List.append_assoc]

theorem mem_collection_of_mem_beforeColon {token : Token} (h : token ∈ beforeColon c.collection) :
    token ∈ c.collection := by
  obtain ⟨mark, hmark, rfl⟩ := List.mem_map.1 h
  rw [← map_fst_group c.balanced_collection]
  exact List.mem_map_of_mem ((List.takeWhile_sublist _).subset hmark)

/-- A token of the collection lies between the brackets. -/
theorem Comprehension.between_of_mem_collection
    (hpairwise : c.tokens.Pairwise fun a b => a.stop ≤ b.start) {token : Token}
    (h : token ∈ c.collection) :
    c.opening.stop ≤ token.start ∧ token.stop ≤ c.closing.start := by
  have htokens : c.tokens = (c.opening :: c.word :: (c.binders ++ [c.keyword]))
      ++ (c.collection ++ (c.colon :: c.result ++ [c.closing])) := by
    simp [Comprehension.tokens, Comprehension.clauseTokens, Comprehension.behind]
  rw [htokens] at hpairwise
  obtain ⟨-, hinner, hbefore⟩ := List.pairwise_append.1 hpairwise
  have hbehind := (List.pairwise_append.1 hinner).2.2
  exact ⟨hbefore c.opening List.mem_cons_self token (List.mem_append_left _ h),
    hbehind token h c.closing (by simp)⟩

/-- **The traversals of a comprehension** that no other one sets aside are those of its collection up to
the first colon outside of all brackets. They are all that the collection has iff it has none behind
that colon. -/
theorem traversals_comprehension (hinput : ['$', '\x7b'] <+: input.toList)
    (hbody : body ∈ bodies input.toList)
    (htokens : tokensFrom body.start body.text = before ++ (c.tokens ++ after))
    (houtside : (marked (before ++ (c.tokens ++ after)))[before.length]? = some (c.opening, false)) :
    let found := beginningBetween c.opening.start c.closing.stop (traversals input)
    found.map segments = (chains (beforeColon c.collection)).map segments ∧
      (found.map segments = (chains c.collection).map segments ↔
        chains (behindColon c.collection) = []) := by
  intro found
  obtain ⟨front, back, ahead, further, hall, hahead, hfurther, htraversals⟩ :=
    exists_traversals_eq hinput hbody htokens houtside
  have hpairwise := pairwise_allTokens input.toList
  have hnonempty : ∀ token ∈ front ++ (c.tokens ++ back), token.start < token.stop :=
    fun token htoken => start_lt_stop_of_mem_allTokens (hall ▸ htoken)
  rw [hall] at hpairwise
  obtain ⟨-, hfrom, hbefore⟩ := List.pairwise_append.1 hpairwise
  obtain ⟨hinner, -, hbehind⟩ := List.pairwise_append.1 hfrom
  have hopening : c.opening ∈ c.tokens := List.mem_cons_self
  have hclosing : c.closing ∈ c.tokens := by
    simp [Comprehension.tokens, Comprehension.clauseTokens, Comprehension.behind]
  have hahead' : beginningBetween c.opening.start c.closing.stop ahead = [] := by
    refine beginningBetween_eq_nil hahead fun token htoken => Or.inl ?_
    have := hbefore token htoken c.opening (List.mem_append_left back hopening)
    have := hnonempty token (List.mem_append_left _ htoken)
    omega
  have hfurther' : beginningBetween c.opening.start c.closing.stop further = [] :=
    beginningBetween_eq_nil hfurther fun token htoken =>
      Or.inr (hbehind c.closing hclosing token htoken)
  have hkept : beginningBetween c.opening.start c.closing.stop (chains (beforeColon c.collection))
      = chains (beforeColon c.collection) := by
    refine beginningBetween_eq_self (beginAmong_chains _) fun token htoken => ?_
    have hmem := mem_collection_of_mem_beforeColon htoken
    obtain ⟨hle, hle'⟩ := Comprehension.between_of_mem_collection hinner hmem
    have := hnonempty c.opening (by simp [hopening])
    have := hnonempty c.closing (by simp [hclosing])
    have := hnonempty token (by simp [Comprehension.tokens, Comprehension.clauseTokens, hmem])
    omega
  have hfound : found.map segments = (chains (beforeColon c.collection)).map segments := by
    rw [map_segments_beginningBetween, htraversals, List.filter_append, List.filter_append,
      ← map_segments_beginningBetween, ← map_segments_beginningBetween,
      ← map_segments_beginningBetween, hahead', hfurther', hkept, List.map_nil, List.nil_append,
      List.append_nil]
  refine ⟨hfound, ?_⟩
  rw [hfound, map_segments_chains c.balanced_collection, List.self_eq_append_right, List.map_eq_nil_iff]

end Text

/-- A collection with a conditional and with a comprehension inside of brackets keeps its traversals. -/
theorem traversals_comprehension_nested :
    let input := "$\x7bf([for k, v in g(a.b ? c.d : [for y in e.f : y]) : v.id], h.i)\x7d"
    ∃ body ∈ bodies input.toList, ∃ (before after : List Token) (c : Comprehension),
      tokensFrom body.start body.text = before ++ (c.tokens ++ after) ∧
      (marked (before ++ (c.tokens ++ after)))[before.length]? = some (c.opening, false) ∧
      c.collection = tokensFrom 17 "g(a.b ? c.d : [for y in e.f : y])".toList ∧
      (beginningBetween c.opening.start c.closing.stop (traversals input)).map segments
        = (chains c.collection).map segments ∧
      (chains c.collection).map render = ["g", "a.b", "c.d", "e.f"] := by
  intro input
  let c : Comprehension :=
    { opening := ⟨.openBracket, 4, ['[']⟩
      word := ⟨.ident, 5, "for".toList⟩
      binders := [⟨.ident, 9, ['k']⟩, ⟨.comma, 10, [',']⟩, ⟨.ident, 12, ['v']⟩]
      keyword := ⟨.ident, 14, "in".toList⟩
      collection := tokensFrom 17 "g(a.b ? c.d : [for y in e.f : y])".toList
      colon := ⟨.colon, 51, [':']⟩
      result := tokensFrom 53 "v.id".toList
      closing := ⟨.closeBracket, 57, [']']⟩
      opens := rfl
      isWord_for := rfl
      isBinder := by decide
      isWord_in := rfl
      balanced_collection := by decide +kernel
      kind_colon := rfl
      balanced_result := by decide +kernel
      closes := rfl }
  have hbodies : bodies input.toList = [⟨2,
      "f([for k, v in g(a.b ? c.d : [for y in e.f : y]) : v.id], h.i)".toList, true⟩] := by
    unfold input
    decide +kernel
  have htokens : tokensFrom 2
      "f([for k, v in g(a.b ? c.d : [for y in e.f : y]) : v.id], h.i)".toList
        = tokensFrom 2 "f(".toList ++ (c.tokens ++ tokensFrom 58 ", h.i)".toList) := by
    unfold c
    decide +kernel
  have houtside : (marked (tokensFrom 2 "f(".toList
      ++ (c.tokens ++ tokensFrom 58 ", h.i)".toList)))[(tokensFrom 2 "f(".toList).length]?
        = some (c.opening, false) := by
    unfold c
    decide +kernel
  have hinput : ['$', '\x7b'] <+: input.toList := by
    refine ⟨input.toList.drop 2, ?_⟩
    unfold input
    decide +kernel
  have hbehind : chains (behindColon c.collection) = [] := by
    unfold c
    decide +kernel
  have hbody := hbodies ▸ List.mem_singleton_self _
  refine ⟨_, hbody, _, _, c, htokens, houtside, rfl,
    (traversals_comprehension hinput hbody htokens houtside).2.2 hbehind, ?_⟩
  unfold c
  decide +kernel

/-- Whether each colon outside of all brackets belongs to a question mark before it, some of which are
open. -/
def colonsMatched (questions : Nat) : List (Token × Nat) → Bool
  | [] => true
  | mark :: rest =>
    if isColon mark then 0 < questions && colonsMatched (questions - 1) rest
    else if mark.2 == 0 && mark.1.kind == .question then colonsMatched (questions + 1) rest
    else colonsMatched questions rest

/-- The colon of a conditional is taken for that of the comprehension, and its last part is lost. -/
theorem traversals_conditional_lost :
    let input := "$\x7b[for x in var.c ? var.a : var.b : x.id]\x7d"
    ∃ body ∈ bodies input.toList, ∃ c : Comprehension,
      tokensFrom body.start body.text = c.tokens ∧
      (marked c.tokens)[0]? = some (c.opening, false) ∧
      colonsMatched 0 (group 0 c.collection) = true ∧
      c.collection = tokensFrom 12 "var.c ? var.a : var.b".toList ∧
      (chains c.collection).map render = ["var.c", "var.a", "var.b"] ∧
      (beginningBetween c.opening.start c.closing.stop (traversals input)).map render
        = ["var.c", "var.a"] := by
  intro input
  have hbodies : bodies input.toList
      = [⟨2, "[for x in var.c ? var.a : var.b : x.id]".toList, true⟩] := by
    unfold input
    decide +kernel
  refine ⟨⟨2, "[for x in var.c ? var.a : var.b : x.id]".toList, true⟩,
    by rw [hbodies]; exact List.mem_singleton_self _,
    { opening := ⟨.openBracket, 2, ['[']⟩
      word := ⟨.ident, 3, "for".toList⟩
      binders := [⟨.ident, 7, ['x']⟩]
      keyword := ⟨.ident, 9, "in".toList⟩
      collection := tokensFrom 12 "var.c ? var.a : var.b".toList
      colon := ⟨.colon, 34, [':']⟩
      result := tokensFrom 36 "x.id".toList
      closing := ⟨.closeBracket, 40, [']']⟩
      opens := rfl
      isWord_for := rfl
      isBinder := by decide
      isWord_in := rfl
      balanced_collection := by decide +kernel
      kind_colon := rfl
      balanced_result := by decide +kernel
      closes := rfl }, ?_, ?_, ?_, rfl, ?_, ?_⟩
  · decide +kernel
  · decide +kernel
  · decide +kernel
  · decide +kernel
  · unfold input
    decide +kernel

end ConfigRefs.Traversal
