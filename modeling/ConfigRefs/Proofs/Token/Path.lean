import ConfigRefs.Token.Lexer
import ConfigRefs.Proofs.Interpolation.Nesting
import ConfigRefs.Proofs.Text.Dotted

/-!
# Token: the tokens of a dotted path

A path of names is lexed into its names with dots between them (`tokensFrom_joinDots`). A name begins
like a word and goes on like one (`IsName`); it holds no white space in front, no dot, no brace and no
quote, so nothing in it ends a body or a token early.
-/

namespace ConfigRefs.Token

open ConfigRefs.Text ConfigRefs.Interpolation

/-- Whether a text is one word. -/
def isName : List Char → Bool
  | [] => false
  | c :: rest => beginsWord c && rest.all continuesWord

/-- A name: what the lexer takes for one identifier. -/
def IsName (name : String) : Prop := isName name.toList = true

instance (name : String) : Decidable (IsName name) := inferInstanceAs (Decidable (_ = _))

/-! ### Characters of names -/

theorem continuesWord_of_beginsWord {c : Char} (h : beginsWord c = true) :
    continuesWord c = true := by
  simp only [beginsWord, continuesWord, isAlphanumeric, Bool.or_eq_true] at h ⊢
  rcases h with h | h
  · exact Or.inl (Or.inl (Or.inl h))
  · exact Or.inl (Or.inr h)

theorem ne_of_continuesWord {c d : Char} (h : continuesWord c = true)
    (hd : continuesWord d = false) : c ≠ d := by
  rintro rfl
  simp [h] at hd

theorem isPlain_of_continuesWord {c : Char} (h : continuesWord c = true) : IsPlain c :=
  ⟨ne_of_continuesWord h (by decide), ne_of_continuesWord h (by decide),
    ne_of_continuesWord h (by decide)⟩

/-- The ranges of the code points of white space. -/
def blankRanges : CodeRanges :=
  [(0x9, 0xd), (0x20, 0x20), (0x85, 0x85), (0xa0, 0xa0), (0x1680, 0x1680), (0x2000, 0x200a),
    (0x2028, 0x2029), (0x202f, 0x202f), (0x205f, 0x205f), (0x3000, 0x3000)]

theorem exists_of_has : ∀ {ranges : CodeRanges} {code : Nat}, ranges.has code = true →
    ∃ range ∈ ranges, range.1 ≤ code ∧ code ≤ range.2
  | [], _, h => by simp [CodeRanges.has] at h
  | (first, last) :: ranges, code, h => by
    rw [CodeRanges.has] at h
    split at h
    · cases h
    · next hfirst =>
      rcases Bool.or_eq_true_iff.1 h with hlast | hrest
      · exact ⟨(first, last), List.mem_cons_self, by omega, of_decide_eq_true hlast⟩
      · obtain ⟨range, hmem, hrange⟩ := exists_of_has hrest
        exact ⟨range, List.mem_cons_of_mem _ hmem, hrange⟩

/-- No character of a word is white space. -/
theorem isBlank_of_continuesWord {c : Char} (h : continuesWord c = true) : isBlank c = false := by
  have hcodes : ∀ range ∈ blankRanges, ∀ code ∈ List.range' range.1 (range.2 + 1 - range.1),
      continuesWord (Char.ofNat code) = false := by decide +kernel
  cases hblank : isBlank c with
  | false => rfl
  | true =>
    have hhas : blankRanges.has c.toNat = true := hblank
    obtain ⟨range, hmem, hfirst, hlast⟩ := exists_of_has hhas
    have := hcodes range hmem c.toNat (List.mem_range'_1.2 ⟨hfirst, by omega⟩)
    rw [Char.ofNat_toNat, h] at this
    cases this

theorem isBlank_of_beginsWord {c : Char} (h : beginsWord c = true) : isBlank c = false :=
  isBlank_of_continuesWord (continuesWord_of_beginsWord h)

theorem IsName.exists_cons {name : String} (h : IsName name) : ∃ c rest, name.toList = c :: rest ∧
    beginsWord c = true ∧ ∀ d ∈ rest, continuesWord d = true := by
  unfold IsName at h
  cases hname : name.toList with
  | nil => simp [hname, isName] at h
  | cons c rest =>
    rw [hname, isName, Bool.and_eq_true, List.all_eq_true] at h
    exact ⟨c, rest, rfl, h.1, h.2⟩

theorem IsName.continuesWord {name : String} (h : IsName name) :
    ∀ c ∈ name.toList, continuesWord c = true := by
  obtain ⟨c, rest, hname, hc, hrest⟩ := h.exists_cons
  rw [hname]
  intro d hd
  rcases List.mem_cons.1 hd with rfl | hd
  · exact continuesWord_of_beginsWord hc
  · exact hrest d hd

theorem IsName.dotFree {name : String} (h : IsName name) : DotFree name := fun hdot =>
  absurd (h.continuesWord '.' hdot) (by decide)

/-! ### Tokens -/

/-- A name ends where no word goes on. -/
theorem tokensFrom_name {name : String} (h : IsName name) {rest : List Char}
    (hrest : ∀ c ∈ rest.head?, continuesWord c = false) (offset : Nat) :
    tokensFrom offset (name.toList ++ rest)
      = ⟨.ident, offset, name.toList⟩ :: tokensFrom (offset + byteLength name.toList) rest := by
  obtain ⟨c, tail, hname, hc, htail⟩ := h.exists_cons
  have hwhile : (tail ++ rest).takeWhile continuesWord = tail := by
    rw [List.takeWhile_append_of_pos htail]
    cases rest with
    | nil => simp
    | cons d rest =>
      rw [List.takeWhile_cons_of_neg (by simp [hrest d rfl]), List.append_nil]
  rw [hname, List.cons_append, tokensFrom, isBlank_of_beginsWord hc]
  simp only [classify, hc, if_true, hwhile, Bool.false_eq_true, if_false, List.take_left',
    List.drop_left']

/-- A dot in front of a word is a token of its own. -/
theorem tokensFrom_dot {c : Char} (hc : beginsWord c = true) (offset : Nat) (rest : List Char) :
    tokensFrom offset ('.' :: c :: rest)
      = ⟨.dot, offset, ['.']⟩ :: tokensFrom (offset + 1) (c :: rest) := by
  have hword := continuesWord_of_beginsWord hc
  have hpunct : punctuation '.' (c :: rest) = (.dot, 0) := by
    rw [punctuation]
    · rintro more heq
      exact ne_of_continuesWord hword (d := '.') (by decide) (List.cons.inj heq).1
    · rintro more heq
      exact ne_of_continuesWord hword (d := '*') (by decide) (List.cons.inj heq).1
  have hclassify : classify '.' (c :: rest) = (.dot, 0) := by
    rw [classify, if_neg (by decide), if_neg (by decide), if_neg (by decide), hpunct]
  have hblank : isBlank '.' = false := by decide
  rw [tokensFrom, hblank, hclassify]
  rfl

/-- The tokens of steps: each a dot and a name. -/
def stepTokens (offset : Nat) : List String → List Token
  | [] => []
  | name :: names => ⟨.dot, offset, ['.']⟩ :: ⟨.ident, offset + 1, name.toList⟩
      :: stepTokens (offset + 1 + byteLength name.toList) names

theorem toList_joinDots_cons (name : String) (names : List String) :
    (joinDots (name :: names)).toList = name.toList ++ names.flatMap fun n => '.' :: n.toList := by
  rw [joinDots, String.toList_ofList, List.map_cons]
  induction names generalizing name with
  | nil => simp
  | cons next names ih =>
    rw [List.map_cons, List.intercalate_cons_cons, ih next, List.flatMap_cons]
    simp

theorem tokensFrom_steps : ∀ {names : List String}, (∀ name ∈ names, IsName name) →
    ∀ offset, tokensFrom offset (names.flatMap fun n => '.' :: n.toList) = stepTokens offset names
  | [], _, offset => by rw [List.flatMap_nil, tokensFrom, stepTokens]
  | name :: names, h, offset => by
    have hname := h name List.mem_cons_self
    obtain ⟨c, rest, htext, hc, -⟩ := hname.exists_cons
    have hnext : ∀ d ∈ (names.flatMap fun n => '.' :: n.toList).head?, continuesWord d = false := by
      cases names with
      | nil => intro d hd; cases hd
      | cons next names =>
        intro d hd
        obtain rfl := Option.some.inj hd
        decide
    rw [List.flatMap_cons, List.cons_append, htext, List.cons_append, tokensFrom_dot hc,
      ← List.cons_append, ← htext, tokensFrom_name hname hnext,
      tokensFrom_steps fun n hn => h n (List.mem_cons_of_mem name hn), stepTokens]

/-- **The tokens of a dotted path** are its names with dots between them. -/
theorem tokensFrom_joinDots {name : String} {names : List String} (hname : IsName name)
    (h : ∀ n ∈ names, IsName n) (offset : Nat) :
    tokensFrom offset (joinDots (name :: names)).toList
      = ⟨.ident, offset, name.toList⟩ :: stepTokens (offset + byteLength name.toList) names := by
  rw [toList_joinDots_cons, tokensFrom_name hname, tokensFrom_steps h]
  cases names with
  | nil => intro d hd; cases hd
  | cons next names =>
    intro d hd
    obtain rfl := Option.some.inj hd
    decide

end ConfigRefs.Token
