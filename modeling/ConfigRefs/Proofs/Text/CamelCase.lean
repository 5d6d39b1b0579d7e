import ConfigRefs.Text.CamelCase

/-!
# Text: what a camel case name begins with

The words of a name leave out what is neither letter nor number, so its camel case form begins with the
lower case form of its first letter or number (`exists_camelCaseChars_cons`). Lower case forms keep
digits and make none (`exists_lower_cons`). Hence a camel case name can be used as an identifier iff the
first letter or number that it is made from is there and no digit (`isUsable_camelCase_iff`).
-/

namespace ConfigRefs.Text

/-- A name of generated code is not empty and does not begin with a decimal digit. -/
def IsUsable (name : String) : Prop := name ≠ "" ∧ ∀ c ∈ name.toList.head?, c.isDigit = false

instance (name : String) : Decidable (IsUsable name) :=
  decidable_of_iff (name ≠ "" ∧ name.toList.head?.any Char.isDigit = false) (by
    unfold IsUsable
    cases name.toList.head? <;> simp)

/-- The first letter or number of a text. -/
def leading? (text : List Char) : Option Char := text.find? isAlphanumeric

/-! ### Words -/

theorem leading?_cons (c : Char) (rest : List Char) :
    leading? (c :: rest) = if isAlphanumeric c then some c else leading? rest := by
  rw [leading?, List.find?_cons]
  cases isAlphanumeric c <;> rfl

theorem words_eq_nil {name : List Char} (h : leading? name = none) : words name = [] := by
  fun_induction words name with
  | case1 => rfl
  | case2 c hc => simp [leading?, hc] at h
  | case3 c hc => rfl
  | case4 c d rest hc ih =>
    rw [leading?_cons, if_neg (by simpa using hc)] at h
    exact ih h
  | case5 c d rest hc | case6 c d rest hc | case7 c d rest hc =>
    rw [leading?_cons, if_pos (by simpa using hc)] at h
    cases h

/-- **The first word begins with the first letter or number.** -/
theorem exists_words_cons {name : List Char} {c : Char} (h : leading? name = some c) :
    ∃ word later, words name = (c :: word) :: later := by
  fun_induction words name with
  | case1 => cases h
  | case2 d hd =>
    rw [leading?_cons, if_pos hd] at h
    obtain rfl := Option.some.inj h
    exact ⟨[], [], rfl⟩
  | case3 d hd =>
    rw [leading?_cons, if_neg hd] at h
    cases h
  | case4 d e rest hd ih =>
    rw [leading?_cons, if_neg (by simpa using hd)] at h
    exact ih h
  | case5 d e rest hd | case6 d e rest hd | case7 d e rest hd =>
    rw [leading?_cons, if_pos (by simpa using hd)] at h
    obtain rfl := Option.some.inj h
    exact ⟨_, _, rfl⟩

/-! ### Lower case forms -/

/-- What can be checked code by code holds of every ASCII character. -/
theorem of_isAscii {motive : Char → Prop} (h : ∀ code < 0x80, motive (Char.ofNat code)) {c : Char}
    (hascii : isAscii c = true) : motive c := by
  have hcode := h c.toNat (of_decide_eq_true hascii)
  rwa [Char.ofNat_toNat] at hcode

/-- A code point above the digits is none. -/
theorem isDigit_ofNat {code : Nat} (h : 0x39 < code) : (Char.ofNat code).isDigit = false := by
  rw [← Bool.not_eq_true]
  intro hdigit
  obtain ⟨hfirst, hlast⟩ := (Bool.and_eq_true _ _).mp hdigit
  have hzero : 0x30 ≤ (Char.ofNat code).toNat := of_decide_eq_true hfirst
  have hnine : (Char.ofNat code).toNat ≤ 0x39 := of_decide_eq_true hlast
  by_cases hvalid : code.isValidChar
  · have hcode : (Char.ofNat code).toNat = code := congrArg Char.toNat (dif_pos hvalid)
    omega
  · have hcode : (Char.ofNat code).toNat = 0 := congrArg Char.toNat (dif_neg hvalid)
    omega

theorem isDigit_of_not_ascii {c : Char} (h : isAscii c = false) : c.isDigit = false := by
  have hcode : 0x39 < c.toNat := by
    simp only [isAscii, decide_eq_false_iff_not] at h
    omega
  have hdigit := isDigit_ofNat hcode
  rwa [Char.ofNat_toNat] at hdigit

theorem isDigit_toLower {c : Char} (h : isAscii c = true) : c.toLower.isDigit = c.isDigit :=
  of_isAscii (motive := fun c => c.toLower.isDigit = c.isDigit) (by decide +kernel) h

/-- The tables map no character to nothing, and none to a digit. -/
theorem lowerTables :
    (∀ expansion ∈ Property.lowerExpansions, ∃ code ∈ expansion.2.head?, 0x39 < code) ∧
      ∀ shift ∈ Property.lowerShifts, 0x39 < (shift.run.first : Int) + shift.distance := by
  decide +kernel

theorem lt_of_shifted? {code shifted : Nat}
    (h : CodeShift.shifted? Property.lowerShifts code = some shifted) : 0x39 < shifted := by
  obtain ⟨shift, hfind, rfl⟩ := Option.map_eq_some_iff.1 h
  have hfirst := lowerTables.2 shift (List.mem_of_find?_eq_some hfind)
  have hrun := List.find?_some hfind
  simp only [CodeRun.has, Bool.and_eq_true, decide_eq_true_eq] at hrun
  omega

/-- **The lower case form of a character** begins with a digit iff the character is one. -/
theorem exists_lowerChar_cons (c : Char) :
    ∃ d rest, lowerChar c = d :: rest ∧ d.isDigit = c.isDigit := by
  cases hascii : isAscii c with
  | true =>
    refine ⟨c.toLower, [], ?_, isDigit_toLower hascii⟩
    rw [lowerChar, if_pos hascii]
  | false =>
    rw [isDigit_of_not_ascii hascii]
    have hlower := lowerChar_eq_elim hascii
    cases hexpansion : Property.lowerExpansions.lookup c.toNat with
    | some codes =>
      rw [hexpansion] at hlower
      obtain ⟨before, behind, hsplit, -⟩ := List.lookup_eq_some_iff.1 hexpansion
      obtain ⟨code, hcode, hlt⟩ := lowerTables.1 (c.toNat, codes) (by rw [hsplit]; simp)
      obtain ⟨more, rfl⟩ := List.head?_eq_some_iff.1 hcode
      exact ⟨_, _, hlower, isDigit_ofNat hlt⟩
    | none =>
      rw [hexpansion] at hlower
      cases hshift : CodeShift.shifted? Property.lowerShifts c.toNat with
      | some code =>
        rw [hshift] at hlower
        exact ⟨_, _, hlower, isDigit_ofNat (lt_of_shifted? hshift)⟩
      | none =>
        rw [hshift] at hlower
        exact ⟨_, _, hlower, isDigit_of_not_ascii hascii⟩

/-- **The lower case form of a text** begins with a digit iff the text does. -/
theorem exists_lower_cons (c : Char) (rest : List Char) :
    ∃ d tail, lower (c :: rest) = d :: tail ∧ d.isDigit = c.isDigit := by
  rw [lower, lowerAfter]
  by_cases hsigma : c = 'Σ'
  · -- a capital sigma is the only character whose form depends on the text
    rw [if_pos hsigma, hsigma]
    refine ⟨_, _, rfl, ?_⟩
    split <;> decide
  · obtain ⟨d, tail, hlower, hdigit⟩ := exists_lowerChar_cons c
    rw [if_neg hsigma, hlower]
    exact ⟨d, _, rfl, hdigit⟩

/-! ### Camel case names -/

theorem camelCaseChars_eq_nil {name : List Char} (h : leading? name = none) :
    camelCaseChars name = [] := by
  rw [camelCaseChars, words_eq_nil h]

theorem exists_camelCaseChars_cons {name : List Char} {c : Char} (h : leading? name = some c) :
    ∃ d rest, camelCaseChars name = d :: rest ∧ d.isDigit = c.isDigit := by
  obtain ⟨word, later, hwords⟩ := exists_words_cons h
  obtain ⟨d, tail, hlower, hdigit⟩ := exists_lower_cons c word
  exact ⟨d, tail ++ later.flatMap capitalize, by rw [camelCaseChars, hwords]; simp [hlower], hdigit⟩

/-- **A camel case name can be used iff** the first letter or number of what it is made from is there
and no digit. -/
theorem isUsable_camelCase_iff (name : String) :
    IsUsable (camelCase name) ↔ ∃ c, leading? name.toList = some c ∧ c.isDigit = false := by
  rw [IsUsable, camelCase, String.toList_ofList]
  cases hleading : leading? name.toList with
  | none => simp [camelCaseChars_eq_nil hleading]
  | some c =>
    obtain ⟨d, rest, hchars, hdigit⟩ := exists_camelCaseChars_cons hleading
    simp [hchars, hdigit]

end ConfigRefs.Text
