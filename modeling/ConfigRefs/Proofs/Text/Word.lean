import ConfigRefs.Text.CamelCase
import Mathlib.Data.List.DropRight

/-!
# Text: the words of a name

The words of a name are its letters and numbers, cut into pieces of which none is empty
(`flatten_words`, `ne_nil_of_mem_words`). One text behind another has the words of both, and where no
word ends between the two, the last word of the first goes on as the first of the second
(`words_append`). What stands between words is immaterial: the words stay if one underscore is written
there in place of all else (`words_underscored`).
-/

namespace ConfigRefs.Text

/-- Whether a word goes on from the end of one text into the next. -/
def continues (front back : List Char) : Bool :=
  front.getLast?.any fun c => isAlphanumeric c && back.head?.any (joins c)

/-- Two lists of words, the last of the first list and the first of the second being one word. -/
def glue : List (List Char) → List (List Char) → List (List Char)
  | [], back => back
  | [word], [] => [word]
  | [word], next :: later => (word ++ next) :: later
  | word :: next :: front, back => word :: glue (next :: front) back

/-- Whether a character stands between words. -/
def partsWords (c : Char) : Bool := !isAlphanumeric c

/-- A text without what stands before its first word and behind its last. -/
def trimmed (text : List Char) : List Char := (text.dropWhile partsWords).rdropWhile partsWords

/-- A text in which each run of characters between words is one underscore. -/
def singleUnderscores : List Char → List Char
  | [] => []
  | c :: rest =>
    if partsWords c then '_' :: singleUnderscores (rest.dropWhile partsWords)
    else c :: singleUnderscores rest
termination_by text => text.length
decreasing_by
  · exact Nat.lt_succ_of_le (List.dropWhile_sublist partsWords).length_le
  · exact Nat.lt_succ_self _

/-- A name with one underscore between its words and nothing around them. -/
def underscored (name : String) : String := String.ofList (singleUnderscores (trimmed name.toList))

/-! ### Glued words -/

section Glue

variable {front middle back later : List (List Char)} {word last next : List Char}

theorem glue_cons (h : front ≠ []) (word : List Char) (back : List (List Char)) :
    glue (word :: front) back = word :: glue front back := by
  obtain ⟨next, front, rfl⟩ := List.exists_cons_of_ne_nil h
  rfl

theorem append_glue (h : middle ≠ []) (front back : List (List Char)) :
    front ++ glue middle back = glue (front ++ middle) back := by
  induction front with
  | nil => rfl
  | cons word front ih =>
    rw [List.cons_append, List.cons_append, glue_cons (List.append_ne_nil_of_right_ne_nil _ h), ih]

/-- The last word of one list and the first of the other are one word. -/
theorem glue_concat : glue (front ++ [last]) (next :: later) = front ++ (last ++ next) :: later :=
  (append_glue (List.cons_ne_nil last []) front (next :: later)).symm

theorem glue_append (h : middle ≠ []) (front back : List (List Char)) :
    glue front (middle ++ back) = glue front middle ++ back := by
  obtain ⟨next, middle, rfl⟩ := List.exists_cons_of_ne_nil h
  rcases List.eq_nil_or_concat front with rfl | ⟨front, last, rfl⟩
  · rfl
  · rw [List.concat_eq_append, List.cons_append, glue_concat, glue_concat, List.append_assoc,
      List.cons_append]

theorem glue_assoc (h : middle ≠ []) (front back : List (List Char)) :
    glue front (glue middle back) = glue (glue front middle) back := by
  rcases List.eq_nil_or_concat front with rfl | ⟨front, last, rfl⟩
  · rfl
  obtain ⟨word, middle, rfl⟩ := List.exists_cons_of_ne_nil h
  rw [List.concat_eq_append, glue_concat, ← append_glue (List.cons_ne_nil _ middle)]
  cases middle with
  | nil =>
    cases back with
    | nil => exact glue_concat
    | cons next back => rw [glue, glue_concat, glue, List.append_assoc]
  | cons next middle => rw [glue, glue_concat, glue]

theorem flatten_glue (front back : List (List Char)) :
    (glue front back).flatten = front.flatten ++ back.flatten := by
  fun_induction glue front back with
  | case1 back => rfl
  | case2 word => simp
  | case3 word next later => simp
  | case4 word next front back ih => simp [ih]

theorem mem_glue (h : word ∈ glue front back) :
    word ∈ front ∨ word ∈ back ∨ ∃ last ∈ front, ∃ next, word = last ++ next := by
  fun_induction glue front back with
  | case1 back => exact Or.inr (Or.inl h)
  | case2 last => exact Or.inl h
  | case3 last next later =>
    rcases List.mem_cons.1 h with rfl | hlater
    · exact Or.inr (Or.inr ⟨last, List.mem_cons_self, next, rfl⟩)
    · exact Or.inr (Or.inl (List.mem_cons_of_mem next hlater))
  | case4 first next front back ih =>
    rcases List.mem_cons.1 h with rfl | hmem
    · exact Or.inl List.mem_cons_self
    · rcases ih hmem with hfront | hback | ⟨last, hlast, hword⟩
      · exact Or.inl (List.mem_cons_of_mem first hfront)
      · exact Or.inr (Or.inl hback)
      · exact Or.inr (Or.inr ⟨last, List.mem_cons_of_mem first hlast, hword⟩)

end Glue

/-! ### Words of a text behind another -/

theorem words_singleton (c : Char) : words [c] = if isAlphanumeric c then [[c]] else [] := rfl

theorem continues_singleton (c : Char) (rest : List Char) :
    continues [c] rest = (isAlphanumeric c && rest.head?.any (joins c)) := rfl

/-- The words of a text from those behind its first character. -/
theorem words_cons (c : Char) (rest : List Char) :
    words (c :: rest) =
      if continues [c] rest then glue (words [c]) (words rest) else words [c] ++ words rest := by
  rw [continues_singleton, words_singleton]
  cases rest with
  | nil =>
    rw [words_singleton, List.head?_nil, Option.any_none, Bool.and_false, if_neg Bool.false_ne_true]
    exact (List.append_nil _).symm
  | cons d rest =>
    rw [words, List.head?_cons, Option.any_some]
    cases isAlphanumeric c with
    | false => rfl
    | true =>
      cases joins c d with
      | false => rfl
      | true => cases words (d :: rest) <;> rfl

/-- **The words of a name are its letters and numbers**, in order. -/
theorem flatten_words (name : List Char) : (words name).flatten = name.filter isAlphanumeric := by
  induction name with
  | nil => rfl
  | cons c rest ih =>
    have hfirst : (words [c]).flatten = [c].filter isAlphanumeric := by
      rw [words_singleton, List.filter_singleton]
      cases isAlphanumeric c <;> rfl
    rw [words_cons, apply_ite List.flatten, flatten_glue, List.flatten_append, ite_self, hfirst, ih,
      ← List.filter_append, List.singleton_append]

/-- The words of a text have no other characters than the text. -/
theorem mem_of_mem_words {name word : List Char} {c : Char} (hword : word ∈ words name)
    (hc : c ∈ word) : c ∈ name := by
  have hmem : c ∈ (words name).flatten := List.mem_flatten.2 ⟨word, hword, hc⟩
  rw [flatten_words] at hmem
  exact List.mem_of_mem_filter hmem

theorem ne_nil_of_mem_words {name word : List Char} (h : word ∈ words name) : word ≠ [] := by
  induction name with
  | nil => cases h
  | cons c rest ih =>
    have hfirst (first : List Char) (hmem : first ∈ words [c]) : first ≠ [] := by
      rw [words_singleton] at hmem
      split at hmem
      · rw [List.mem_singleton.1 hmem]
        exact List.cons_ne_nil c []
      · cases hmem
    rw [words_cons] at h
    split at h
    · rcases mem_glue h with hmem | hmem | ⟨first, hmem, next, rfl⟩
      · exact hfirst word hmem
      · exact ih hmem
      · exact List.append_ne_nil_of_left_ne_nil (hfirst first hmem) next
    · rcases List.mem_append.1 h with hmem | hmem
      · exact hfirst word hmem
      · exact ih hmem

/-- A text with a letter or a number has a word. -/
theorem words_ne_nil {name : List Char} {c : Char} (h : c ∈ name) (hc : isAlphanumeric c = true) :
    words name ≠ [] := by
  intro hnil
  have hmem : c ∈ (words name).flatten := by
    rw [flatten_words]
    exact List.mem_filter.2 ⟨h, hc⟩
  rw [hnil] at hmem
  cases hmem

/-- **One text behind another** has the words of both, of which two are glued if a word goes on. -/
theorem words_append (front back : List Char) :
    words (front ++ back) =
      if continues front back then glue (words front) (words back)
      else words front ++ words back := by
  induction front with
  | nil => rfl
  | cons c front ih =>
    cases front with
    | nil => exact words_cons c back
    | cons d front =>
      have hlast : continues (c :: d :: front) back = continues (d :: front) back := by
        rw [continues, List.getLast?_cons_cons, continues]
      have hhead : continues [c] (d :: front ++ back) = continues [c] (d :: front) := rfl
      rw [List.cons_append, words_cons c, words_cons c (d :: front), hlast, hhead, ih]
      by_cases hnext : continues [c] (d :: front) = true
      · -- a word goes on from `c` to `d`, so there are words behind `c`
        have hne : words (d :: front) ≠ [] := by
          rw [continues_singleton, List.head?_cons, Option.any_some, Bool.and_eq_true, joins,
            Bool.and_eq_true] at hnext
          exact words_ne_nil List.mem_cons_self hnext.2.1
        rw [if_pos hnext, if_pos hnext]
        split
        · exact glue_assoc hne _ _
        · exact glue_append hne _ _
      · rw [if_neg hnext, if_neg hnext]
        split
        · next hcontinues =>
          obtain ⟨last, hmem, hjoins⟩ := (Option.any_eq_true _ _).1 hcontinues
          rw [Bool.and_eq_true] at hjoins
          exact append_glue (words_ne_nil (List.mem_of_getLast? hmem) hjoins.1) _ _
        · exact (List.append_assoc _ _ _).symm

/-! ### What stands between words -/

theorem isAlphanumeric_of_partsWords {c : Char} (h : partsWords c = true) :
    isAlphanumeric c = false := by
  simpa [partsWords] using h

theorem partsWords_underscore : partsWords '_' = true := by decide

theorem not_joins_of_partsWords {d : Char} (h : partsWords d = true) (c : Char) :
    joins c d = false := by
  rw [joins, isAlphanumeric_of_partsWords h, Bool.false_and]

/-- No word goes on into or out of a character between words. -/
theorem words_cons_of_partsWords {c : Char} (h : partsWords c = true) (rest : List Char) :
    words (c :: rest) = words rest := by
  rw [words_cons, continues_singleton, words_singleton, isAlphanumeric_of_partsWords h]
  rfl

theorem words_concat_of_partsWords {c : Char} (h : partsWords c = true) (front : List Char) :
    words (front ++ [c]) = words front := by
  have hends : continues front [c] = false := by
    rw [continues, Option.any_eq_false]
    intro last _
    rw [List.head?_cons, Option.any_some, not_joins_of_partsWords h, Bool.and_false]
  rw [words_append, hends, words_singleton, isAlphanumeric_of_partsWords h]
  exact List.append_nil _

theorem words_dropWhile (text : List Char) : words (text.dropWhile partsWords) = words text := by
  induction text with
  | nil => rfl
  | cons c rest ih =>
    rw [List.dropWhile_cons]
    split
    · next hc => rw [ih, words_cons_of_partsWords hc]
    · rfl

theorem words_trimmed (text : List Char) : words (trimmed text) = words text := by
  rw [trimmed, ← words_dropWhile text]
  induction text.dropWhile partsWords using List.reverseRecOn with
  | nil => rfl
  | append_singleton front c ih =>
    rw [List.rdropWhile_concat]
    split
    · next hc => rw [ih, words_concat_of_partsWords hc]
    · rfl

/-- Whether a word goes on into a text is the same with underscores. -/
theorem continues_singleUnderscores (c : Char) (text : List Char) :
    continues [c] (singleUnderscores text) = continues [c] text := by
  rw [continues_singleton, continues_singleton]
  cases text with
  | nil => rw [singleUnderscores]
  | cons d rest =>
    rw [singleUnderscores]
    split
    · next hd =>
      rw [List.head?_cons, List.head?_cons, Option.any_some, Option.any_some,
        not_joins_of_partsWords hd, not_joins_of_partsWords partsWords_underscore]
    · rfl

theorem words_singleUnderscores (text : List Char) : words (singleUnderscores text) = words text := by
  fun_induction singleUnderscores text with
  | case1 => rfl
  | case2 c rest hc ih =>
    rw [words_cons_of_partsWords partsWords_underscore, ih, words_dropWhile,
      words_cons_of_partsWords hc]
  | case3 c rest hc ih => rw [words_cons, continues_singleUnderscores, ih, ← words_cons]

/-- **What stands between words is immaterial.** -/
theorem words_underscored (name : String) : words (underscored name).toList = words name.toList := by
  rw [underscored, String.toList_ofList, words_singleUnderscores, words_trimmed]

/-- The words are cut at separators and before a capital behind a small letter or a number. -/
example : underscored "--my..HTTP_Server2Port-" = "my_HTTP_Server2Port" ∧
    words "my_HTTP_Server2Port".toList
      = ["my", "HTTP", "Server2", "Port"].map String.toList := by
  decide +kernel

end ConfigRefs.Text
