import ConfigRefs.Proofs.Text.CamelCase
import ConfigRefs.Proofs.Text.Word

/-!
# Text: the letters of a camel case name

A camel case name is made from the words of a name only (`runTogether`), so what stands between them
does not matter (`camelCase_underscored`). Of an ASCII name it keeps all letters and digits, in order and
up to letter case, and adds nothing (`camelCase_keeps_letters`).
-/

namespace ConfigRefs.Text

/-- Words run together, the first in lower case and the others capitalized. -/
def runTogether : List (List Char) → List Char
  | [] => []
  | first :: later => lower first ++ later.flatMap capitalize

theorem camelCaseChars_eq (name : List Char) : camelCaseChars name = runTogether (words name) := by
  rw [camelCaseChars]
  cases words name <;> rfl

theorem runTogether_append {front : List (List Char)} (h : front ≠ []) (back : List (List Char)) :
    runTogether (front ++ back) = runTogether front ++ back.flatMap capitalize := by
  obtain ⟨first, later, rfl⟩ := List.exists_cons_of_ne_nil h
  rw [List.cons_append, runTogether, runTogether, List.flatMap_append, List.append_assoc]

/-- **What stands between words** leaves no trace in a camel case name. -/
theorem camelCase_underscored (name : String) : camelCase (underscored name) = camelCase name := by
  rw [camelCase, camelCaseChars_eq, words_underscored, ← camelCaseChars_eq, ← camelCase]

/-! ### ASCII names -/

section Ascii

variable {text : List Char}

theorem toLower_toLower {c : Char} (h : isAscii c = true) : c.toLower.toLower = c.toLower :=
  of_isAscii (motive := fun c => c.toLower.toLower = c.toLower) (by decide +kernel) h

theorem toLower_toUpper {c : Char} (h : isAscii c = true) : c.toUpper.toLower = c.toLower :=
  of_isAscii (motive := fun c => c.toUpper.toLower = c.toLower) (by decide +kernel) h

theorem isUpper_toLower {c : Char} (h : isAscii c = true) : c.toLower.isUpper = false :=
  of_isAscii (motive := fun c => c.toLower.isUpper = false) (by decide +kernel) h

/-- Letter case makes no difference to what is a letter or a digit. -/
theorem isAlphanum_toLower (c : Char) : c.toLower.isAlphanum = c.isAlphanum := by
  cases hascii : isAscii c with
  | true =>
    exact of_isAscii (motive := fun c => c.toLower.isAlphanum = c.isAlphanum) (by decide +kernel) hascii
  | false =>
    have hupper : ¬ (c.val ≥ 'A'.val ∧ c.val ≤ 'Z'.val) := fun hcode => by
      have hlast : c.toNat ≤ 0x5a := hcode.2
      simp only [isAscii, decide_eq_false_iff_not] at hascii
      omega
    exact congrArg Char.isAlphanum (dif_neg hupper)

theorem isAlphanumeric_of_isAscii {c : Char} (h : isAscii c = true) :
    isAlphanumeric c = c.isAlphanum := by
  rw [isAlphanumeric, isAlphabetic, isNumeric, if_pos h, if_pos h]
  rfl

/-- The letter case of an ASCII text depends on no other text. -/
theorem lowerAfter_of_isAscii (h : ∀ c ∈ text, isAscii c = true) (before : List Char) :
    lowerAfter before text = text.map Char.toLower := by
  induction text generalizing before with
  | nil => rfl
  | cons c rest ih =>
    have hc := h c List.mem_cons_self
    have hsigma : c ≠ 'Σ' := by
      rintro rfl
      exact absurd hc (by decide)
    rw [lowerAfter, if_neg hsigma, lowerChar, if_pos hc,
      ih fun d hd => h d (List.mem_cons_of_mem c hd)]
    rfl

theorem lower_of_isAscii (h : ∀ c ∈ text, isAscii c = true) : lower text = text.map Char.toLower :=
  lowerAfter_of_isAscii h []

theorem map_toLower_lower (h : ∀ c ∈ text, isAscii c = true) :
    (lower text).map Char.toLower = text.map Char.toLower := by
  rw [lower_of_isAscii h, List.map_map]
  exact List.map_congr_left fun c hc => toLower_toLower (h c hc)

theorem map_toLower_capitalize (h : ∀ c ∈ text, isAscii c = true) :
    (capitalize text).map Char.toLower = text.map Char.toLower := by
  cases text with
  | nil => rfl
  | cons c rest =>
    have hc := h c List.mem_cons_self
    rw [capitalize, upper, if_pos hc, List.map_append,
      map_toLower_lower fun d hd => h d (List.mem_cons_of_mem c hd), List.map_singleton,
      toLower_toUpper hc, List.singleton_append, List.map_cons]

theorem map_toLower_runTogether {parts : List (List Char)}
    (h : ∀ word ∈ parts, ∀ c ∈ word, isAscii c = true) :
    (runTogether parts).map Char.toLower = parts.flatten.map Char.toLower := by
  cases parts with
  | nil => rfl
  | cons first later =>
    have hlater : (later.flatMap capitalize).map Char.toLower = later.flatten.map Char.toLower := by
      rw [List.map_flatMap, List.map_flatten, ← List.flatMap_def]
      exact List.flatMap_congr fun word hword =>
        map_toLower_capitalize (h word (List.mem_cons_of_mem first hword))
    rw [runTogether, List.map_append, map_toLower_lower (h first List.mem_cons_self), hlater,
      List.flatten_cons, List.map_append]

/-- A camel case name has the letters and digits that it is made from. -/
theorem map_toLower_camelCaseChars (h : ∀ c ∈ text, isAscii c = true) :
    (camelCaseChars text).map Char.toLower = (text.filter Char.isAlphanum).map Char.toLower := by
  have hfilter : text.filter isAlphanumeric = text.filter Char.isAlphanum :=
    List.filter_congr fun c hc => isAlphanumeric_of_isAscii (h c hc)
  rw [camelCaseChars_eq,
    map_toLower_runTogether fun word hword c hc => h c (mem_of_mem_words hword hc), flatten_words,
    hfilter]

theorem isUpper_of_head?_camelCaseChars (h : ∀ c ∈ text, isAscii c = true) :
    ∀ c ∈ (camelCaseChars text).head?, c.isUpper = false := by
  intro c hc
  rw [camelCaseChars_eq] at hc
  cases hwords : words text with
  | nil =>
    rw [hwords] at hc
    cases hc
  | cons first later =>
    have hfirst : first ∈ words text := hwords ▸ List.mem_cons_self
    obtain ⟨d, more, rfl⟩ := List.exists_cons_of_ne_nil (ne_nil_of_mem_words hfirst)
    rw [hwords, runTogether, lower_of_isAscii fun c hc => h c (mem_of_mem_words hfirst hc)] at hc
    obtain rfl := Option.some.inj hc
    exact isUpper_toLower (h d (mem_of_mem_words hfirst List.mem_cons_self))

end Ascii

/-- **Camel casing keeps every letter and digit.** The camel case form of an ASCII name has letters and
digits only and begins with no capital. Up to letter case they are the letters and digits of the name,
in order. What stands around its words does not matter, nor what stands between them. -/
theorem camelCase_keeps_letters {name : String} (h : ∀ c ∈ name.toList, isAscii c = true) :
    (∀ c ∈ (camelCase name).toList, c.isAlphanum = true) ∧
      (∀ c ∈ (camelCase name).toList.head?, c.isUpper = false) ∧
      (camelCase name).toList.map Char.toLower
        = (name.toList.filter Char.isAlphanum).map Char.toLower ∧
      camelCase (underscored name) = camelCase name := by
  have hletters := map_toLower_camelCaseChars h
  refine ⟨fun c hc => ?_, ?_, ?_, camelCase_underscored name⟩
  · -- in lower case the character is one of the name's letters and digits
    rw [camelCase, String.toList_ofList] at hc
    have hmem : c.toLower ∈ (camelCaseChars name.toList).map Char.toLower := List.mem_map_of_mem hc
    rw [hletters] at hmem
    obtain ⟨d, hd, hlower⟩ := List.mem_map.1 hmem
    rw [← isAlphanum_toLower, ← hlower, isAlphanum_toLower]
    exact (List.mem_filter.1 hd).2
  · rw [camelCase, String.toList_ofList]
    exact isUpper_of_head?_camelCaseChars h
  · rw [camelCase, String.toList_ofList, hletters]

/-- A name with capitals in a row, digits, and several characters between words and around them. -/
theorem camelCase_keeps_letters_mixed :
    let name := "--HTTP_Server2Port..x-9Y__"
    (∀ c ∈ name.toList, isAscii c = true) ∧ camelCase name = "httpServer2PortX9Y" ∧
      "httpServer2PortX9Y".toList.map Char.toLower
        = (name.toList.filter Char.isAlphanum).map Char.toLower ∧
      underscored name = "HTTP_Server2Port_x_9Y" ∧
      camelCase "HTTP_Server2Port_x_9Y" = "httpServer2PortX9Y" := by
  intro name
  have hascii : ∀ c ∈ name.toList, isAscii c = true := by
    unfold name
    exact List.all_eq_true.1 (by decide +kernel)
  have hcamel : camelCase name = "httpServer2PortX9Y" := by
    unfold name
    decide +kernel
  have hunderscored : underscored name = "HTTP_Server2Port_x_9Y" := by
    unfold name
    decide +kernel
  have hkeeps := camelCase_keeps_letters hascii
  rw [hunderscored, hcamel] at hkeeps
  exact ⟨hascii, hcamel, hkeeps.2.2.1, hunderscored, hkeeps.2.2.2⟩

end ConfigRefs.Text
