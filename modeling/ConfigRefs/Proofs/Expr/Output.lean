import ConfigRefs.Proofs.Expr.Name
import ConfigRefs.Proofs.Text.Letters

/-!
# Expr: outputs of modules

The first member behind a module is one of its outputs, whose name gets the suffix `Output` before it
is cut into words. Behind a small letter, a number or a separator the suffix is a word of its own
(`IsSetOff`), so the member is the camel case form of the name and then `Output`. Otherwise the suffix is
the end of the last word of the name, or the first word of all, and loses its capital
(`ofReference_output`).
-/

namespace ConfigRefs.Expr

open ConfigRefs.Text ConfigRefs.Declaration

/-- A capital behind a name begins a word that is not the first: the name has a word, and ends in a
small letter, a number, or neither a letter nor a number. -/
def IsSetOff (name : List Char) : Prop :=
  (∃ c ∈ name, isAlphanumeric c = true) ∧
    ∀ c ∈ name.getLast?, isAlphanumeric c = true → isLowercase c = true ∨ isNumeric c = true

instance (name : List Char) : Decidable (IsSetOff name) :=
  decidable_of_iff (name.any isAlphanumeric = true ∧
      name.getLast?.all (fun c => !isAlphanumeric c || (isLowercase c || isNumeric c)) = true) (by
    rw [IsSetOff, List.any_eq_true, Option.all_eq_true]
    simp only [Bool.or_eq_true, Bool.not_eq_true', ← Bool.not_eq_true, ← imp_iff_not_or]
    rfl)

/-- The access to an output of a module and to what is reached behind it. -/
def outputAccess (name member : String) (further : List String) (useFqn : Bool) : Expr :=
  (member :: further.map camelCase ++ if useFqn then ["fqn"] else []).foldl .member
    (.identifier (camelCase name))

/-! ### The suffix among the words -/

theorem words_suffix : words "Output".toList = ["Output".toList] := by decide

/-- The last word of a name goes on into a capital unless the capital is set off. -/
theorem continues_suffix (name : List Char) :
    continues name "Output".toList = true ↔
      ∃ c ∈ name.getLast?,
        isAlphanumeric c = true ∧ isLowercase c = false ∧ isNumeric c = false := by
  have hjoins (c : Char) : joins c 'O' = !(isLowercase c || isNumeric c) := by
    have hletter : isAlphanumeric 'O' = true := by decide
    have hcapital : isUppercase 'O' = true := by decide
    rw [joins, hletter, hcapital, Bool.true_and, Bool.true_and]
  rw [continues, Option.any_eq_true]
  simp [hjoins]

theorem words_append_suffix_of_isSetOff {name : List Char} (h : IsSetOff name) :
    words (name ++ "Output".toList) = words name ++ ["Output".toList] := by
  have hcontinues : ¬ continues name "Output".toList = true := by
    rw [continues_suffix]
    rintro ⟨c, hc, hletter, hsmall, hnumber⟩
    rcases h.2 c hc hletter with h | h
    · rw [hsmall] at h
      cases h
    · rw [hnumber] at h
      cases h
  rw [words_append, if_neg hcontinues, words_suffix]

theorem words_append_suffix_of_not_isSetOff {name : List Char} (h : ¬ IsSetOff name) :
    words (name ++ "Output".toList) = glue (words name) ["Output".toList] := by
  rw [words_append, words_suffix]
  split
  · rfl
  · next hcontinues =>
    -- nothing goes on into the suffix, so there is no word that it could be set off from
    have hnone : words name = [] := by
      refine words_eq_nil (List.find?_eq_none.2 fun c hc hletter => h ⟨⟨c, hc, hletter⟩, ?_⟩)
      intro d hd hend
      by_contra hother
      rw [not_or, Bool.not_eq_true, Bool.not_eq_true] at hother
      exact hcontinues ((continues_suffix name).2 ⟨d, hd, hend, hother⟩)
    rw [hnone]
    rfl

/-! ### The suffix in lower case -/

/-- The lower case form of a text with another one behind it. Only that of a capital sigma depends on what
is behind. -/
theorem exists_lowerAfter_append (before front back : List Char) :
    ∃ start,
      lowerAfter before (front ++ back) = start ++ lowerAfter (front.reverse ++ before) back ∧
      ('Σ' ∉ front → start = lowerAfter before front) := by
  induction front generalizing before with
  | nil => exact ⟨[], rfl, fun _ => rfl⟩
  | cons c front ih =>
    obtain ⟨start, hlower, hstart⟩ := ih (c :: before)
    have hbefore : (c :: front).reverse ++ before = front.reverse ++ c :: before := by
      rw [List.reverse_cons, List.append_assoc, List.singleton_append]
    rw [List.cons_append, lowerAfter, hlower, hbefore, ← List.append_assoc]
    refine ⟨_, rfl, fun hsigma => ?_⟩
    rw [List.mem_cons, not_or] at hsigma
    rw [hstart hsigma.2, lowerAfter, if_neg (Ne.symm hsigma.1), if_neg (Ne.symm hsigma.1)]

theorem exists_lower_suffix (front : List Char) :
    ∃ start, lower (front ++ "Output".toList) = start ++ "output".toList ∧
      ('Σ' ∉ front → start = lower front) := by
  have hsuffix : lowerAfter (front.reverse ++ []) "Output".toList = "output".toList :=
    (lowerAfter_of_isAscii (List.all_eq_true.1 (by decide +kernel)) _).trans (by decide)
  obtain ⟨start, hlower, hstart⟩ := exists_lowerAfter_append [] front "Output".toList
  rw [hsuffix] at hlower
  exact ⟨start, hlower, hstart⟩

theorem exists_capitalize_suffix {front : List Char} (h : front ≠ []) :
    ∃ start, capitalize (front ++ "Output".toList) = start ++ "output".toList ∧
      ('Σ' ∉ front → start = capitalize front) := by
  obtain ⟨c, front, rfl⟩ := List.exists_cons_of_ne_nil h
  obtain ⟨start, hlower, hstart⟩ := exists_lower_suffix front
  refine ⟨upper c ++ start, ?_, fun hsigma => ?_⟩
  · rw [List.cons_append, capitalize, hlower, List.append_assoc]
  · rw [hstart fun hmem => hsigma (List.mem_cons_of_mem c hmem), capitalize]

/-- **The suffix as the end of a word** is in lower case. -/
theorem exists_runTogether_glue_suffix {parts : List (List Char)}
    (h : ∀ word ∈ parts, word ≠ []) :
    ∃ start, runTogether (glue parts ["Output".toList]) = start ++ "output".toList ∧
      ((∀ word ∈ parts, 'Σ' ∉ word) → start = runTogether parts) := by
  rcases List.eq_nil_or_concat parts with rfl | ⟨front, last, rfl⟩
  · exact ⟨[], by decide, fun _ => rfl⟩
  rw [List.concat_eq_append] at h ⊢
  rw [glue_concat]
  have hlast : last ∈ front ++ [last] := List.mem_append_right front List.mem_cons_self
  by_cases hfront : front = []
  · subst hfront
    obtain ⟨start, hlower, hstart⟩ := exists_lower_suffix last
    refine ⟨start, ?_, fun hsigma => ?_⟩
    · rw [List.nil_append, runTogether, hlower, List.flatMap_nil, List.append_nil]
    · rw [hstart (hsigma last hlast), List.nil_append, runTogether, List.flatMap_nil,
        List.append_nil]
  · obtain ⟨start, hcapitalize, hstart⟩ := exists_capitalize_suffix (h last hlast)
    refine ⟨runTogether front ++ start, ?_, fun hsigma => ?_⟩
    · rw [runTogether_append hfront, List.flatMap_singleton, hcapitalize, List.append_assoc]
    · rw [runTogether_append hfront, List.flatMap_singleton, hstart (hsigma last hlast)]

/-! ### The name of an output -/

theorem camelCase_suffix_of_isSetOff {output : String} (h : IsSetOff output.toList) :
    camelCase (output ++ "Output") = camelCase output ++ "Output" := by
  have hne : words output.toList ≠ [] := by
    obtain ⟨c, hc, hletter⟩ := h.1
    exact words_ne_nil hc hletter
  have hsuffix : ["Output".toList].flatMap capitalize = "Output".toList := by decide
  rw [camelCase, camelCaseChars_eq, String.toList_append, words_append_suffix_of_isSetOff h,
    runTogether_append hne, hsuffix, String.ofList_append, String.ofList_toList, ← camelCaseChars_eq,
    ← camelCase]

theorem exists_camelCase_suffix_of_not_isSetOff {output : String} (h : ¬ IsSetOff output.toList) :
    ∃ stem, camelCase (output ++ "Output") = stem ++ "output" ∧
      ('Σ' ∉ output.toList → stem = camelCase output) := by
  have hwords (word : List Char) (hword : word ∈ words output.toList) : word ≠ [] :=
    ne_nil_of_mem_words hword
  obtain ⟨start, hrun, hstart⟩ := exists_runTogether_glue_suffix hwords
  refine ⟨String.ofList start, ?_, fun hsigma => ?_⟩
  · rw [camelCase, camelCaseChars_eq, String.toList_append, words_append_suffix_of_not_isSetOff h,
      hrun, String.ofList_append, String.ofList_toList]
  · rw [camelCase, camelCaseChars_eq,
      hstart fun word hword hmem => hsigma (mem_of_mem_words hword hmem)]

/-- A name that ends in `output` does not end in `Output`. -/
theorem append_suffix_ne (stem stem' : String) : stem ++ "output" ≠ stem' ++ "Output" := by
  intro h
  have hlist := congrArg String.toList h
  rw [String.toList_append, String.toList_append] at hlist
  have hlength : "output".toList.length = "Output".toList.length := by decide
  have hsuffix : "output".toList ≠ "Output".toList := by decide
  exact hsuffix (List.append_inj_right' hlist hlength)

theorem camelCase_suffix_iff (output : String) :
    camelCase (output ++ "Output") = camelCase output ++ "Output" ↔ IsSetOff output.toList := by
  refine ⟨fun h => ?_, camelCase_suffix_of_isSetOff⟩
  by_contra hnot
  obtain ⟨stem, hstem, -⟩ := exists_camelCase_suffix_of_not_isSetOff hnot
  exact append_suffix_ne stem (camelCase output) (hstem.symm.trans h)

theorem outputAccess_inj {name member member' : String} {further : List String} {useFqn : Bool} :
    outputAccess name member further useFqn = outputAccess name member' further useFqn ↔
      member = member' := by
  refine ⟨fun h => ?_, fun h => by rw [h]⟩
  have hnames := congrArg names h
  rw [outputAccess, outputAccess, names_foldl_member, names_foldl_member, List.append_cancel_left_eq,
    List.cons_append, List.cons_append] at hnames
  exact (List.cons.inj hnames).1

/-- **The names of module outputs.** The expression of a reference to an output is the variable of the
module, the member of the output, the further members, and the fully qualified name if the reference
stands for that. The member is the camel case form of the output's name and then `Output` iff a capital
is set off from the name. Otherwise the suffix is the end of the last word, or the only word, and so in
lower case. -/
theorem ofReference_output {reference : Reference} {name output : String} {further : List String}
    (h : segments reference.full = "module" :: name :: output :: further) :
    (ofReference reference
        = outputAccess name (camelCase output ++ "Output") further reference.useFqn ↔
      IsSetOff output.toList) ∧
    (¬ IsSetOff output.toList →
      ∃ member, ofReference reference = outputAccess name member further reference.useFqn ∧
        member.toList = runTogether (glue (words output.toList) ["Output".toList]) ∧
        ∃ stem, member = stem ++ "output" ∧
          ('Σ' ∉ output.toList → stem = camelCase output)) := by
  have haccess : ofReference reference
      = outputAccess name (camelCase (output ++ "Output")) further reference.useFqn := by
    have hkind : Kind.of "module" = .moduleKind := by decide
    rw [ofReference, h, memberNames, if_pos hkind, Reference.variableName, h]
    simp only [List.getElem?_cons_zero, List.getElem?_cons_succ, Option.getD_some,
      Declaration.variableName, hkind, outputAccess]
  rw [haccess]
  refine ⟨outputAccess_inj.trans (camelCase_suffix_iff output), fun hnot => ⟨_, rfl, ?_, ?_⟩⟩
  · rw [camelCase, String.toList_ofList, camelCaseChars_eq, String.toList_append,
      words_append_suffix_of_not_isSetOff hnot]
  · exact exists_camelCase_suffix_of_not_isSetOff hnot

/-- Behind `IDs` the suffix is a word of its own, and behind `ID` it is not. -/
theorem ofReference_output_capitals :
    let ids : Reference := ⟨2, 33, "module.My-vpc", "module.My-vpc.subnet_IDs.first2", true⟩
    let id : Reference := ⟨2, 24, "module.My-vpc", "module.My-vpc.subnet_ID", false⟩
    segments ids.full = ["module", "My-vpc", "subnet_IDs", "first2"] ∧
      ofReference ids = outputAccess "My-vpc" "subnetIdsOutput" ["first2"] true ∧
      segments id.full = ["module", "My-vpc", "subnet_ID"] ∧
      ofReference id = outputAccess "My-vpc" "subnetIdoutput" [] false := by
  intro ids id
  have hids : segments ids.full = ["module", "My-vpc", "subnet_IDs", "first2"] := by decide
  have hid : segments id.full = ["module", "My-vpc", "subnet_ID"] := by decide
  have hcamel : camelCase "subnet_IDs" ++ "Output" = "subnetIdsOutput" := by decide +kernel
  have hcamel' : camelCase "subnet_ID" ++ "output" = "subnetIdoutput" := by decide +kernel
  obtain ⟨member, hmember, -, stem, rfl, hstem⟩ := (ofReference_output hid).2 (by decide)
  rw [hstem (by decide), hcamel'] at hmember
  have haccess := (ofReference_output hids).1.2 (by decide)
  rw [hcamel] at haccess
  exact ⟨hids, haccess, hid, hmember⟩

/-- An output with a name in capitals. -/
theorem output_without_capital :
    let output : Reference := ⟨2, 15, "module.vpc", "module.vpc.ID", false⟩
    references "$\x7bmodule.vpc.ID\x7d" (Index.ofList ["module.vpc"]) ⟨[]⟩ = .ok [output] ∧
      segments output.full = ["module", "vpc", "ID"] ∧
      ofReference output = .member (.identifier "vpc") "idoutput" ∧
      outputAccess "vpc" (camelCase "ID" ++ "Output") [] false
        = .member (.identifier "vpc") "idOutput" ∧
      ofReference output ≠ outputAccess "vpc" (camelCase "ID" ++ "Output") [] false := by
  intro output
  have hreference : ofReference output = .member (.identifier "vpc") "idoutput" := by
    unfold output
    with_unfolding_all rfl
  have haccess : outputAccess "vpc" (camelCase "ID" ++ "Output") [] false
      = .member (.identifier "vpc") "idOutput" := by with_unfolding_all rfl
  refine ⟨by unfold output; decide +kernel, by decide, hreference, haccess, ?_⟩
  rw [hreference, haccess]
  intro h
  exact absurd (Expr.member.inj h).2 (by decide)

end ConfigRefs.Expr
