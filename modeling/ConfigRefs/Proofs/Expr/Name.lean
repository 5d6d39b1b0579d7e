import ConfigRefs.Proofs.Declaration.Matching
import ConfigRefs.Proofs.Expr.Restore
import ConfigRefs.Proofs.Reference.Identifier
import ConfigRefs.Proofs.Text.CamelCase

/-!
# Expr: names of generated code

The variable and the members in the expression of a reference are named after the segments of its path
(`names_ofReference`). For a reference that was found in a text the segments are names of the text, and
what spoils the name made from one is an underscore in front of nothing but separators, or of a digit
(`names_isUsable_iff`).
-/

namespace ConfigRefs.Expr

open ConfigRefs.Text ConfigRefs.Token ConfigRefs.Declaration

/-- The variable and the members that an expression names. -/
def names : Expr → List String
  | .identifier name => [name]
  | .member object property => names object ++ [property]
  | .stringLiteral _ | .template _ => []

/-- The text that the variable of a path is named after. -/
def variableSource (path : List String) : String :=
  let type := path[0]?.getD ""
  let name := path[1]?.getD ""
  match Kind.of type with
  | .variableKind | .localKind | .moduleKind => name
  | .dataKind | .resourceKind => type ++ "_" ++ name

/-- The texts that the members of a path are named after. -/
def memberSources : List String → List String
  | type :: _ :: first :: further =>
    (if Kind.of type = .moduleKind then first ++ "Output" else first) :: further
  | _ => []

/-- The texts that the variable and the members of a path are named after. -/
def nameSources (path : List String) : List String := variableSource path :: memberSources path

/-- Whether a character separates the words of a name of the text. -/
def isSeparator (c : Char) : Bool := c == '_' || c == '-'

/-- Behind the separators that a text begins with there is nothing, or a decimal digit. -/
def IsSpoiled (source : String) : Prop :=
  (source.toList.dropWhile isSeparator).head?.all Char.isDigit = true

instance (source : String) : Decidable (IsSpoiled source) := inferInstanceAs (Decidable (_ = _))

/-! ### Where names come from -/

theorem names_foldl_member : ∀ (properties : List String) (object : Expr),
    names (properties.foldl .member object) = names object ++ properties
  | [], object => by rw [List.foldl_nil, List.append_nil]
  | property :: properties, object => by
    rw [List.foldl_cons, names_foldl_member properties, names, List.append_assoc,
      List.singleton_append]

theorem variableName_eq (reference : Reference) :
    reference.variableName = camelCase (variableSource (segments reference.full)) := by
  simp only [Reference.variableName, Declaration.variableName, variableSource]
  cases Kind.of ((segments reference.full)[0]?.getD "") <;> rfl

theorem memberNames_eq :
    ∀ path : List String, memberNames path = (memberSources path).map camelCase
  | [] | [_] | [_, _] => rfl
  | type :: _ :: first :: further => by
    rw [memberNames, memberSources, List.map_cons, apply_ite camelCase]

/-- **The names in the expression of a reference** are made from the segments of its path. -/
theorem names_ofReference (reference : Reference) :
    names (ofReference reference) = (nameSources (segments reference.full)).map camelCase
      ++ if reference.useFqn then ["fqn"] else [] := by
  rw [ofReference, names_foldl_member, names, variableName_eq, memberNames_eq, nameSources,
    List.map_cons, List.cons_append, List.cons_append, List.nil_append]

/-! ### Names of the text -/

section Sources

variable {source : String}

theorem isName_append {a b : String} (ha : IsName a)
    (hb : b.toList.all continuesWord = true) : IsName (a ++ b) := by
  obtain ⟨c, rest, htext, hc, hrest⟩ := ha.exists_cons
  rw [IsName, String.toList_append, htext, List.cons_append, isName, hc, Bool.true_and,
    List.all_append, hb, Bool.and_true, List.all_eq_true]
  exact hrest

theorem isName_variableSource {type name : String} {further : List String} (htype : IsName type)
    (hname : IsName name) : IsName (variableSource (type :: name :: further)) := by
  have hboth : IsName (type ++ "_" ++ name) :=
    isName_append (isName_append htype (by decide)) (List.all_eq_true.2 hname.continuesWord)
  simp only [variableSource, List.getElem?_cons_zero, List.getElem?_cons_succ, Option.getD_some]
  split
  all_goals assumption

/-- **What a name is made from** is a name of the text, or nothing if the path of a variable, a local
value or a module ends before its name. -/
theorem isName_of_mem_nameSources {path : List String} (hpath : ∀ text ∈ path, IsName text)
    (hne : path ≠ []) (h : source ∈ nameSources path) :
    IsName source ∨ source = "" ∧ path.length = 1 := by
  match path with
  | [type] =>
    obtain rfl := List.mem_singleton.1 h
    have htype : IsName type := hpath type List.mem_cons_self
    simp only [variableSource, List.getElem?_cons_zero, List.getElem?_cons_succ,
      List.getElem?_nil, Option.getD_some, Option.getD_none]
    split
    · exact Or.inr ⟨rfl, rfl⟩
    · exact Or.inr ⟨rfl, rfl⟩
    · exact Or.inr ⟨rfl, rfl⟩
    · exact Or.inl (isName_append (isName_append htype (by decide)) (by decide))
    · exact Or.inl (isName_append (isName_append htype (by decide)) (by decide))
  | [type, name] =>
    obtain rfl := List.mem_singleton.1 h
    exact Or.inl (isName_variableSource (hpath type (by simp)) (hpath name (by simp)))
  | type :: name :: first :: further =>
    have hfirst : IsName first := hpath first (by simp)
    rcases List.mem_cons.1 h with rfl | h
    · exact Or.inl (isName_variableSource (hpath type (by simp)) (hpath name (by simp)))
    rcases List.mem_cons.1 h with rfl | h
    · split
      · exact Or.inl (isName_append hfirst (by decide))
      · exact Or.inl hfirst
    · exact Or.inl (hpath source (by simp [h]))

/-- No letter is a digit. -/
theorem isDigit_of_isAlphabetic {c : Char} (h : isAlphabetic c = true) : c.isDigit = false := by
  cases hascii : isAscii c with
  | false => exact isDigit_of_not_ascii hascii
  | true =>
    exact of_isAscii (motive := fun c => isAlphabetic c = true → c.isDigit = false)
      (by decide +kernel) hascii h

/-- In a name all characters but the separators are letters and numbers. -/
theorem leading?_eq_head? : ∀ {text : List Char}, (∀ c ∈ text, continuesWord c = true) →
    leading? text = (text.dropWhile isSeparator).head?
  | [], _ => rfl
  | c :: rest, h => by
    have hrest := leading?_eq_head? fun d hd => h d (List.mem_cons_of_mem c hd)
    have hc := h c List.mem_cons_self
    rw [leading?_cons, List.dropWhile_cons, hrest]
    cases hseparator : isSeparator c with
    | true =>
      have hother : isAlphanumeric c = false := by
        simp only [isSeparator, Bool.or_eq_true, beq_iff_eq] at hseparator
        rcases hseparator with rfl | rfl <;> decide
      rw [hother]
      rfl
    | false =>
      have halphanumeric : isAlphanumeric c = true := by
        simp only [isSeparator, Bool.or_eq_false_iff] at hseparator
        simpa [continuesWord, hseparator] using hc
      rw [halphanumeric]
      rfl

/-- **A generated name can be used iff** the name that it is made from is not spoiled. -/
theorem isUsable_camelCase_iff_not_isSpoiled (h : IsName source) :
    IsUsable (camelCase source) ↔ ¬ IsSpoiled source := by
  rw [isUsable_camelCase_iff, leading?_eq_head? h.continuesWord, IsSpoiled]
  cases (source.toList.dropWhile isSeparator).head? with
  | none => simp
  | some c => simp

/-- Only names that begin with an underscore are spoiled. -/
theorem head?_of_isSpoiled (h : IsName source) (hspoiled : IsSpoiled source) :
    source.toList.head? = some '_' := by
  obtain ⟨c, rest, htext, hc, -⟩ := h.exists_cons
  rw [htext, List.head?_cons, Option.some.injEq]
  by_contra hne
  have halphabetic : isAlphabetic c = true := by simpa [beginsWord, hne] using hc
  have hseparator : isSeparator c = false := by
    simp only [isSeparator, Bool.or_eq_false_iff, beq_eq_false_iff_ne]
    exact ⟨hne, by rintro rfl; exact absurd halphabetic (by decide)⟩
  simp [IsSpoiled, htext, hseparator, isDigit_of_isAlphabetic halphabetic] at hspoiled

end Sources

/-- **Which generated names can be used.** The names for a reference that was found in a text are not
empty and do not begin with a digit iff no name that they are made from is spoiled: one that begins with
an underscore and has nothing but separators before its end or before a digit. Nothing at all is left
to make a name from only if the path is cut off behind its first segment. -/
theorem names_isUsable_iff {input : String} {index : Index} {scope : Scope} {found : List Reference}
    (h : references input index scope = .ok found) {reference : Reference} (hmem : reference ∈ found) :
    ((∀ name ∈ names (ofReference reference), IsUsable name) ↔
        ∀ source ∈ nameSources (segments reference.full), ¬ IsSpoiled source) ∧
      ∀ source ∈ nameSources (segments reference.full), IsSpoiled source →
        source.toList.head? = some '_' ∨ (segments reference.full).length = 1 := by
  obtain ⟨traversal, htraversal, -, id, -, rfl⟩ := exists_of_mem_references h hmem
  have hpath : ∀ text ∈ segments (traversal.toReference id).full, IsName text := by
    rw [Traversal.segments_toReference htraversal]
    intro text htext
    obtain ⟨segment, hsegment, rfl⟩ := List.mem_map.1 htext
    exact Traversal.isName_of_mem_canonical htraversal hsegment
  have hsource (source : String) (hsource : source ∈ nameSources _) :=
    isName_of_mem_nameSources hpath (segments_ne_nil _) hsource
  -- a name that is made from nothing can as little be used as one that is spoiled
  have husable (source : String)
      (hmem : source ∈ nameSources (segments (traversal.toReference id).full)) :
      IsUsable (camelCase source) ↔ ¬ IsSpoiled source := by
    rcases hsource source hmem with hname | ⟨rfl, -⟩
    · exact isUsable_camelCase_iff_not_isSpoiled hname
    · decide
  constructor
  · rw [names_ofReference]
    constructor
    · intro hnames source hmem
      exact (husable source hmem).1
        (hnames _ (List.mem_append_left _ (List.mem_map_of_mem hmem)))
    · intro hsources name hname
      rcases List.mem_append.1 hname with hname | hname
      · obtain ⟨source, hmem, rfl⟩ := List.mem_map.1 hname
        exact (husable source hmem).2 (hsources source hmem)
      · split at hname
        · rw [List.mem_singleton.1 hname]
          decide
        · cases hname
  · intro source hmem hspoiled
    rcases hsource source hmem with hname | ⟨-, hlength⟩
    · exact Or.inl (head?_of_isSpoiled hname hspoiled)
    · exact Or.inr hlength

/-- The name of an output is never without letters, and an underscore in front of a letter spoils
nothing. In front of a digit it spoils the name. -/
theorem names_isUsable_iff_underscores :
    let input := "$\x7bmodule.__m._.ids\x7d-$\x7b_1net.a\x7d"
    let output : Reference := ⟨2, 18, "module.__m", "module.__m._.ids", false⟩
    let resource : Reference := ⟨22, 29, "_1net.a", "_1net.a", true⟩
    references input (Index.ofList ["module.__m", "_1net.a"]) ⟨[]⟩ = .ok [output, resource] ∧
      (∀ name ∈ names (ofReference output), IsUsable name) ∧
      ¬ ∀ name ∈ names (ofReference resource), IsUsable name := by
  intro input output resource
  have hfound : references input (Index.ofList ["module.__m", "_1net.a"]) ⟨[]⟩
      = .ok [output, resource] := by
    unfold input output resource
    decide +kernel
  have hsources : ∀ source ∈ nameSources (segments output.full), ¬ IsSpoiled source := by decide
  have hspoiled : ¬ ∀ source ∈ nameSources (segments resource.full), ¬ IsSpoiled source := by
    decide
  exact ⟨hfound, (names_isUsable_iff hfound (by simp)).1.2 hsources,
    fun hnames => hspoiled ((names_isUsable_iff hfound (by simp)).1.1 hnames)⟩

/-- An underscore in front of a digit, and one that is all of an attribute. -/
theorem names_not_isUsable :
    let value : Reference := ⟨3, 11, "var._2fa", "var._2fa", true⟩
    let resource : Reference := ⟨13, 20, "net.a", "net.a._", false⟩
    references "$\x7b[var._2fa, net.a._]\x7d" (Index.ofList ["var._2fa", "net.a"]) ⟨[]⟩
        = .ok [value, resource] ∧
      names (ofReference value) = ["2fa", "fqn"] ∧ ¬ IsUsable "2fa" ∧
      names (ofReference resource) = ["netA", ""] ∧ ¬ IsUsable "" :=
  ⟨by decide +kernel, by decide +kernel, by decide, by decide +kernel, by decide⟩

end ConfigRefs.Expr
