import ConfigRefs.Proofs.Declaration.Scope
import ConfigRefs.Proofs.Value.References

/-!
# Value: loop variables inside of their blocks

A traversal that begins with the loop variable of a block around it is resolved to a declaration or
left out, so it is never unknown (`loopVariable_known_unless_mistaken`). The exception is a traversal of
the loop variable `data` that is mistaken for one of a data source (`loopVariable_data_unknown`).
-/

namespace ConfigRefs

open ConfigRefs.Text ConfigRefs.Declaration

/-- **What a traversal of a loop variable makes.** -/
theorem Traversal.resolve_loopVariable {input name : String} {index : Index} {scope : Scope}
    {traversal : Traversal} (hmem : name ∈ scope.names) (hfree : DotFree name)
    (hhead : traversal.head.text = name) :
    traversal.resolve input index scope
      = if traversal.isLive = true ∧ index.lookup? traversal.texts = none
            ∧ scope.MistakesForData traversal.texts
          then .error (.unresolvable traversal.render input scope.names)
        else .ok (if traversal.isLive then (index.lookup? traversal.texts).map traversal.toReference
          else none) := by
  have hfirst : traversal.texts.head? = some name := by rw [← hhead]; rfl
  have hscope := Scope.lookup?_eq_none_iff hmem hfree hfirst
  unfold resolve
  cases hlive : traversal.isLive with
  | false => simp
  | true =>
    cases hindex : index.lookup? traversal.texts with
    | some id => simp
    | none =>
      by_cases hmistaken : scope.MistakesForData traversal.texts
      · simp [hmistaken, hscope.2 hmistaken]
      · simp [hmistaken, Option.isSome_iff_ne_none, mt hscope.1 hmistaken]

namespace Value

theorem loopVariable_mem_scopeAt {scope : Scope} {value : Value} {address : Address}
    {block : DeclaredBlock} (h : block ∈ value.whole.blocksAround address) :
    block.loopVariable ∈ (scopeAt scope value address).names :=
  List.mem_append_right _ (List.mem_map.2 ⟨block, h, rfl⟩)

/-- **A loop variable is known inside of its block**, at any depth and for traversals of any length,
unless it is mistaken for a data source: a traversal that begins with it is resolved to a declaration
or left out, and what makes the references of a value fail is none of these traversals. -/
theorem loopVariable_known_unless_mistaken (index : Index) (value : Value) :
    (∀ (address : Address) (text : String), (address, text) ∈ located value →
      ∀ block ∈ value.whole.blocksAround address, DotFree block.loopVariable →
        ∀ traversal ∈ Traversal.traversals text, traversal.head.text = block.loopVariable →
          let scope := scopeAt .empty value address
          traversal.resolve text index scope
            = if traversal.isLive = true ∧ index.lookup? traversal.texts = none
                  ∧ scope.MistakesForData traversal.texts
                then .error (.unresolvable traversal.render text scope.names)
              else .ok (if traversal.isLive
                then (index.lookup? traversal.texts).map traversal.toReference else none)) ∧
    ∀ error, value.usedReferences index = .error error →
      ∃ address text, (address, text) ∈ value.whole.reported ∧
        ∃ traversal ∈ Traversal.traversals text,
          traversal.resolve text index (scopeAt .empty value address) = .error error ∧
          ∀ block ∈ value.whole.blocksAround address, DotFree block.loopVariable →
            traversal.head.text = block.loopVariable →
              (scopeAt .empty value address).MistakesForData traversal.texts := by
  refine ⟨fun address text _ block hblock hfree traversal _ hhead =>
    Traversal.resolve_loopVariable (loopVariable_mem_scopeAt hblock) hfree hhead, ?_⟩
  intro error herror
  obtain ⟨address, text, hreported, traversal, htraversal, hresolve⟩ :=
    exists_of_usedReferences_eq_error herror
  refine ⟨address, text, hreported, traversal, htraversal, hresolve, ?_⟩
  intro block hblock hfree hhead
  by_contra hmistaken
  rw [Traversal.resolve_loopVariable (loopVariable_mem_scopeAt hblock) hfree hhead,
    if_neg fun h => hmistaken h.2.2] at hresolve
  cases hresolve

/-- Two blocks, one in the other: a traversal of the inner loop variable is left out, one of the outer
loop variable `data` is resolved to a declaration. -/
theorem loopVariable_known_nested :
    let text := "$\x7brule.value.port.to\x7d $\x7bdata.value.to.id\x7d"
    let value : Value := .object [("dynamic", .array [.object [("data", .object [("content", .object
      [("dynamic", .object [("rule", .array [.object [("port", .string text)]])])])])]])]
    (text ∈ value.whole.reported.map Prod.snd) ∧
      scopeAt .empty value [0, 0, 0, 0, 0, 0, 0, 0] = ⟨["data", "rule"]⟩ ∧
      (Traversal.traversals text).map (·.resolve text (Index.ofList ["data.value.to"])
          ⟨["data", "rule"]⟩)
        = [.ok none, .ok (some ⟨24, 40, "data.value.to", "data.value.to.id", false⟩)] := by
  intro text value
  have htraversals : Traversal.traversals text
      = [⟨⟨"rule", 2, 6, false⟩,
          [⟨"value", 7, 12, false⟩, ⟨"port", 13, 17, false⟩, ⟨"to", 18, 20, false⟩], none⟩,
        ⟨⟨"data", 24, 28, false⟩,
          [⟨"value", 29, 34, false⟩, ⟨"to", 35, 37, false⟩, ⟨"id", 38, 40, false⟩], none⟩] := by
    unfold text
    decide +kernel
  have hscope : scopeAt .empty value [0, 0, 0, 0, 0, 0, 0, 0] = ⟨["data", "rule"]⟩ := by
    decide +kernel
  have hknown := (loopVariable_known_unless_mistaken (Index.ofList ["data.value.to"]) value).1
    [0, 0, 0, 0, 0, 0, 0, 0] text (by decide +kernel)
  rw [hscope, htraversals] at hknown
  have hrule := hknown ⟨"rule", _⟩ (List.mem_cons_of_mem _ List.mem_cons_self) (by decide +kernel) _
    List.mem_cons_self rfl
  have hdata := hknown ⟨"data", _⟩ List.mem_cons_self (by decide +kernel) _
    (List.mem_cons_of_mem _ List.mem_cons_self) rfl
  refine ⟨by decide +kernel, hscope, ?_⟩
  rw [htraversals, List.map_cons, List.map_singleton, hrule, hdata]
  rfl

/-- A traversal of the loop variable `data` with three segments is unknown inside of its block. -/
theorem loopVariable_data_unknown :
    let text := "$\x7bdata.value.id\x7d"
    let value : Value :=
      .object [("dynamic", .object [("data", .object [("content", .string text)])])]
    ([0, 0, 0], text) ∈ located value ∧
      (value.whole.blocksAround [0, 0, 0]).map (·.loopVariable) = ["data"] ∧
      (Traversal.traversals text).map Traversal.texts = [["data", "value", "id"]] ∧
      value.usedReferences .empty = .error (.unresolvable "data.value.id" text ["data"]) := by
  intro text value
  have htraversals : Traversal.traversals text
      = [⟨⟨"data", 2, 6, false⟩, [⟨"value", 7, 12, false⟩, ⟨"id", 13, 15, false⟩], none⟩] := by
    unfold text
    decide +kernel
  have hreported : value.whole.reported = [([0, 0, 0], text)] := by decide +kernel
  have hscope : scopeAt .empty value [0, 0, 0] = ⟨["data"]⟩ := by decide +kernel
  have hreferences : references text .empty ⟨["data"]⟩
      = .error (.unresolvable "data.value.id" text ["data"]) := by
    rw [references, htraversals]
    rfl
  refine ⟨by decide +kernel, by decide +kernel, by rw [htraversals]; rfl, ?_⟩
  rw [usedReferences_of_reported hreported, hscope, hreferences]

end Value

end ConfigRefs
