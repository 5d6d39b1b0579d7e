import ConfigRefs.Proofs.Results
import ConfigRefs.Proofs.Value.LoopScope

/-!
# Value: the references of a value

The references of a value are those of the strings that a walk reports, each string with the scope
that the walk hands over (`usedReferences_eq`). So they cannot be found exactly because of a traversal
of a reported string that cannot be resolved (`exists_of_usedReferences_eq_error`).
-/

namespace ConfigRefs.Value

open ConfigRefs.Declaration

theorem run_forM_collectReferences (index : Index) : ∀ (made : List (String × Scope))
    (log : List Reference),
    (made.forM fun call => collectReferences index call.1 call.2).run log
      = (fun found => ((), log ++ found.flatten)) <$>
          made.mapM fun call => references call.1 index call.2
  | [], log => by
    rw [List.mapM_nil, List.forM_eq_forM, List.forM_nil]
    exact congrArg (fun found => Except.ok ((), found)) (List.append_nil log).symm
  | call :: made, log => by
    have ih := run_forM_collectReferences index made
    rw [List.forM_eq_forM] at ih ⊢
    rw [List.forM_cons, List.mapM_cons, StateT.run_bind]
    cases hfirst : references call.1 index call.2 with
    | error e =>
      have hcollect : (collectReferences index call.1 call.2).run log = .error e := by
        simp only [collectReferences, hfirst]
        rfl
      rw [hcollect]
      rfl
    | ok found =>
      have hcollect : (collectReferences index call.1 call.2).run log = .ok ((), log ++ found) := by
        simp only [collectReferences, hfirst]
        rfl
      have hrest := ih (log ++ found)
      rw [hcollect]
      refine Eq.trans hrest ?_
      cases made.mapM fun call => references call.1 index call.2 with
      | error e => rfl
      | ok others =>
        exact congrArg (fun all => Except.ok ((), all)) (by rw [List.flatten_cons, List.append_assoc])

/-- **The references of a value** are those of the calls that a walk makes, one after the other. -/
theorem usedReferences_eq (index : Index) (value : Value) :
    value.usedReferences index
      = List.flatten <$> (calls .empty value).mapM fun call => references call.1 index call.2 := by
  rw [usedReferences, visitStrings_eq_forM_calls, run_forM_collectReferences]
  cases (calls .empty value).mapM fun call => references call.1 index call.2 <;> rfl

/-- References depend on an index only through what it finds. -/
theorem references_congr {a b : Index} (h : a.lookup? = b.lookup?) (input : String) (scope : Scope) :
    references input a scope = references input b scope := by
  have hresolve : Traversal.resolve input a scope = Traversal.resolve input b scope := by
    funext traversal
    rw [Traversal.resolve, Traversal.resolve, h]
  rw [references, references, hresolve]

theorem usedReferences_congr {a b : Index} (h : a.lookup? = b.lookup?) (value : Value) :
    value.usedReferences a = value.usedReferences b := by
  simp only [usedReferences_eq, references_congr h]

/-- A value of which one string is reported has the references of that. -/
theorem usedReferences_of_reported {index : Index} {value : Value} {address : Address}
    {text : String} (h : value.whole.reported = [(address, text)]) :
    value.usedReferences index = references text index (scopeAt .empty value address) := by
  rw [usedReferences_eq, calls_eq_reported, h, List.map_singleton, List.mapM_cons]
  cases references text index (scopeAt .empty value address) with
  | error e => rfl
  | ok found => exact congrArg Except.ok (List.append_nil found)

theorem usedReferences_string (index : Index) (text : String) :
    (Value.string text).usedReferences index = references text index .empty := by
  have hreported : (Value.string text).whole.reported = [([], text)] := rfl
  exact usedReferences_of_reported hreported

theorem usedReferences_null (index : Index) : Value.null.usedReferences index = .ok [] := by
  rw [usedReferences_eq, calls_null]
  rfl

theorem exists_of_references_eq_error {input : String} {index : Index} {scope : Scope}
    {error : ResolveError} (h : references input index scope = .error error) :
    ∃ traversal ∈ Traversal.traversals input,
      traversal.resolve input index scope = .error error :=
  exists_of_mapM_eq_error (map_eq_error_iff.1 h)

/-- **References of a value that cannot be found** fail in a traversal of a reported string. -/
theorem exists_of_usedReferences_eq_error {index : Index} {value : Value} {error : ResolveError}
    (h : value.usedReferences index = .error error) :
    ∃ address text, (address, text) ∈ value.whole.reported ∧
      ∃ traversal ∈ Traversal.traversals text,
        traversal.resolve text index (scopeAt .empty value address) = .error error := by
  rw [usedReferences_eq, map_eq_error_iff] at h
  obtain ⟨call, hcall, hreferences⟩ := exists_of_mapM_eq_error h
  rw [calls_eq_reported] at hcall
  obtain ⟨⟨address, text⟩, hreported, rfl⟩ := List.mem_map.1 hcall
  exact ⟨address, text, hreported, exists_of_references_eq_error hreferences⟩

end ConfigRefs.Value
