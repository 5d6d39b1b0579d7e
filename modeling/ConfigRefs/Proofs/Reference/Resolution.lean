import ConfigRefs.Reference.Resolution
import ConfigRefs.Proofs.Results

/-!
# Reference: what one traversal makes

A live traversal that the index finds makes a reference (`Traversal.resolve_eq_some_iff`), one that
neither the index nor the scope finds is an error (`Traversal.resolve_eq_error_iff`), and all others
make nothing (`Traversal.resolve_eq_none_iff`). The references of a text are those of its traversals
(`references_eq_ok_iff_forall₂`, `exists_of_mem_references`).
-/

namespace ConfigRefs

open ConfigRefs.Text ConfigRefs.Declaration

namespace Traversal

variable {input : String} {index : Index} {scope : Scope} {traversal : Traversal}

theorem resolve_eq_some_iff {reference : Reference} :
    traversal.resolve input index scope = .ok (some reference) ↔ traversal.isLive = true ∧
      ∃ id, index.lookup? traversal.texts = some id ∧ reference = traversal.toReference id := by
  unfold resolve
  cases traversal.isLive with
  | false => simp
  | true =>
    cases index.lookup? traversal.texts with
    | some id => simp [eq_comm]
    | none => cases (scope.lookup? traversal.texts).isSome <;> simp

theorem resolve_eq_none_iff : traversal.resolve input index scope = .ok none ↔
    (traversal.isLive = true → index.lookup? traversal.texts = none ∧
      (scope.lookup? traversal.texts).isSome = true) := by
  unfold resolve
  cases traversal.isLive with
  | false => simp
  | true =>
    cases index.lookup? traversal.texts with
    | some id => simp
    | none => cases (scope.lookup? traversal.texts).isSome <;> simp

theorem resolve_eq_error_iff {error : ResolveError} :
    traversal.resolve input index scope = .error error ↔ traversal.isLive = true ∧
      index.lookup? traversal.texts = none ∧ scope.lookup? traversal.texts = none ∧
        error = .unresolvable traversal.render input scope.names := by
  unfold resolve
  cases traversal.isLive with
  | false => simp
  | true =>
    cases index.lookup? traversal.texts with
    | some id => simp
    | none => cases scope.lookup? traversal.texts <;> simp [eq_comm]

end Traversal

section References

variable {input : String} {index : Index} {scope : Scope} {found : List Reference}

/-- References are found iff every traversal can be resolved. -/
theorem references_eq_ok_iff_forall₂ : references input index scope = .ok found ↔
    ∃ resolved, List.Forall₂ (fun traversal made => traversal.resolve input index scope = .ok made)
      (Traversal.traversals input) resolved ∧ resolved.filterMap id = found := by
  rw [references, map_eq_ok_iff]
  exact exists_congr fun resolved => and_congr_left fun _ => mapM_eq_ok_iff

/-- **A reference is that of a live traversal** to what the index finds for it. -/
theorem exists_of_mem_references (h : references input index scope = .ok found)
    {reference : Reference} (hmem : reference ∈ found) :
    ∃ traversal ∈ Traversal.traversals input, traversal.isLive = true ∧
      ∃ id, index.lookup? traversal.texts = some id ∧ reference = traversal.toReference id := by
  obtain ⟨resolved, hresolved, rfl⟩ := references_eq_ok_iff_forall₂.1 h
  obtain ⟨made, hmade, rfl⟩ := List.mem_filterMap.1 hmem
  obtain ⟨traversal, htraversal, hresolve⟩ := exists_of_mem_results hresolved hmade
  exact ⟨traversal, htraversal, Traversal.resolve_eq_some_iff.1 hresolve⟩

end References

end ConfigRefs
