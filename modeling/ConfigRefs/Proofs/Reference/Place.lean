import ConfigRefs.Proofs.Reference.Resolution
import ConfigRefs.Proofs.Traversal.Place

/-!
# Reference: the places of references

The references of a text are made by some of its traversals, in the order of those
(`exists_of_references`). So they have both ends between characters of the text
(`isPlaced_of_mem_references`) and lie one behind the other (`pairwise_references`).
-/

namespace ConfigRefs

open ConfigRefs.Text ConfigRefs.Declaration

namespace Traversal

/-! ### The place of one reference -/

/-- The canonical segments are the first of a traversal, and at least one. -/
theorem exists_canonical {traversal : Traversal} (h : traversal.head.numeric = false) :
    ∃ steps, traversal.canonical = traversal.head :: steps ∧ steps <+: traversal.steps := by
  unfold canonical
  split
  · next position hposition =>
    -- the first segment is no number, so the first number is behind it
    rw [segments, List.findIdx?_cons, h, if_neg Bool.false_ne_true] at hposition
    obtain ⟨before, -, rfl⟩ := Option.map_eq_some_iff.1 hposition
    obtain ⟨more, hmore⟩ : ∃ more, min (before + 1) 2 = more + 1 := ⟨min before 1, by omega⟩
    rw [hmore, segments, List.take_succ_cons]
    exact ⟨_, rfl, List.take_prefix _ _⟩
  · exact ⟨traversal.steps, rfl, List.prefix_refl _⟩

/-- The reference of a traversal goes from its first segment to one of its segments. -/
theorem exists_of_toReference {traversal : Traversal} (h : traversal.head.numeric = false)
    (id : String) : ∃ last ∈ traversal.segments,
      (traversal.toReference id).start = traversal.head.start ∧
        (traversal.toReference id).stop = last.stop := by
  obtain ⟨steps, hcanonical, hsteps⟩ := exists_canonical h
  obtain ⟨last, hlast⟩ : ∃ last, (traversal.head :: steps).getLast? = some last :=
    ⟨_, List.getLast?_eq_some_getLast (List.cons_ne_nil _ _)⟩
  refine ⟨last, ?_, ?_, ?_⟩
  · rcases List.mem_cons.1 (List.mem_of_getLast? hlast) with rfl | hmem
    · exact List.mem_cons_self
    · exact List.mem_cons_of_mem _ (hsteps.subset hmem)
  · rw [toReference, hcanonical]
    rfl
  · simp only [toReference, hcanonical, hlast, Option.map_some, Option.getD_some]

end Traversal

/-! ### The references of a text -/

/-- **References are made by some of the traversals, in the order of those.** -/
theorem exists_of_forall₂_resolve {input : String} {index : Index} {scope : Scope}
    {traversals : List Traversal} {resolved : List (Option Reference)}
    (h : List.Forall₂ (fun traversal made => traversal.resolve input index scope = .ok made)
      traversals resolved) :
    ∃ kept : List (Traversal × String), (kept.map Prod.fst).Sublist traversals ∧
      resolved.filterMap id = kept.map fun made => made.1.toReference made.2 := by
  induction h with
  | nil => exact ⟨[], List.Sublist.refl _, rfl⟩
  | @cons traversal first rest others hfirst _ ih =>
    obtain ⟨kept, hkept, heq⟩ := ih
    cases first with
    | none => exact ⟨kept, hkept.cons traversal, heq⟩
    | some reference =>
      obtain ⟨-, id, -, rfl⟩ := Traversal.resolve_eq_some_iff.1 hfirst
      refine ⟨(traversal, id) :: kept, hkept.cons_cons traversal, ?_⟩
      rw [List.filterMap_cons, id_eq, heq, List.map_cons]

theorem exists_of_references {input : String} {index : Index} {scope : Scope}
    {found : List Reference} (h : references input index scope = .ok found) :
    ∃ kept : List (Traversal × String), (kept.map Prod.fst).Sublist (Traversal.traversals input) ∧
      found = kept.map fun made => made.1.toReference made.2 := by
  obtain ⟨resolved, hresolved, rfl⟩ := references_eq_ok_iff_forall₂.1 h
  exact exists_of_forall₂_resolve hresolved

/-- A reference covers some of a text, from one boundary between characters to another. -/
structure Reference.IsPlaced (text : List Char) (reference : Reference) : Prop where
  isBoundary_start : IsBoundary text reference.start
  isBoundary_stop : IsBoundary text reference.stop
  start_lt_stop : reference.start < reference.stop

section References

variable {input : String} {index : Index} {scope : Scope} {found : List Reference}

theorem Traversal.isPlaced_toReference {traversal : Traversal}
    (hmem : traversal ∈ Traversal.traversals input) (id : String) :
    (traversal.toReference id).IsPlaced input.toList := by
  obtain ⟨last, hlast, hstart, hstop⟩ :=
    Traversal.exists_of_toReference (Traversal.head_numeric_of_mem_traversals hmem) id
  have hhead := Traversal.isPlaced_of_mem_traversals hmem List.mem_cons_self
  have hplaced := Traversal.isPlaced_of_mem_traversals hmem hlast
  have hlt : traversal.head.start < last.stop := by
    have hpairwise : traversal.segments.Pairwise fun a b => a.stop ≤ b.start :=
      (List.pairwise_flatMap.1 (Traversal.pairwise_traversals input)).1 traversal hmem
    rcases List.mem_cons.1 hlast with rfl | hmem
    · exact hhead.start_lt_stop
    · have := List.rel_of_pairwise_cons hpairwise hmem
      have := hhead.start_lt_stop
      have := hplaced.start_lt_stop
      omega
  refine ⟨?_, ?_, ?_⟩
  · rw [hstart]
    exact hhead.standsAt.isBoundary_start
  · rw [hstop, hplaced.stop_eq]
    exact hplaced.standsAt.isBoundary_stop
  · rw [hstart, hstop]
    exact hlt

/-- **References have both ends between characters.** -/
theorem isPlaced_of_mem_references (h : references input index scope = .ok found)
    {reference : Reference} (hmem : reference ∈ found) : reference.IsPlaced input.toList := by
  obtain ⟨kept, hkept, rfl⟩ := exists_of_references h
  obtain ⟨made, hmade, rfl⟩ := List.mem_map.1 hmem
  exact Traversal.isPlaced_toReference (hkept.subset (List.mem_map.2 ⟨made, hmade, rfl⟩)) made.2

/-- **Each reference lies behind the one before.** -/
theorem pairwise_references (h : references input index scope = .ok found) :
    found.Pairwise fun a b => a.stop ≤ b.start := by
  obtain ⟨kept, hkept, rfl⟩ := exists_of_references h
  have hpairwise : kept.Pairwise fun a b =>
      ∀ x ∈ a.1.segments, ∀ y ∈ b.1.segments, x.stop ≤ y.start :=
    List.pairwise_map.1
      ((List.pairwise_flatMap.1 (Traversal.pairwise_traversals input)).2.sublist hkept)
  have hnumeric : ∀ made ∈ kept, made.1.head.numeric = false := fun made hmade =>
    Traversal.head_numeric_of_mem_traversals (hkept.subset (List.mem_map.2 ⟨made, hmade, rfl⟩))
  refine List.pairwise_map.2 (hpairwise.imp_of_mem fun {a b} ha hb hle => ?_)
  obtain ⟨last, hlast, -, hstop⟩ := Traversal.exists_of_toReference (hnumeric a ha) a.2
  obtain ⟨-, -, hstart, -⟩ := Traversal.exists_of_toReference (hnumeric b hb) b.2
  rw [hstop, hstart]
  exact hle last hlast b.1.head List.mem_cons_self

end References

end ConfigRefs
