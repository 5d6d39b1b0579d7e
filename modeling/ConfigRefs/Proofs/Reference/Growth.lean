import ConfigRefs.Proofs.Declaration.Growth
import ConfigRefs.Proofs.Reference.Resolution

/-!
# Reference: what resolves when more is known

A traversal that makes a reference, or none, still does when more identifiers and more loop variables
are known (`Traversal.resolve_of_subset`). So references that are found are found again, each with an
identifier that may have got one more segment, and others may lie between them
(`references_of_subset`).
-/

namespace ConfigRefs

open ConfigRefs.Text ConfigRefs.Declaration

/-- A reference is another one, apart from its identifier: this may go on with the second segment of
the traversal that both are made from. -/
def Reference.Sharpens (input : String) (reference sharper : Reference) : Prop :=
  sharper = { reference with id := sharper.id } ∧
    ∃ traversal ∈ Traversal.traversals input, reference = traversal.toReference reference.id ∧
      ExtendsAlong traversal.texts reference.id sharper.id

section Growth

variable {input : String} {scope wider : Scope} {found : List Reference}

/-- **One traversal**: what it makes is made again when more is known, or sharper. -/
theorem Traversal.resolve_of_subset (a b : ConsistentIndex)
    (hsubset : a.identifiers ⊆ b.identifiers) (hscope : scope.names ⊆ wider.names)
    {traversal : Traversal} (hmem : traversal ∈ Traversal.traversals input)
    {made : Option Reference} (h : traversal.resolve input a.toIndex scope = .ok made) :
    ∃ others, traversal.resolve input b.toIndex wider = .ok others ∧
      ∀ reference ∈ made, ∃ sharper ∈ others, reference.Sharpens input sharper := by
  cases made with
  | some reference =>
    obtain ⟨hlive, id, hlookup, rfl⟩ := Traversal.resolve_eq_some_iff.1 h
    obtain ⟨longer, hlonger, hextends⟩ := ConsistentIndex.lookup?_of_subset a b hsubset hlookup
    refine ⟨some (traversal.toReference longer),
      Traversal.resolve_eq_some_iff.2 ⟨hlive, longer, hlonger, rfl⟩, fun reference hreference => ?_⟩
    obtain rfl := Option.some.inj hreference
    exact ⟨_, rfl, rfl, traversal, hmem, rfl, hextends⟩
  | none =>
    have hnone := Traversal.resolve_eq_none_iff.1 h
    cases hlookup : b.lookup? traversal.texts with
    | none =>
      refine ⟨none, Traversal.resolve_eq_none_iff.2 fun hlive => ⟨hlookup, ?_⟩, nofun⟩
      exact Scope.lookup?_isSome_of_subset hscope (hnone hlive).2
    | some id =>
      cases hlive : traversal.isLive with
      | true =>
        exact ⟨some (traversal.toReference id),
          Traversal.resolve_eq_some_iff.2 ⟨hlive, id, hlookup, rfl⟩, nofun⟩
      | false =>
        refine ⟨none, Traversal.resolve_eq_none_iff.2 fun hrefers => ?_, nofun⟩
        rw [hlive] at hrefers
        cases hrefers

/-- If the same is known, a traversal makes the same with more loop variables. -/
theorem Traversal.resolve_of_scope_subset {a b : Index} (hsame : a.lookup? = b.lookup?)
    (hscope : scope.names ⊆ wider.names) {traversal : Traversal} {made : Option Reference}
    (h : traversal.resolve input a scope = .ok made) :
    traversal.resolve input b wider = .ok made := by
  cases made with
  | some reference =>
    rw [Traversal.resolve_eq_some_iff, hsame] at h
    exact Traversal.resolve_eq_some_iff.2 h
  | none =>
    rw [Traversal.resolve_eq_none_iff, hsame] at h
    exact Traversal.resolve_eq_none_iff.2 fun hlive =>
      ⟨(h hlive).1, Scope.lookup?_isSome_of_subset hscope (h hlive).2⟩

theorem references_of_scope_subset {a b : Index} (hsame : a.lookup? = b.lookup?)
    (hscope : scope.names ⊆ wider.names) (h : references input a scope = .ok found) :
    references input b wider = .ok found := by
  obtain ⟨resolved, hresolved, hfound⟩ := references_eq_ok_iff_forall₂.1 h
  refine references_eq_ok_iff_forall₂.2 ⟨resolved, hresolved.imp fun traversal made hmade => ?_, hfound⟩
  exact Traversal.resolve_of_scope_subset hsame hscope hmade

end Growth

/-- **Knowing more never breaks a text that resolves.** With more identifiers and more loop variables
the references are found again, in the same order and at the same places, each to the same identifier
or to one that has the second segment of its traversal behind it. Without more identifiers the
references are the same. -/
theorem references_of_subset {known more : List String} {scope wider : Scope}
    (hknown : known ⊆ more) (hscope : scope.names ⊆ wider.names) {input : String}
    {found : List Reference} (h : references input (Index.ofList known) scope = .ok found) :
    ∃ others, references input (Index.ofList more) wider = .ok others ∧
      (∃ kept, kept.Sublist others ∧ List.Forall₂ (Reference.Sharpens input) found kept) ∧
      (more ⊆ known → others = found) := by
  have hsubset : (Index.ofList known).identifiers ⊆ (Index.ofList more).identifiers := fun id hid =>
    (Index.mem_ofList more id).2 (hknown ((Index.mem_ofList known id).1 hid))
  obtain ⟨resolved, hresolved, rfl⟩ := references_eq_ok_iff_forall₂.1 h
  obtain ⟨wide, hwide, kept, hkept, hsharpens⟩ := exists_forall₂_sublist hresolved
    fun traversal hmem made hmade => Traversal.resolve_of_subset (.ofList known)
      (.ofList more) hsubset hscope hmem hmade
  have hothers : references input (Index.ofList more) wider = .ok (wide.filterMap id) :=
    references_eq_ok_iff_forall₂.2 ⟨wide, hwide, rfl⟩
  refine ⟨wide.filterMap id, hothers, ⟨kept, hkept, hsharpens⟩, fun hmore => ?_⟩
  have hsame : (Index.ofList known).lookup? = (Index.ofList more).lookup? := by
    refine ConsistentIndex.lookup?_congr (.ofList known) (.ofList more) fun id => ?_
    rw [Index.mem_ofList, Index.mem_ofList]
    exact ⟨fun hid => hknown hid, fun hid => hmore hid⟩
  have hfound := references_of_scope_subset hsame hscope h
  rw [hothers] at hfound
  exact Except.ok.inj hfound

/-- A loop variable becomes an identifier, and an identifier of one segment gives way to a longer one. -/
theorem references_of_subset_longer :
    let known := ["rule", "var.x"]
    let more := ["var.x", "eth.v", "rule.port", "rule"]
    let text := "$\x7brule.port.to + eth.v + var.x\x7d"
    known ⊆ more ∧
      references text (Index.ofList known) ⟨["eth"]⟩ = .ok
        [⟨2, 14, "rule", "rule.port.to", false⟩, ⟨25, 30, "var.x", "var.x", true⟩] ∧
      ∃ others, references text (Index.ofList more) ⟨["eth", "var"]⟩ = .ok others ∧
        ∃ kept, kept.Sublist others ∧ List.Forall₂ (Reference.Sharpens text)
          [⟨2, 14, "rule", "rule.port.to", false⟩, ⟨25, 30, "var.x", "var.x", true⟩] kept := by
  intro known more text
  have hknown : known ⊆ more := by decide
  have hscope : ["eth"] ⊆ ["eth", "var"] := by decide
  have hfound : references text (Index.ofList known) ⟨["eth"]⟩ = .ok
      [⟨2, 14, "rule", "rule.port.to", false⟩, ⟨25, 30, "var.x", "var.x", true⟩] := by
    unfold text known
    decide +kernel
  obtain ⟨others, hothers, hkept, -⟩ := references_of_subset hknown hscope hfound
  exact ⟨hknown, hfound, others, hothers, hkept⟩

end ConfigRefs
