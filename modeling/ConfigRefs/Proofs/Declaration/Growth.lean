import ConfigRefs.Proofs.Declaration.Run

/-!
# Declaration: what is known when more is known

An index that knows more still finds something for each traversal for which it found something: the
same identifier, or one that goes on with the second segment of the traversal
(`ConsistentIndex.lookup?_of_subset`). A scope with more loop variables matches whatever it matched
(`Scope.lookup?_isSome_of_subset`).
-/

namespace ConfigRefs.Declaration

open ConfigRefs.Text

/-- An identifier is another one, or that with the second segment of a traversal behind it. -/
def ExtendsAlong (path : List String) (identifier longer : String) : Prop :=
  longer = identifier ∨ ∃ second, path[1]? = some second ∧ longer = identifier ++ "." ++ second

section Index

variable {known more path : List String} {identifier : String}

theorem named?_of_subset (hsubset : known ⊆ more) (h : named? known path = some identifier) :
    named? more path = some identifier := by
  obtain ⟨hmem, hsegments⟩ := named?_eq_some_iff.1 h
  exact named?_eq_some_iff.2 ⟨hsubset hmem, hsegments⟩

/-- **An index that knows more** finds the same, or an identifier with one more segment. -/
theorem ConsistentIndex.lookup?_of_subset (a b : ConsistentIndex)
    (hsubset : a.identifiers ⊆ b.identifiers) (h : a.lookup? path = some identifier) :
    ∃ longer, b.lookup? path = some longer ∧ ExtendsAlong path identifier longer := by
  rcases path with _ | ⟨first, rest⟩
  · cases h
  by_cases hdata : first = "data"
  · subst hdata
    rw [lookup?_data] at h ⊢
    exact ⟨identifier, named?_of_subset hsubset h, Or.inl rfl⟩
  rw [lookup?_other a hdata, Option.or_eq_some_iff] at h
  rw [lookup?_other b hdata]
  rcases h with hboth | ⟨-, hfirst⟩
  · rw [named?_of_subset hsubset hboth]
    exact ⟨identifier, rfl, Or.inl rfl⟩
  have hshort := named?_of_subset hsubset hfirst
  obtain ⟨rfl, -⟩ := segments_eq_singleton_iff.1 (named?_eq_some_iff.1 hfirst).2
  cases hlonger : named? b.identifiers (identifier :: rest.take 1) with
  | none => exact ⟨identifier, hshort, Or.inl rfl⟩
  | some longer =>
    refine ⟨longer, rfl, ?_⟩
    -- what is found now has the first segment alone, or the first two
    have hsegments := (named?_eq_some_iff.1 hlonger).2
    have hname : joinDots (identifier :: rest.take 1) = longer := by
      rw [← hsegments, joinDots_segments]
    cases rest with
    | nil => exact Or.inl (hname.symm.trans (joinDots_singleton identifier))
    | cons second rest => exact Or.inr ⟨second, rfl, hname.symm.trans (joinDots_pair identifier second)⟩

end Index

/-- **A scope with more loop variables** matches what it matched. -/
theorem Scope.lookup?_isSome_of_subset {scope wider : Scope} {path : List String}
    (hsubset : scope.names ⊆ wider.names) (h : (scope.lookup? path).isSome = true) :
    (wider.lookup? path).isSome = true := by
  obtain ⟨name, hname, hmatches⟩ := List.find?_isSome.1 h
  exact List.find?_isSome.2 ⟨name, hsubset hname, hmatches⟩

end ConfigRefs.Declaration
