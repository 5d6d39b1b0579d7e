import ConfigRefs.Declaration.Scope
import ConfigRefs.Proofs.Text.Dotted
import Mathlib.Logic.Basic
import Mathlib.Tactic.SplitIfs

/-!
# Declaration: loop variables and the traversals that begin with them

A loop variable is a name of one segment, and such a name matches every traversal that begins with it.
The exception is the name `data`: it counts as the name of a data source, which has a third segment,
so it does not match a traversal of three or more segments (`matchesSegments_of_dotFree`). A traversal
that begins with a loop variable of a scope is therefore found in the scope unless it is mistaken for
one of a data source (`Scope.lookup?_eq_none_iff`).
-/

namespace ConfigRefs.Declaration

open ConfigRefs.Text

section Matching

variable {name : String} {path : List String}

theorem ofSegment_eq_dataKind_iff (first : String) :
    Kind.ofSegment first = .dataKind ↔ first = "data" := by
  unfold Kind.ofSegment
  split_ifs with hvar hlocal hmodule hdata
  · exact iff_of_false nofun (by rw [hvar]; decide)
  · exact iff_of_false nofun (by rw [hlocal]; decide)
  · exact iff_of_false nofun (by rw [hmodule]; decide)
  · exact iff_of_true rfl hdata
  · exact iff_of_false nofun hdata

/-- **A name of one segment matches what begins with it**, unless it is `data` and there is a third
segment. -/
theorem matchesSegments_of_dotFree (hfree : DotFree name) (hhead : path.head? = some name) :
    matchesSegments name path = true ↔ name ≠ "data" ∨ path.length ≤ 2 := by
  have hsegments : segments name = [name] := segments_of_dotFree hfree
  have hkind : Kind.of name = .dataKind ↔ name = "data" := by
    rw [Kind.of, hsegments, List.headD_cons, ofSegment_eq_dataKind_iff]
  have hfirst : path[0]? = some name := by rw [← List.head?_eq_getElem?, hhead]
  have hthird : path[2]? = none ↔ path.length ≤ 2 := List.getElem?_eq_none_iff
  simp only [matchesSegments, hsegments, hfirst, Bool.and_eq_true, Bool.or_eq_true, bne_iff_ne, ne_eq,
    hkind, List.getElem?_cons_zero, List.length_singleton, beq_self_eq_true, Bool.true_or, true_and,
    beq_iff_eq]
  rw [← hthird]
  exact or_congr_right eq_comm

/-- A name matches what begins like a data source iff it has the same first three segments. -/
theorem matchesSegments_data {second third : String} {more : List String} :
    matchesSegments name ("data" :: second :: third :: more) = true
      ↔ (segments name).take 3 = ["data", second, third] := by
  rcases hparts : segments name with _ | ⟨first, parts⟩
  · simp [matchesSegments, hparts]
  by_cases hfirst : first = "data"
  · subst hfirst
    have hkind : Kind.of name = .dataKind := by
      rw [Kind.of, hparts, List.headD_cons, ofSegment_eq_dataKind_iff]
    -- with one or two segments there is no third one to agree
    rcases parts with _ | ⟨next, _ | ⟨last, rest⟩⟩
    · simp [matchesSegments, hparts, hkind]
    · simp [matchesSegments, hparts, hkind]
    · simp [matchesSegments, hparts, hkind]
  · simp [matchesSegments, hparts, hfirst]

end Matching

namespace Scope

/-- A traversal of the loop variable `data` is mistaken for one of a data source: it has as many
segments as that needs, and no name of the scope begins with the same ones. -/
def MistakesForData (scope : Scope) (path : List String) : Prop :=
  path.head? = some "data" ∧ 3 ≤ path.length ∧
    ∀ name ∈ scope.names, (segments name).take 3 ≠ path.take 3

instance (scope : Scope) (path : List String) : Decidable (scope.MistakesForData path) :=
  inferInstanceAs (Decidable (_ ∧ _ ∧ _))

/-- A traversal is not in scope iff no loop variable matches it. -/
theorem lookup?_eq_none_iff_matching {scope : Scope} {path : List String} :
    scope.lookup? path = none ↔ ∀ name ∈ scope.names, matchesSegments name path = false := by
  simp only [lookup?, List.find?_eq_none, Bool.not_eq_true]

/-- **A traversal of a loop variable is in scope**, unless it is mistaken for one of a data source. -/
theorem lookup?_eq_none_iff {scope : Scope} {name : String} {path : List String}
    (hmem : name ∈ scope.names) (hfree : DotFree name) (hhead : path.head? = some name) :
    scope.lookup? path = none ↔ scope.MistakesForData path := by
  simp only [lookup?, List.find?_eq_none, MistakesForData]
  constructor
  · intro hnone
    have hunmatched : ¬ (name ≠ "data" ∨ path.length ≤ 2) := fun h =>
      hnone name hmem ((matchesSegments_of_dotFree hfree hhead).2 h)
    rw [not_or, not_not, Nat.not_le] at hunmatched
    obtain ⟨rfl, hlength⟩ := hunmatched
    refine ⟨hhead, hlength, fun other hother htake => hnone other hother ?_⟩
    match path, hhead, hlength, htake with
    | _ :: _ :: _ :: _, rfl, _, htake => exact matchesSegments_data.2 htake
  · rintro ⟨hdata, hlength, hnone⟩ other hother hmatch
    match path, hdata, hlength, hnone with
    | _ :: _ :: _ :: _, rfl, _, hnone => exact hnone other hother (matchesSegments_data.1 hmatch)

end Scope

end ConfigRefs.Declaration
