import ConfigRefs.Proofs.Declaration.Lookup
import ConfigRefs.Proofs.Reference.Place
import ConfigRefs.Proofs.Traversal.Spelling

/-!
# Reference: what references spell

A reference is the path of its first segments, so the text between its ends spells that path
(`Traversal.spells_toReference`). It lies inside of one interpolation and of no other
(`exists_filter_covers`). With the order of the references this says that they are real pieces of the
text, none of which overlap (`references_spell`).
-/

namespace ConfigRefs

open ConfigRefs.Text ConfigRefs.Token ConfigRefs.Declaration ConfigRefs.Interpolation

/-- The offsets from `start` up to `stop` lie in a range. -/
def Text.Span.Covers (span : Span) (start stop : Nat) : Prop := span.start ≤ start ∧ stop ≤ span.stop

instance (span : Span) (start stop : Nat) : Decidable (span.Covers start stop) :=
  inferInstanceAs (Decidable (_ ∧ _))

/-- Of ranges that lie one behind the other only one covers what is not empty. -/
theorem filter_covers {spans : List Span} (h : spans.Pairwise fun a b => a.stop ≤ b.start)
    {span : Span} (hmem : span ∈ spans) {start stop : Nat} (hcovers : span.Covers start stop)
    (hlt : start < stop) : spans.filter (·.Covers start stop) = [span] := by
  obtain ⟨before, behind, rfl⟩ := List.append_of_mem hmem
  obtain ⟨-, hbehind, hbefore⟩ := List.pairwise_append.1 h
  have hnone (other : Span) (hother : other ∈ before ∨ other ∈ behind) :
      ¬ other.Covers start stop := by
    rintro ⟨hstart, hstop⟩
    rcases hother with hother | hother
    · have := hbefore other hother span List.mem_cons_self
      have := hcovers.1
      omega
    · have := List.rel_of_pairwise_cons hbehind hother
      have := hcovers.2
      omega
  have hfront : before.filter (·.Covers start stop) = [] :=
    List.filter_eq_nil_iff.2 fun other hother => by simpa using hnone other (Or.inl hother)
  have hback : behind.filter (·.Covers start stop) = [] :=
    List.filter_eq_nil_iff.2 fun other hother => by simpa using hnone other (Or.inr hother)
  rw [List.filter_append, hfront, List.filter_cons_of_pos (by simpa using hcovers), hback]
  rfl

section Traversals

variable {input : String} {traversal : Traversal}

/-- **The text of a reference spells its path.** -/
theorem Traversal.spells_toReference (hmem : traversal ∈ Traversal.traversals input) (id : String) :
    Spells input.toList (traversal.toReference id).start (traversal.toReference id).stop
      (traversal.toReference id).full.toList := by
  obtain ⟨steps, hcanonical, hsteps⟩ :=
    Traversal.exists_canonical (Traversal.head_numeric_of_mem_traversals hmem)
  have hfront : traversal.head :: steps <+: traversal.segments :=
    List.cons_prefix_cons.2 ⟨rfl, hsteps⟩
  have hspelled := (Traversal.spelled_of_mem_traversals hmem).of_isPrefix hfront
  obtain ⟨last, hlast⟩ : ∃ last, (traversal.head :: steps).getLast? = some last :=
    ⟨_, List.getLast?_eq_some_getLast (List.cons_ne_nil _ _)⟩
  have hspells := hspelled.spells_joinDots hlast
  simp only [Traversal.toReference, hcanonical, hlast, List.head?_cons, Option.map_some,
    Option.getD_some]
  exact hspells

/-- **A reference lies inside of one interpolation**, and of no other. -/
theorem exists_filter_covers (hmem : traversal ∈ Traversal.traversals input) (id : String) :
    ∃ span, (interpolations input).filter
      (·.Covers (traversal.toReference id).start (traversal.toReference id).stop) = [span] := by
  obtain ⟨body, hbody, hbounds⟩ := Traversal.exists_body_bounds hmem
  obtain ⟨last, hlast, hstart, hstop⟩ :=
    Traversal.exists_of_toReference (Traversal.head_numeric_of_mem_traversals hmem) id
  have hspan : body.span ∈ interpolations input := List.mem_map.2 ⟨body, hbody, rfl⟩
  have hpairwise : (interpolations input).Pairwise fun a b => a.stop ≤ b.start :=
    List.pairwise_map.2 (pairwise_bodiesFrom 0 input.toList)
  refine ⟨body.span, filter_covers hpairwise hspan ⟨?_, ?_⟩
    (Traversal.isPlaced_toReference hmem id).start_lt_stop⟩
  · rw [hstart]
    exact (hbounds traversal.head List.mem_cons_self).1
  · rw [hstop]
    exact (hbounds last hlast).2

end Traversals

/-- **References are real pieces of the text**, one behind the other. Each lies between two characters
inside of one interpolation, the text between its ends is its path with white space in it, and its
identifier is one that the index knows. -/
theorem references_spell {input : String} {index : Index} {scope : Scope} {found : List Reference}
    (h : references input index scope = .ok found) :
    (∀ reference ∈ found, reference.IsPlaced input.toList ∧
        reference.stop ≤ byteLength input.toList ∧
        (∃ span, (interpolations input).filter (·.Covers reference.start reference.stop) = [span]) ∧
        withoutBlanks (slice input.toList reference.start reference.stop) = reference.full.toList ∧
        reference.id ∈ index.toList) ∧
      found.Pairwise fun a b => a.stop ≤ b.start := by
  refine ⟨fun reference hreference => ?_, pairwise_references h⟩
  obtain ⟨traversal, hmem, -, id, hlookup, rfl⟩ := exists_of_mem_references h hreference
  have hplaced := Traversal.isPlaced_toReference hmem id
  have hspells := Traversal.spells_toReference hmem id
  exact ⟨hplaced, hplaced.isBoundary_stop.le, exists_filter_covers hmem id,
    hspells.withoutBlanks_slice, Index.mem_of_lookup?_eq_some hlookup⟩

/-- White space around dots, a path that is cut off before a number, and the same path twice. -/
theorem references_spell_repeated :
    let input := "$\x7bvar . x\x7d-$\x7bé.q... + net.a.0.b * var\n.x\x7d"
    let index := Index.ofList ["net.a", "var.x"]
    let found : List Reference := [⟨2, 9, "var.x", "var.x", true⟩, ⟨23, 28, "net.a", "net.a", true⟩,
      ⟨35, 41, "var.x", "var.x", true⟩]
    references input index ⟨[]⟩ = .ok found ∧
      ∀ reference ∈ found, withoutBlanks (slice input.toList reference.start reference.stop)
        = reference.full.toList := by
  intro input index found
  have hfound : references input index ⟨[]⟩ = .ok found := by
    unfold input index found
    decide +kernel
  exact ⟨hfound, fun reference hmem => ((references_spell hfound).1 reference hmem).2.2.2.1⟩

end ConfigRefs
