import ConfigRefs.Declaration.Index
import ConfigRefs.Proofs.Text.Dotted
import Mathlib.Data.List.Induction

/-!
# Declaration: the index and its tree

The prefix tree of an index has a value at a path exactly if the path is the segments of a known
identifier, and the value is the position of that (`Consistent`). Insertion keeps this, so every index
that is built by insertions has it (`consistent_ofList`). A `ConsistentIndex` is an index together with
this, and what is proved about the tree is proved about such an index. The index of a list knows what
was inserted, in the order of the first occurrences (`identifiers_ofList`).
-/

namespace ConfigRefs.Declaration

open ConfigRefs.Text

namespace Index

/-- The tree of an index holds the position of every known identifier, and nothing else. -/
def Consistent (index : Index) : Prop :=
  ∀ (path : List String) (position : Nat), index.tree.find? path = some position ↔
    ∃ identifier, index.identifiers[position]? = some identifier ∧ segments identifier = path

theorem consistent_empty : Consistent empty := by
  intro path position
  simp [empty]

theorem insert_of_known {index : Index} {identifier : String} {position : Nat}
    (h : index.tree.find? (segments identifier) = some position) :
    index.insert identifier = (index, false) := by
  simp only [insert, h]

theorem insert_of_new {index : Index} {identifier : String}
    (h : index.tree.find? (segments identifier) = none) :
    index.insert identifier = (⟨index.identifiers ++ [identifier],
      index.tree.insert index.identifiers.length (segments identifier)⟩, true) := by
  simp only [insert, h]

theorem Consistent.insert {index : Index} (h : index.Consistent) (identifier : String) :
    (index.insert identifier).1.Consistent := by
  cases hfind : index.tree.find? (segments identifier) with
  | some _ => rwa [insert_of_known hfind]
  | none =>
    rw [insert_of_new hfind]
    intro path position
    simp only [PathTree.find?_insert]
    by_cases hpath : path = segments identifier
    · -- the new path: its position is the one behind all others
      subst hpath
      simp only [if_true, hfind, Option.none_or, Option.some.injEq]
      constructor
      · rintro rfl
        exact ⟨identifier, by simp, rfl⟩
      · rintro ⟨known, hknown, hsegments⟩
        obtain rfl := segments_injective hsegments
        by_contra hne
        have hlt : position < index.identifiers.length := by
          have := (List.getElem?_eq_some_iff.1 hknown).1
          simp only [List.length_append, List.length_singleton] at this
          omega
        rw [List.getElem?_append_left hlt] at hknown
        have := (h _ position).2 ⟨known, hknown, rfl⟩
        simp [hfind] at this
    · simp only [if_neg hpath, h path position]
      constructor
      · rintro ⟨known, hknown, hsegments⟩
        have hlt := (List.getElem?_eq_some_iff.1 hknown).1
        exact ⟨known, by rw [List.getElem?_append_left hlt, hknown], hsegments⟩
      · rintro ⟨known, hknown, rfl⟩
        rcases Nat.lt_or_ge position index.identifiers.length with hlt | hge
        · exact ⟨known, by rwa [List.getElem?_append_left hlt] at hknown, rfl⟩
        · rw [List.getElem?_append_right hge, List.getElem?_singleton] at hknown
          split at hknown
          · exact absurd (congrArg segments (Option.some.inj hknown)).symm hpath
          · simp at hknown

/-- **Every index that is built by insertions is consistent.** -/
theorem consistent_ofList (identifiers : List String) : (ofList identifiers).Consistent :=
  List.foldlRecOn identifiers _ consistent_empty fun _ h identifier _ => h.insert identifier

end Index

/-! ### Consistent indices -/

/-- An index whose tree holds the position of every known identifier, and nothing else. -/
structure ConsistentIndex extends Index where
  consistent : toIndex.Consistent

namespace ConsistentIndex

/-- The index of a list of identifiers. -/
abbrev ofList (identifiers : List String) : ConsistentIndex :=
  ⟨Index.ofList identifiers, Index.consistent_ofList identifiers⟩

theorem find?_segments (index : ConsistentIndex) {identifier : String}
    (hmem : identifier ∈ index.identifiers) : ∃ position,
      index.tree.find? (segments identifier) = some position ∧
        index.identifiers[position]? = some identifier := by
  obtain ⟨position, hposition⟩ := List.getElem?_of_mem hmem
  exact ⟨position, (index.consistent _ _).2 ⟨identifier, hposition, rfl⟩, hposition⟩

/-- A path has no value iff it is not the segments of a known identifier. -/
theorem find?_eq_none_iff (index : ConsistentIndex) (path : List String) :
    index.tree.find? path = none ↔ ∀ known ∈ index.identifiers, segments known ≠ path := by
  rw [Option.eq_none_iff_forall_ne_some]
  constructor
  · rintro hnone known hmem rfl
    obtain ⟨position, hfind, -⟩ := index.find?_segments hmem
    exact hnone position hfind
  · intro hnone position hfind
    obtain ⟨known, hknown, hsegments⟩ := (index.consistent path position).1 hfind
    exact hnone known (List.mem_of_getElem? hknown) hsegments

/-- **An insertion** keeps what is known and appends an identifier that is new, and tells which. -/
theorem insert_eq (index : ConsistentIndex) (identifier : String) :
    (index.insert identifier).2 = decide (identifier ∉ index.identifiers) ∧
      (index.insert identifier).1.identifiers
        = index.identifiers ++ [identifier].removeAll index.identifiers := by
  by_cases hmem : identifier ∈ index.identifiers
  · obtain ⟨position, hfind, -⟩ := index.find?_segments hmem
    rw [Index.insert_of_known hfind]
    simp [hmem, List.cons_removeAll]
  · have hfind : index.tree.find? (segments identifier) = none :=
      (index.find?_eq_none_iff _).2 fun known hknown hsegments =>
        hmem (segments_injective hsegments ▸ hknown)
    rw [Index.insert_of_new hfind]
    simp [hmem, List.cons_removeAll]

end ConsistentIndex

/-! ### Runs of insertions -/

namespace Index

theorem ofList_append_singleton (identifiers : List String) (identifier : String) :
    ofList (identifiers ++ [identifier]) = ((ofList identifiers).insert identifier).1 := by
  rw [ofList, List.foldl_append]
  rfl

/-- **The index of a list keeps the first occurrence of each member**, in their order. -/
theorem identifiers_ofList (identifiers : List String) :
    (ofList identifiers).identifiers = identifiers.eraseDups := by
  induction identifiers using List.reverseRecOn with
  | nil => rfl
  | append_singleton identifiers identifier ih =>
    have hremove : [identifier].removeAll identifiers.eraseDups
        = [identifier].removeAll identifiers := by simp [List.cons_removeAll]
    have hsingle : ([identifier].removeAll identifiers).eraseDups
        = [identifier].removeAll identifiers := by
      rw [List.cons_removeAll]
      split <;> rfl
    rw [ofList_append_singleton, ((ConsistentIndex.ofList identifiers).insert_eq identifier).2, ih,
      hremove, List.eraseDups_append, hsingle]

/-- **The index of a list knows its members.** -/
theorem mem_ofList (identifiers : List String) (known : String) :
    known ∈ (ofList identifiers).identifiers ↔ known ∈ identifiers := by
  rw [identifiers_ofList, List.mem_eraseDups]

end Index

end ConfigRefs.Declaration
