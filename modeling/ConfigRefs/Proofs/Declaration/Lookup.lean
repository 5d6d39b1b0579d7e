import ConfigRefs.Proofs.Declaration.Index

/-!
# Declaration: what a lookup finds

A lookup in a prefix tree finds the value at the longest beginning of a path that has one
(`deepest?_eq_some_iff`). In an index this is the known identifier with the most segments, of those
that the traversal begins with (`lookup?_eq_some_iff`). So a canonical identifier is found by every
traversal that continues it (`lookup?_append`), and what is found depends on which identifiers are
known and not on the order in which they became known (`lookup?_congr`).
-/

namespace ConfigRefs.Declaration

open ConfigRefs.Text

namespace PathTree

variable {α : Type} {path : List String}

/-- The value at the longest beginning of a path that has one, and the segments after it. -/
def longest? : List String → PathTree α → Option (α × List String)
  | [], tree => tree.value.map fun item => (item, [])
  | key :: path, tree => ((tree.child? key).bind (longest? path)).or
      (tree.value.map fun item => (item, key :: path))

theorem deepest?_eq_longest? : ∀ (depth : Nat) (path : List String) (tree : PathTree α),
    tree.deepest? depth path = tree.longest? (path.take depth)
  | 0, path, tree => by
    rw [deepest?, List.take_zero, longest?]
    nofun
  | depth + 1, [], tree => by
    rw [deepest?, List.take_nil, longest?]
    nofun
  | depth + 1, key :: path, tree => by
    have hbelow : deepest? depth path = longest? (α := α) (path.take depth) :=
      funext fun child => deepest?_eq_longest? depth path child
    rw [deepest?, List.take_succ_cons, longest?, hbelow]

theorem bind_longest?_eq_none_iff {subtree : Option (PathTree α)} :
    subtree.bind (longest? path) = none
      ↔ ∀ taken, taken <+: path → subtree.bind (find? taken) = none := by
  -- a segment leads to a subtree that may be missing, so this is what the induction is about
  induction path generalizing subtree with
  | nil =>
    simp only [List.prefix_nil, forall_eq]
    cases subtree with
    | none => exact iff_of_true rfl rfl
    | some tree => exact Option.map_eq_none_iff
  | cons key path ih =>
    cases subtree with
    | none => exact iff_of_true rfl fun _ _ => rfl
    | some tree =>
      rw [Option.bind_some, longest?, Option.or_eq_none_iff, Option.map_eq_none_iff, ih]
      constructor
      · rintro ⟨hlonger, hhere⟩ taken htaken
        rcases List.prefix_cons_iff.1 htaken with rfl | ⟨rest, rfl, hrest⟩
        · exact hhere
        · exact hlonger rest hrest
      · intro h
        exact ⟨fun taken htaken => h (key :: taken) (List.cons_prefix_cons.2 ⟨rfl, htaken⟩),
          h [] List.nil_prefix⟩

theorem bind_longest?_eq_some_iff {subtree : Option (PathTree α)} {item : α}
    {unmatched : List String} : subtree.bind (longest? path) = some (item, unmatched) ↔
      ∃ taken, taken ++ unmatched = path ∧ subtree.bind (find? taken) = some item ∧
        ∀ more, more ≠ [] → more <+: unmatched → subtree.bind (find? (taken ++ more)) = none := by
  induction path generalizing subtree with
  | nil =>
    cases subtree with
    | none => exact iff_of_false nofun fun ⟨_, _, hfind, _⟩ => nomatch hfind
    | some tree =>
      rw [Option.bind_some, longest?]
      constructor
      · intro h
        obtain ⟨found, hfound, heq⟩ := Option.map_eq_some_iff.1 h
        obtain ⟨rfl, rfl⟩ := Prod.mk.inj heq
        exact ⟨[], rfl, hfound, fun more hne hmore => absurd (List.prefix_nil.1 hmore) hne⟩
      · rintro ⟨taken, happ, hfind, -⟩
        obtain ⟨rfl, rfl⟩ := List.append_eq_nil_iff.1 happ
        exact Option.map_eq_some_iff.2 ⟨item, hfind, rfl⟩
  | cons key path ih =>
    cases subtree with
    | none => exact iff_of_false nofun fun ⟨_, _, hfind, _⟩ => nomatch hfind
    | some tree =>
      rw [Option.bind_some, longest?, Option.or_eq_some_iff, ih, bind_longest?_eq_none_iff]
      constructor
      · rintro (⟨taken, rfl, hfind, hlonger⟩ | ⟨hnone, hhere⟩)
        · exact ⟨key :: taken, rfl, hfind, hlonger⟩
        · obtain ⟨found, hfound, heq⟩ := Option.map_eq_some_iff.1 hhere
          obtain ⟨rfl, rfl⟩ := Prod.mk.inj heq
          refine ⟨[], rfl, hfound, fun more hne hmore => ?_⟩
          obtain rfl | ⟨rest, rfl, hrest⟩ := List.prefix_cons_iff.1 hmore
          · exact absurd rfl hne
          · exact hnone rest hrest
      · rintro ⟨taken, happ, hfind, hlonger⟩
        rcases List.append_eq_cons_iff.1 happ with ⟨rfl, rfl⟩ | ⟨rest, rfl, rfl⟩
        · refine Or.inr ⟨fun more hmore => ?_, Option.map_eq_some_iff.2 ⟨item, hfind, rfl⟩⟩
          exact hlonger (key :: more) (List.cons_ne_nil _ _) (List.cons_prefix_cons.2 ⟨rfl, hmore⟩)
        · exact Or.inl ⟨rest, rfl, hfind, hlonger⟩

/-- **A lookup finds the value at the longest beginning of the path** within the depth. -/
theorem deepest?_eq_some_iff {depth : Nat} {tree : PathTree α} {item : α} {unmatched : List String} :
    tree.deepest? depth path = some (item, unmatched) ↔
      ∃ taken, taken ++ unmatched = path.take depth ∧ tree.find? taken = some item ∧
        ∀ more, more ≠ [] → more <+: unmatched → tree.find? (taken ++ more) = none := by
  rw [deepest?_eq_longest?]
  exact @bind_longest?_eq_some_iff α (path.take depth) (some tree) item unmatched

end PathTree

namespace Index

variable {index : Index} {identifier first : String} {path : List String}

theorem lookup?_cons (index : Index) (first : String) (path : List String) :
    index.lookup? (first :: path) = ((index.tree.child? first).bind
      (PathTree.longest? (path.take ((Kind.ofSegment first).size - 1)))).bind fun found =>
        if Kind.ofSegment first == .dataKind && !found.2.isEmpty then none
        else index.identifiers[found.1]? := by
  simp only [lookup?, PathTree.deepest?_eq_longest?, Option.bind_eq_bind, Option.bind_assoc]

/-- What is found is known. -/
theorem mem_of_lookup?_eq_some (h : index.lookup? path = some identifier) :
    identifier ∈ index.identifiers := by
  cases path with
  | nil => cases h
  | cons first path =>
    rw [lookup?_cons] at h
    obtain ⟨⟨position, unmatched⟩, -, hfound⟩ := Option.bind_eq_some_iff.1 h
    split at hfound
    · cases hfound
    · exact List.mem_of_getElem? hfound

end Index

namespace ConsistentIndex

variable {identifier first : String} {path : List String}

/-- Every position that a descent from a child of the root finds is one of the list. -/
theorem exists_identifier (index : ConsistentIndex) {node : PathTree Nat} {depth position : Nat}
    {unmatched : List String} (hchild : index.tree.child? first = some node)
    (hfound : node.deepest? depth path = some (position, unmatched)) :
    ∃ identifier, index.identifiers[position]? = some identifier := by
  obtain ⟨taken, -, htaken, -⟩ := PathTree.deepest?_eq_some_iff.1 hfound
  have hfind : index.tree.find? (first :: taken) = some position := by
    rw [PathTree.find?, hchild, Option.bind_some, htaken]
  obtain ⟨identifier, hidentifier, -⟩ := (index.consistent _ _).1 hfind
  exact ⟨identifier, hidentifier⟩

/-- **A lookup finds the known identifier with the most segments**, of those that the traversal begins
with. No more segments count than the kind of the traversal has, and data needs all of them. -/
theorem lookup?_eq_some_iff (index : ConsistentIndex) :
    index.lookup? (first :: path) = some identifier ↔
      identifier ∈ index.identifiers ∧ ∃ taken unmatched,
        segments identifier = first :: taken ∧
        taken ++ unmatched = path.take ((Kind.ofSegment first).size - 1) ∧
        (Kind.ofSegment first = .dataKind → unmatched = []) ∧
        ∀ more, more ≠ [] → more <+: unmatched →
          ∀ known ∈ index.identifiers, segments known ≠ first :: (taken ++ more) := by
  have hread (unmatched : List String) :
      (Kind.ofSegment first == .dataKind && !unmatched.isEmpty) = false
        ↔ (Kind.ofSegment first = .dataKind → unmatched = []) := by
    rw [Bool.eq_false_iff, Ne, Bool.and_eq_true, not_and, beq_iff_eq, Bool.not_eq_true',
      Bool.not_eq_false, List.isEmpty_iff]
  rw [Index.lookup?_cons, Option.bind_eq_some_iff]
  constructor
  · rintro ⟨⟨position, unmatched⟩, hlongest, hfound⟩
    obtain ⟨taken, happ, hfind, hlonger⟩ := PathTree.bind_longest?_eq_some_iff.1 hlongest
    obtain ⟨known, hknown, hsegments⟩ := (index.consistent (first :: taken) position).1 hfind
    split at hfound
    · cases hfound
    next hwhole =>
    obtain rfl : known = identifier := Option.some.inj (hknown.symm.trans hfound)
    refine ⟨List.mem_of_getElem? hknown, taken, unmatched, hsegments, happ,
      (hread unmatched).1 (Bool.eq_false_iff.2 hwhole), fun more hne hmore => ?_⟩
    exact (index.find?_eq_none_iff (first :: (taken ++ more))).1 (hlonger more hne hmore)
  · rintro ⟨hmem, taken, unmatched, hsegments, happ, hwhole, hlonger⟩
    obtain ⟨position, hfind, hposition⟩ := index.find?_segments hmem
    rw [hsegments] at hfind
    refine ⟨(position, unmatched), PathTree.bind_longest?_eq_some_iff.2
      ⟨taken, happ, hfind, fun more hne hmore => ?_⟩, ?_⟩
    · exact (index.find?_eq_none_iff (first :: (taken ++ more))).2 (hlonger more hne hmore)
    · simp only [(hread unmatched).2 hwhole, Bool.false_eq_true, if_false, hposition]

/-- **A canonical identifier is found by every traversal that continues it.** -/
theorem lookup?_append (index : ConsistentIndex) (hmem : identifier ∈ index.identifiers)
    (hsegments : segments identifier = first :: path)
    (hsize : path.length + 1 = (Kind.ofSegment first).size) (more : List String) :
    index.lookup? (first :: path ++ more) = some identifier := by
  have htake : (path ++ more).take ((Kind.ofSegment first).size - 1) = path := by
    rw [← hsize, Nat.add_sub_cancel, List.take_left]
  rw [List.cons_append, lookup?_eq_some_iff]
  refine ⟨hmem, path, [], hsegments, ?_, fun _ => rfl, ?_⟩
  · rw [htake, List.append_nil]
  · exact fun longer hne hlonger => absurd (List.prefix_nil.1 hlonger) hne

/-- **What is found depends on which identifiers are known**, and not on their order. -/
theorem lookup?_congr (a b : ConsistentIndex)
    (hsame : ∀ identifier, identifier ∈ a.identifiers ↔ identifier ∈ b.identifiers) :
    a.lookup? = b.lookup? := by
  funext path
  cases path with
  | nil => rfl
  | cons first path =>
    refine Option.ext fun identifier => ?_
    rw [lookup?_eq_some_iff, lookup?_eq_some_iff]
    simp only [hsame]

end ConsistentIndex

end ConfigRefs.Declaration
