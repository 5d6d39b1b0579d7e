import ConfigRefs.Proofs.Declaration.Matching

/-!
# Declaration: what an index answers after insertions

The answers of an index are decided by what was inserted. An insertion is answered with whether the
identifier is new, the list has the first occurrences, and no position that is read lies outside of it
(`answers_ofList`). A lookup depends on nothing but the set of the identifiers: it finds the one with
the first two segments of a traversal, for data with the first three, or else the one with the first
segment alone (`lookup?_ofList`).
-/

namespace ConfigRefs.Declaration

open ConfigRefs.Text

/-! ### Lookups by the first segments -/

/-- The identifier with the given segments, if there is one. -/
def named? (identifiers : List String) (path : List String) : Option String :=
  identifiers.find? fun identifier => segments identifier == path

section Named

variable {identifiers path : List String} {identifier first : String}

theorem named?_eq_some_iff : named? identifiers path = some identifier ↔
    identifier ∈ identifiers ∧ segments identifier = path := by
  constructor
  · intro h
    exact ⟨List.mem_of_find?_eq_some h, by simpa using List.find?_some h⟩
  · rintro ⟨hmem, rfl⟩
    cases hfind : named? identifiers (segments identifier) with
    | none => exact absurd (beq_self_eq_true _) (List.find?_eq_none.1 hfind identifier hmem)
    | some found =>
      have hfound : segments found = segments identifier := by simpa using List.find?_some hfind
      rw [segments_injective hfound]

theorem named?_eq_none_iff : named? identifiers path = none ↔
    ∀ known ∈ identifiers, segments known ≠ path := by
  simp only [named?, List.find?_eq_none, beq_iff_eq, ne_eq]

/-- The identifier with one segment is that segment. -/
theorem named?_singleton : named? identifiers [first]
    = if DotFree first ∧ first ∈ identifiers then some first else none := by
  refine Option.ext fun identifier => ?_
  rw [named?_eq_some_iff, segments_eq_singleton_iff]
  split_ifs with h
  · rw [Option.some.injEq]
    exact ⟨fun ⟨_, heq, _⟩ => heq.symm, fun heq => heq ▸ ⟨h.2, rfl, h.1⟩⟩
  · exact iff_of_false (fun ⟨hmem, heq, hfree⟩ => h ⟨hfree, heq ▸ hmem⟩) nofun

end Named

namespace ConsistentIndex

variable {first : String} {path : List String}

/-- **A traversal of data** refers to the known identifier with its first three segments, or with all
of them if there are fewer. -/
theorem lookup?_data (index : ConsistentIndex) (path : List String) :
    index.lookup? ("data" :: path) = named? index.identifiers ("data" :: path.take 2) := by
  have hkind : Kind.ofSegment "data" = .dataKind := (ofSegment_eq_dataKind_iff "data").2 rfl
  refine Option.ext fun identifier => ?_
  rw [lookup?_eq_some_iff, named?_eq_some_iff, size_ofSegment, if_pos rfl]
  refine and_congr_right fun hmem => ⟨?_, fun hsegments => ?_⟩
  · rintro ⟨taken, unmatched, hsegments, happ, hwhole, -⟩
    rw [hwhole hkind, List.append_nil] at happ
    exact happ ▸ hsegments
  · refine ⟨path.take 2, [], hsegments, List.append_nil _, fun _ => rfl, ?_⟩
    exact fun more hne hmore => absurd (List.prefix_nil.1 hmore) hne

/-- **Any other traversal** refers to the known identifier with its first two segments or, if there is
none, to the one with its first segment alone. -/
theorem lookup?_other (index : ConsistentIndex) (hfirst : first ≠ "data") (path : List String) :
    index.lookup? (first :: path)
      = (named? index.identifiers (first :: path.take 1)).or (named? index.identifiers [first]) := by
  have hkind : Kind.ofSegment first ≠ .dataKind := fun hdata =>
    hfirst ((ofSegment_eq_dataKind_iff first).1 hdata)
  refine Option.ext fun identifier => ?_
  rw [lookup?_eq_some_iff, size_ofSegment, if_neg hfirst, Option.or_eq_some_iff,
    named?_eq_some_iff, named?_eq_some_iff, named?_eq_none_iff]
  constructor
  · rintro ⟨hmem, taken, unmatched, hsegments, happ, -, hlonger⟩
    have hlength : (taken ++ unmatched).length ≤ 1 := happ ▸ List.length_take_le 1 path
    rw [List.length_append] at hlength
    rcases unmatched with _ | ⟨second, unmatched⟩
    · exact Or.inl ⟨hmem, hsegments.trans (by rw [← happ, List.append_nil])⟩
    · obtain rfl : taken = [] := List.length_eq_zero_iff.1 (by simp at hlength; omega)
      refine Or.inr ⟨?_, hmem, hsegments⟩
      rw [← happ]
      exact hlonger _ (List.cons_ne_nil _ _) (List.prefix_refl _)
  · rintro (⟨hmem, hsegments⟩ | ⟨hnone, hmem, hsegments⟩)
    · refine ⟨hmem, path.take 1, [], hsegments, List.append_nil _, fun h => absurd h hkind, ?_⟩
      exact fun more hne hmore => absurd (List.prefix_nil.1 hmore) hne
    · refine ⟨hmem, [], path.take 1, hsegments, rfl, fun h => absurd h hkind, ?_⟩
      intro more hne hmore
      have hpos : 1 ≤ more.length := List.length_pos_iff.2 hne
      rw [List.nil_append, hmore.eq_of_length_le (Nat.le_trans (List.length_take_le 1 path) hpos)]
      exact hnone

/-- Every position that a descent from a child of the root finds is one of the list. -/
theorem lt_size (index : ConsistentIndex) {node : PathTree Nat} {depth position : Nat}
    {unmatched : List String} (hchild : index.tree.child? first = some node)
    (hfound : node.deepest? depth path = some (position, unmatched)) : position < index.size := by
  obtain ⟨identifier, hidentifier⟩ := index.exists_identifier hchild hfound
  exact (List.getElem?_eq_some_iff.1 hidentifier).1

end ConsistentIndex

namespace Index

/-- **What an index answers after any insertions.** The next insertion is answered with whether the
identifier is new. The list has the first occurrences in their order, the tree the position of each,
and whatever a lookup finds in the tree is a position of the list. -/
theorem answers_ofList (inserted : List String) :
    (∀ identifier, ((ofList inserted).insert identifier).2 = true ↔ identifier ∉ inserted) ∧
      (ofList inserted).toList = inserted.eraseDups ∧
      (ofList inserted).size = inserted.eraseDups.length ∧
      ((ofList inserted).isEmpty = true ↔ inserted = []) ∧
      (∀ identifier, (ofList inserted).contains identifier = true ↔ identifier ∈ inserted) ∧
      (ofList inserted).Consistent ∧
      ∀ first path node depth position unmatched, (ofList inserted).tree.child? first = some node →
        node.deepest? depth path = some (position, unmatched) → position < (ofList inserted).size := by
  have hlist := identifiers_ofList inserted
  refine ⟨fun identifier => ?_, hlist, congrArg List.length hlist, ?_, fun identifier => ?_,
    consistent_ofList inserted,
    fun _ _ _ _ _ _ hchild hfound => (ConsistentIndex.ofList inserted).lt_size hchild hfound⟩
  · rw [((ConsistentIndex.ofList inserted).insert_eq identifier).1, decide_eq_true_eq, mem_ofList]
  · rw [isEmpty, List.isEmpty_iff, List.eq_nil_iff_forall_not_mem, List.eq_nil_iff_forall_not_mem]
    exact forall_congr' fun identifier => not_congr (mem_ofList inserted identifier)
  · rw [contains, List.contains_iff_mem, mem_ofList]

/-- An identifier that is the beginning of a known one is new, a repeated one is not. -/
theorem answers_ofList_beginnings :
    let inserted := ["net.a.b", "net", "net.a.b", "var.x"]
    ((ofList inserted).insert "net.a").2 = true ∧ ¬ ((ofList inserted).insert "net").2 = true ∧
      (ofList inserted).toList = ["net.a.b", "net", "var.x"] ∧
      ∃ node, (ofList inserted).tree.child? "net" = some node ∧
        node.deepest? 2 ["a", "b", "c"] = some (0, []) ∧ 0 < (ofList inserted).size := by
  intro inserted
  obtain ⟨hnew, hlist, -, -, -, -, hsize⟩ := answers_ofList inserted
  have hchild : ∃ node, (ofList inserted).tree.child? "net" = some node ∧
      node.deepest? 2 ["a", "b", "c"] = some (0, []) := ⟨_, rfl, rfl⟩
  obtain ⟨node, hnode, hfound⟩ := hchild
  refine ⟨(hnew "net.a").2 (by decide), fun h => (hnew "net").1 h (by decide), hlist.trans (by decide),
    node, hnode, hfound, hsize _ _ _ _ _ _ hnode hfound⟩

theorem named?_identifiers_ofList (inserted : List String) :
    named? (ofList inserted).identifiers = named? inserted := by
  funext path
  refine Option.ext fun identifier => ?_
  rw [named?_eq_some_iff, named?_eq_some_iff, mem_ofList]

/-- **A lookup depends only on which identifiers were inserted.** Data is found by the first three
segments of a traversal, or by all if there are fewer; anything else by the first two segments, or
else by the first one if that is a name of its own. -/
theorem lookup?_ofList (inserted : List String) :
    (∀ first path, (ofList inserted).lookup? (first :: path)
      = if first = "data" then named? inserted ((first :: path).take 3)
        else (path.head?.bind fun second => named? inserted [first, second]).or
          (if DotFree first ∧ first ∈ inserted then some first else none)) ∧
      ∀ others, (∀ identifier, identifier ∈ inserted ↔ identifier ∈ others) →
        (ofList inserted).lookup? = (ofList others).lookup? := by
  constructor
  · intro first path
    by_cases hdata : first = "data"
    · subst hdata
      rw [if_pos rfl, (ConsistentIndex.ofList inserted).lookup?_data, named?_identifiers_ofList,
        List.take_succ_cons]
    · rw [if_neg hdata, (ConsistentIndex.ofList inserted).lookup?_other hdata, named?_identifiers_ofList,
        ← named?_singleton]
      cases path with
      | nil => exact Option.or_self
      | cons second path => rfl
  · intro others hsame
    refine ConsistentIndex.lookup?_congr (.ofList inserted) (.ofList others) fun identifier => ?_
    rw [mem_ofList, mem_ofList, hsame]

/-- Beginnings of identifiers and a repeated one, inserted in two orders. -/
theorem lookup?_ofList_reordered :
    let inserted := ["data.aws_ami", "ingress.rule.port", "data", "ingress", "data"]
    let others := ["ingress", "data", "ingress.rule.port", "data.aws_ami"]
    (∀ identifier, identifier ∈ inserted ↔ identifier ∈ others) ∧
      (ofList inserted).lookup? = (ofList others).lookup? ∧
      (ofList inserted).lookup? ["data", "aws_ami"] = some "data.aws_ami" ∧
      (ofList inserted).lookup? ["data", "aws_ami", "ubuntu"] = none ∧
      (ofList inserted).lookup? ["ingress", "rule", "port"] = some "ingress" := by
  intro inserted others
  have hsame : ∀ identifier, identifier ∈ inserted ↔ identifier ∈ others := by
    intro identifier
    simp only [inserted, others, List.mem_cons, List.not_mem_nil, or_false]
    tauto
  obtain ⟨hlookup, hcongr⟩ := lookup?_ofList inserted
  refine ⟨hsame, hcongr others hsame, ?_, ?_, ?_⟩
  · rw [hlookup]
    decide +kernel
  · rw [hlookup]
    decide +kernel
  · rw [hlookup]
    decide +kernel

end Index

end ConfigRefs.Declaration
