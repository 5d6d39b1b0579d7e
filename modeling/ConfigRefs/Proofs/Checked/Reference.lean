import ConfigRefs.Proofs.Checked.Traversal
import ConfigRefs.Proofs.Declaration.Lookup
import ConfigRefs.Reference.Resolution

/-!
# Checked: references

A lookup reads a position from the prefix tree of an index and an identifier at that position, and a
reference is cut out of the segments of a chain. With a check on each position and range this finds
what the lookup in a consistent index finds (`lookup_eq`) and the references of an input
(`references_eq`).
-/

namespace ConfigRefs.Checked

open ConfigRefs.Text ConfigRefs.Declaration

/-- The value of a node, with the beginning of the path that it does not match. -/
def valueHere (tree : PathTree Nat) (depth : Nat) (path : List String) :
    Option (Option (Nat × List String)) := do
  let unmatched ← listBetween path 0 (min depth path.length)
  some (tree.value.map fun position => (position, unmatched))

/-- The value at the longest beginning of a path of at most `depth` segments that has one. -/
def deepest : (path : List String) → (depth : Nat) → PathTree Nat →
    Option (Option (Nat × List String))
  | [], depth, tree => valueHere tree depth []
  | key :: path, depth, tree => do
    let below ← if depth = 0 then some none
      else match tree.child? key with
        | none => some none
        | some child => do
          let further ← subtract depth 1
          deepest path further child
    match below with
    | some found => some (some found)
    | none => valueHere tree depth (key :: path)

/-- The identifier that a traversal refers to. -/
def lookup (index : Index) : List String → Option (Option String)
  | [] => some none
  | first :: path =>
    match index.tree.child? first with
    | none => some none
    | some node => do
      let depth ← subtract (Kind.ofSegment first).size 1
      let found ← deepest path depth node
      match found with
      | none => some none
      | some (position, unmatched) =>
        if Kind.ofSegment first = .dataKind ∧ unmatched ≠ [] then some none
        else do
          let identifier ← index.identifiers[position]?
          some (some identifier)

/-- The segments that stand for the declaration. -/
def canonical (chain : Chain) : Option (List Segment) :=
  match chain.segments.findIdx? Segment.numeric with
  | some position => listBetween chain.segments 0 (min position 2)
  | none => some chain.segments

/-- The reference of a chain to a declaration. -/
def toReference (chain : Chain) (id : String) : Option Reference := do
  let canonical ← canonical chain
  some
    { start := (canonical.head?.map Segment.start).getD 0
      stop := (canonical.getLast?.map Segment.stop).getD 0
      id := id
      full := joinDots (canonical.map Segment.text)
      useFqn := chain.followedBy == some .splat || chain.followedBy == some .openBracket
        || chain.segments.any Segment.numeric || canonical.length < 3 }

/-- What a chain that may refer to a declaration refers to. -/
def resolveLive (input : String) (index : Index) (scope : Scope) (chain : Chain) :
    Option (Except ResolveError (Option Reference)) := do
  let texts := chain.segments.map Segment.text
  let found ← lookup index texts
  match found with
  | some id => do
    let reference ← toReference chain id
    some (.ok (some reference))
  | none =>
    if (scope.lookup? texts).isSome then some (.ok none)
    else some (.error (.unresolvable (joinDots texts) input scope.names))

/-- The reference that a chain of an input makes, if it makes one. -/
def resolve (input : String) (index : Index) (scope : Scope) (chain : Chain) :
    Option (Except ResolveError (Option Reference)) :=
  if chain.segments.length < 2 ∨ chain.followedBy = some .ellipsis then some (.ok none)
  else do
    let first ← chain.segments[0]?
    if first.text = "count" ∨ first.text = "each" then some (.ok none)
    else resolveLive input index scope chain

/-- The references of chains in turn, up to the first error. -/
def resolveAll (input : String) (index : Index) (scope : Scope) :
    List Chain → Option (Except ResolveError (List Reference))
  | [] => some (.ok [])
  | chain :: rest => do
    let first ← resolve input index scope chain
    match first with
    | .error error => some (.error error)
    | .ok reference => do
      let others ← resolveAll input index scope rest
      some ((reference.toList ++ ·) <$> others)

/-- The references of an input to declarations of the index. -/
def references (input : String) (index : Index) (scope : Scope) :
    Option (Except ResolveError (List Reference)) := do
  let found ← candidates input.toList
  resolveAll input index scope found

/-! ### The lookup -/

theorem valueHere_eq (tree : PathTree Nat) (depth : Nat) (path : List String) :
    valueHere tree depth path
      = some (tree.value.map fun position => (position, path.take depth)) := by
  have htake : path.take (min depth path.length) = path.take depth := by
    rw [← List.take_take, List.take_length]
  rw [valueHere, listBetween_zero (Nat.min_le_right _ _), htake]
  rfl

/-- **The checked descent** finds what the descent finds. -/
theorem deepest_eq : ∀ (path : List String) (depth : Nat) (tree : PathTree Nat),
    deepest path depth tree = some (tree.deepest? depth path)
  | [], depth, tree => by
    rw [deepest, valueHere_eq, PathTree.deepest?, List.take_nil]
    intro _ _ _ _ h
    cases h
  | key :: path, 0, tree => by
    rw [deepest, valueHere_eq, PathTree.deepest?]
    · rfl
    · intro _ _ _ h
      cases h
  | key :: path, depth + 1, tree => by
    rw [deepest, if_neg (Nat.succ_ne_zero depth), PathTree.deepest?]
    cases tree.child? key with
    | none =>
      simp only [Option.bind_eq_bind, Option.bind_some, Option.bind_none, Option.none_or]
      exact valueHere_eq tree (depth + 1) (key :: path)
    | some child =>
      simp only [subtract_of_le (Nat.le_add_left 1 depth), Nat.add_sub_cancel, deepest_eq path depth,
        Option.bind_eq_bind, Option.bind_some]
      cases child.deepest? depth path with
      | none =>
        rw [Option.none_or]
        exact valueHere_eq tree (depth + 1) (key :: path)
      | some found => rfl

/-- **The checked lookup** in a consistent index finds what the lookup finds. -/
theorem lookup_eq (index : ConsistentIndex) :
    ∀ texts : List String, lookup index.toIndex texts = some (index.lookup? texts)
  | [] => rfl
  | first :: path => by
    have hsize : 1 ≤ (Kind.ofSegment first).size := by
      cases Kind.ofSegment first <;> decide
    rw [lookup, Index.lookup?]
    cases hnode : index.tree.child? first with
    | none => rfl
    | some node =>
      simp only [subtract_of_le hsize, deepest_eq, Option.bind_eq_bind, Option.bind_some]
      cases hfound : node.deepest? ((Kind.ofSegment first).size - 1) path with
      | none => rfl
      | some found =>
        obtain ⟨position, unmatched⟩ := found
        obtain ⟨identifier, hidentifier⟩ := index.exists_identifier hnode hfound
        simp only [hidentifier, Option.bind_some]
        by_cases hdata : Kind.ofSegment first = .dataKind ∧ unmatched ≠ []
        · rw [if_pos hdata, if_pos]
          simpa using hdata
        · rw [if_neg hdata, if_neg]
          simpa using hdata

/-! ### The references of traversals -/

theorem canonical_eq (traversal : Traversal) :
    canonical (Chain.of traversal) = some traversal.canonical := by
  have hsegments : (Chain.of traversal).segments = traversal.segments := rfl
  rw [canonical, Traversal.canonical, hsegments]
  cases hposition : traversal.segments.findIdx? Segment.numeric with
  | none => rfl
  | some position =>
    obtain ⟨hlt, -⟩ := List.findIdx?_eq_some_iff_getElem.1 hposition
    exact listBetween_zero (Nat.le_trans (Nat.min_le_left _ _) (Nat.le_of_lt hlt))

theorem toReference_eq (traversal : Traversal) (id : String) :
    toReference (Chain.of traversal) id = some (traversal.toReference id) := by
  rw [toReference, canonical_eq]
  rfl

section Resolution

variable {input : String} {scope : Scope}

theorem resolveLive_eq (index : ConsistentIndex) {traversal : Traversal}
    (hlive : traversal.isLive = true) :
    resolveLive input index.toIndex scope (Chain.of traversal)
      = some (Traversal.resolve input index.toIndex scope traversal) := by
  have htexts : (Chain.of traversal).segments.map Segment.text = traversal.texts := rfl
  simp only [resolveLive, Traversal.resolve, hlive, htexts, lookup_eq index, toReference_eq,
    Option.bind_eq_bind, Option.bind_some, Bool.not_true, Bool.false_eq_true, if_false]
  cases index.lookup? traversal.texts with
  | some id => rfl
  | none =>
    simp only
    split <;> rfl

theorem isLive_eq (traversal : Traversal) : traversal.isLive
    = !(decide (traversal.segments.length < 2 ∨ traversal.followedBy = some .ellipsis)
      || decide (traversal.head.text = "count" ∨ traversal.head.text = "each")) := by
  have hsteps : decide (traversal.segments.length < 2) = traversal.steps.isEmpty := by
    rw [Traversal.segments]
    cases traversal.steps <;> simp
  simp only [Traversal.isLive, Bool.decide_or, hsteps, Bool.not_or, bne, beq_eq_decide,
    Bool.and_assoc]

/-- **The checked resolution of one chain** is that of the traversal. -/
theorem resolve_eq (index : ConsistentIndex) (traversal : Traversal) :
    resolve input index.toIndex scope (Chain.of traversal)
      = some (Traversal.resolve input index.toIndex scope traversal) := by
  have hlive := isLive_eq traversal
  have hsegments : (Chain.of traversal).segments = traversal.segments := rfl
  have hfollowed : (Chain.of traversal).followedBy = traversal.followedBy := rfl
  have hfirst : traversal.segments[0]? = some traversal.head := rfl
  have hdead : traversal.isLive = false →
      some (Except.ok none) = some (Traversal.resolve input index.toIndex scope traversal) := by
    intro hfalse
    rw [Traversal.resolve, hfalse]
    rfl
  rw [resolve, hsegments, hfollowed, hfirst]
  simp only [Option.bind_eq_bind, Option.bind_some]
  by_cases hshort : traversal.segments.length < 2 ∨ traversal.followedBy = some .ellipsis
  · rw [if_pos hshort]
    exact hdead (by rw [hlive, decide_eq_true hshort]; rfl)
  rw [if_neg hshort]
  by_cases hmeta : traversal.head.text = "count" ∨ traversal.head.text = "each"
  · rw [if_pos hmeta]
    exact hdead (by rw [hlive, decide_eq_true hmeta, Bool.or_true]; rfl)
  · rw [if_neg hmeta]
    exact resolveLive_eq index (by rw [hlive, decide_eq_false hshort, decide_eq_false hmeta]; rfl)

/-- **The checked resolution of chains** stops at the first error, as that of the traversals does. -/
theorem resolveAll_eq (index : ConsistentIndex) : ∀ traversals : List Traversal,
    resolveAll input index.toIndex scope (traversals.map Chain.of)
      = some ((·.filterMap id) <$> traversals.mapM (Traversal.resolve input index.toIndex scope))
  | [] => rfl
  | traversal :: rest => by
    rw [List.map_cons, resolveAll, resolve_eq index, resolveAll_eq index rest, List.mapM_cons]
    cases Traversal.resolve input index.toIndex scope traversal with
    | error error => rfl
    | ok reference =>
      cases rest.mapM (Traversal.resolve input index.toIndex scope) with
      | error error => rfl
      | ok others => cases reference <;> rfl

/-- **The checked references** are the references of the input. -/
theorem references_eq (index : ConsistentIndex) : references input index.toIndex scope
    = some (ConfigRefs.references input index.toIndex scope) := by
  rw [references, candidates_eq]
  exact resolveAll_eq index _

end Resolution

end ConfigRefs.Checked
