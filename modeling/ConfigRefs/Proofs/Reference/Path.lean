import ConfigRefs.Expr.Assembly
import ConfigRefs.Proofs.Traversal.Path

/-!
# Reference: an attribute of a declaration

A text that interpolates a dotted path of three or more names refers to what the index finds for the
path and to nothing else (`references_path`), and it is converted to the expression of that reference
alone (`convert_path`).
-/

namespace ConfigRefs

open ConfigRefs.Text ConfigRefs.Token ConfigRefs.Declaration ConfigRefs.Traversal

/-- The reference of an interpolated path to a declaration. -/
def pathReference (id : String) (path : List String) : Reference :=
  { start := 2
    stop := byteLength (interpolated path).toList - 1
    id := id
    full := joinDots path
    useFqn := false }

section Path

variable {name id : String} {names : List String} {index : Index} {scope : Scope}

theorem canonical_pathTraversal (offset : Nat) :
    (pathTraversal offset name names).canonical = (pathTraversal offset name names).segments := by
  have hnone : (pathTraversal offset name names).segments.findIdx? Segment.numeric = none := by
    rw [List.findIdx?_eq_none_iff]
    exact numeric_pathTraversal offset name names
  rw [canonical, hnone]

theorem hasNumericStep_pathTraversal (offset : Nat) :
    (pathTraversal offset name names).hasNumericStep = false := by
  unfold hasNumericStep
  rw [List.any_eq_false]
  intro segment hsegment
  rw [numeric_pathTraversal offset name names segment hsegment]
  exact Bool.false_ne_true

/-- A path of three or more names is by an attribute, not by the declaration itself. -/
theorem toReference_pathTraversal (hlength : 2 ≤ names.length) (id : String) :
    (pathTraversal 2 name names).toReference id = pathReference id (name :: names) := by
  have htexts : (pathTraversal 2 name names).segments.map Segment.text = name :: names :=
    texts_pathTraversal 2 name names
  have hlong : ¬ (pathTraversal 2 name names).segments.length < 3 := by
    have := congrArg List.length htexts
    rw [List.length_map, List.length_cons] at this
    omega
  have hstop : 2 + byteLength (joinDots (name :: names)).toList
      = 2 + byteLength (joinDots (name :: names)).toList + 1 - 1 := by omega
  simp only [toReference, canonical_pathTraversal, hasNumericStep_pathTraversal,
    getLast?_pathTraversal, htexts, hlong, pathReference, byteLength_interpolated, decide_false,
    Option.getD_some, ← hstop]
  rfl

theorem isLive_pathTraversal (offset : Nat) (hlength : 2 ≤ names.length) (hcount : name ≠ "count")
    (heach : name ≠ "each") : (pathTraversal offset name names).isLive = true := by
  cases names with
  | nil => cases hlength
  | cons next names => simp [isLive, pathTraversal, stepSegments, hcount, heach]

/-- **The reference of an interpolated path.** -/
theorem references_path (hname : IsName name) (hnames : ∀ n ∈ names, IsName n)
    (hlength : 2 ≤ names.length) (hcount : name ≠ "count") (heach : name ≠ "each")
    (hlookup : index.lookup? (name :: names) = some id) :
    references (interpolated (name :: names)) index scope
      = .ok [pathReference id (name :: names)] := by
  have hlive := isLive_pathTraversal 2 hlength hcount heach
  have hresolve : Traversal.resolve (interpolated (name :: names)) index scope
      (pathTraversal 2 name names) = .ok (some (pathReference id (name :: names))) := by
    unfold Traversal.resolve
    rw [hlive, texts_pathTraversal, hlookup, ← toReference_pathTraversal hlength]
    rfl
  rw [references, traversals_path hname hnames, List.mapM_cons, hresolve]
  rfl

/-- **The expression of an interpolated path** is that of its reference, if no loop variable has the
name of the declaration. -/
theorem convert_path (h : references (interpolated (name :: names)) index scope
    = .ok [pathReference id (name :: names)]) (hid : id ∉ scope.names) :
    Expr.convert (interpolated (name :: names)) index scope
      = .ok (Expr.ofReference (pathReference id (name :: names))) := by
  have houter : Expr.outerReferences [pathReference id (name :: names)] scope
      = [pathReference id (name :: names)] := by
    simp [Expr.outerReferences, Scope.contains, pathReference, hid]
  have hwhole : Expr.isWhole (interpolated (name :: names)).toList
      (pathReference id (name :: names)) = true := by
    simp [Expr.isWhole, pathReference]
  rw [Expr.convert, h]
  simp only [Functor.map, Except.map, Expr.assemble, houter, hwhole, if_true]

end Path

end ConfigRefs
