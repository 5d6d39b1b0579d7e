import ConfigRefs.Declaration.Kind
import ConfigRefs.Declaration.PathTree

/-!
# Declaration: the index of identifiers

An `Index` keeps the identifiers of all declarations in the order in which they became known, and a
prefix tree of their positions. `lookup?` finds the identifier that a traversal refers to.
-/

namespace ConfigRefs.Declaration

open ConfigRefs.Text

/-- The known identifiers and, under the segments of each, its position. -/
structure Index where
  identifiers : List String
  tree : PathTree Nat

namespace Index

/-- The index that knows no identifier. -/
def empty : Index := ⟨[], .empty⟩

/-- Adds an identifier, and tells whether it is new. -/
def insert (index : Index) (identifier : String) : Index × Bool :=
  let path := segments identifier
  match index.tree.find? path with
  | some _ => (index, false)
  | none =>
    (⟨index.identifiers ++ [identifier], index.tree.insert index.identifiers.length path⟩, true)

/-- The index of a list of identifiers. -/
def ofList (identifiers : List String) : Index :=
  identifiers.foldl (fun index identifier => (index.insert identifier).1) empty

/-- The identifiers in the order in which they became known. -/
def toList (index : Index) : List String := index.identifiers

/-- The number of identifiers. -/
def size (index : Index) : Nat := index.identifiers.length

/-- Whether no identifier is known. -/
def isEmpty (index : Index) : Bool := index.identifiers.isEmpty

/-- Whether an identifier is known. -/
def contains (index : Index) (identifier : String) : Bool := index.identifiers.contains identifier

/-- The identifier that a traversal refers to: the most specific one that begins like it, within the
number of segments that its kind has. Data needs all of its segments. -/
def lookup? (index : Index) : List String → Option String
  | [] => none
  | first :: path => do
    let kind := Kind.ofSegment first
    let node ← index.tree.child? first
    let (position, unmatched) ← node.deepest? (kind.size - 1) path
    if kind == .dataKind && !unmatched.isEmpty then none else index.identifiers[position]?

end Index

end ConfigRefs.Declaration
