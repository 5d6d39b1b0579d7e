import ConfigRefs.Entries

/-!
# Declaration: prefix trees of dotted paths

A `PathTree` holds values under paths. `insert` stores a value unless the path has one, `find?` reads
the value of a path, and `deepest?` finds the longest beginning of a path that has a value.
-/

namespace ConfigRefs.Declaration

/-- A tree whose edges are segments and whose nodes may carry a value. -/
inductive PathTree (α : Type) where
  | node (value : Option α) (children : List (String × PathTree α))

namespace PathTree

variable {α : Type}

/-- The tree without values. -/
def empty : PathTree α := .node none []

/-- The value at the root. -/
def value : PathTree α → Option α
  | .node value _ => value

/-- The subtrees by segment. -/
def children : PathTree α → Entries (PathTree α)
  | .node _ children => children

/-- The subtree under a segment. -/
def child? (tree : PathTree α) (key : String) : Option (PathTree α) := tree.children.lookup key

/-- The tree with a value at a path. A path that has a value keeps it. -/
def insert (item : α) : List String → PathTree α → PathTree α
  | [], .node value children => .node (value.or (some item)) children
  | key :: path, .node value children =>
    .node value (Entries.set key (insert item path ((children.lookup key).getD empty)) children)

/-- The value at a path. -/
def find? : List String → PathTree α → Option α
  | [], tree => tree.value
  | key :: path, tree => (tree.child? key).bind (find? path)

/-- The value at the longest beginning of a path of at most `depth` segments that has one, together
with the segments within that depth that were not matched. -/
def deepest? : (depth : Nat) → List String → PathTree α → Option (α × List String)
  | depth + 1, key :: path, tree =>
    ((tree.child? key).bind (deepest? depth path)).or
      (tree.value.map fun item => (item, (key :: path).take (depth + 1)))
  | _, _, tree => tree.value.map fun item => (item, [])

@[simp] theorem find?_empty (path : List String) : (empty : PathTree α).find? path = none := by
  cases path <;> rfl

/-- A path that had no value has the inserted one, and every other path keeps what it had. -/
theorem find?_insert (item : α) (path other : List String) (tree : PathTree α) :
    (tree.insert item path).find? other
      = if other = path then (tree.find? path).or (some item) else tree.find? other := by
  induction path generalizing other tree with
  | nil => cases tree; cases other <;> simp [insert, find?, value, child?, children]
  | cons key path ih =>
    cases tree with
    | node value nodes =>
      cases other with
      | nil => rfl
      | cons first other =>
        simp only [insert, find?, child?, children, Entries.lookup_set, beq_iff_eq, List.cons.injEq]
        by_cases h : first = key
        · subst h
          cases List.lookup first nodes <;> simp [ih]
        · simp [h]

end PathTree

end ConfigRefs.Declaration
