import ConfigRefs.Declaration.Kind

/-!
# Declaration: loop variables in scope

Inside a dynamic block a loop variable is no declaration. A `Scope` lists the loop variables of the
blocks around a place, outermost first.
-/

namespace ConfigRefs.Declaration

/-- The loop variables in force, outermost first. -/
structure Scope where
  names : List String
  deriving DecidableEq, Repr

namespace Scope

/-- The scope outside of all blocks. -/
def empty : Scope := ⟨[]⟩

/-- The scope inside a block with the given loop variable. -/
def extend (scope : Scope) (name : String) : Scope := ⟨scope.names ++ [name]⟩

/-- Whether a name is a loop variable. -/
def contains (scope : Scope) (name : String) : Bool := scope.names.contains name

/-- The first loop variable that a traversal matches. -/
def lookup? (scope : Scope) (path : List String) : Option String :=
  scope.names.find? fun name => matchesSegments name path

/-- Whether no loop variable is in force. -/
def isEmpty (scope : Scope) : Bool := scope.names.isEmpty

end Scope

end ConfigRefs.Declaration
