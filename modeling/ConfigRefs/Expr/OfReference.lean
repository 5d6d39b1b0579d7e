import ConfigRefs.Expr.Basic
import ConfigRefs.Reference.Basic

/-!
# Expr: the expression of a reference

A reference becomes a chain of member accesses on the variable of its declaration.
-/

namespace ConfigRefs.Expr

open ConfigRefs.Text ConfigRefs.Declaration

/-- The names of the members that a path reaches behind its first two segments. The first member of
a module is one of its outputs. -/
def memberNames (path : List String) : List String :=
  match path with
  | type :: _ :: first :: further =>
    (if Kind.of type = .moduleKind then camelCase (first ++ "Output") else camelCase first)
      :: further.map camelCase
  | _ => []

/-- The member access chain of a reference, which ends with the fully qualified name if that is what
the reference stands for. -/
def ofReference (reference : Reference) : Expr :=
  let names := memberNames (segments reference.full) ++ (if reference.useFqn then ["fqn"] else [])
  names.foldl .member (.identifier reference.variableName)

end ConfigRefs.Expr
