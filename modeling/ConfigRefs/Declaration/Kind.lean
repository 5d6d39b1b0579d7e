import ConfigRefs.Text.Dotted
import ConfigRefs.Text.CamelCase

/-!
# Declaration: identifiers

A declaration is named by a dotted identifier: `var.name`, `local.name`, `module.name`,
`data.type.name` and, for a resource, `type.name`. This module tells the kinds apart, states when an
identifier and a traversal match, and gives the name that generated code uses.
-/

namespace ConfigRefs.Declaration

open ConfigRefs.Text

/-- The kind of a declaration. -/
inductive Kind where
  | variableKind
  | localKind
  | moduleKind
  | dataKind
  | resourceKind
  deriving DecidableEq, Repr

/-- The kind that the first segment of an identifier or a traversal decides. -/
def Kind.ofSegment (first : String) : Kind :=
  if first = "var" then .variableKind
  else if first = "local" then .localKind
  else if first = "module" then .moduleKind
  else if first = "data" then .dataKind
  else .resourceKind

/-- The kind of a dotted name. -/
def Kind.of (name : String) : Kind := .ofSegment ((segments name).headD "")

/-- The number of segments of an identifier of a kind. -/
def Kind.size : Kind → Nat
  | .dataKind => 3
  | _ => 2

/-- The name that generated code gives to a declaration: variables, locals and modules go by their
name alone, everything else by type and name. -/
def variableName (type name : String) : String :=
  match Kind.of type with
  | .variableKind | .localKind | .moduleKind => camelCase name
  | .dataKind | .resourceKind => camelCase (type ++ "_" ++ name)

/-- Whether an identifier and the segments of a traversal match: in the first segment, in the second
one unless the identifier has no second, and for data also in the third. -/
def matchesSegments (identifier : String) (path : List String) : Bool :=
  let parts := segments identifier
  parts[0]? == path[0]?
    && (parts.length == 1 || parts[1]? == path[1]?)
    && (Kind.of identifier != .dataKind || parts[2]? == path[2]?)

end ConfigRefs.Declaration
