import ConfigRefs.Declaration.Kind

/-!
# Reference: what an interpolation refers to
-/

namespace ConfigRefs

open ConfigRefs.Text ConfigRefs.Declaration

/-- A place in a text that refers to a declaration. -/
structure Reference where
  /-- The byte offset of its first character. -/
  start : Nat
  /-- The byte offset behind its last character. -/
  stop : Nat
  /-- The identifier of the declaration. -/
  id : String
  /-- The dotted path that is written. -/
  full : String
  /-- Whether it stands for the declaration itself, by its fully qualified name, and not for one of
  its values. -/
  useFqn : Bool
  deriving DecidableEq, Repr

namespace Reference

/-- The name that generated code uses for the declaration, taken from the first two segments of the
path. -/
def variableName (reference : Reference) : String :=
  let parts := segments reference.full
  Declaration.variableName (parts[0]?.getD "") (parts[1]?.getD "")

/-- The path with its range, for people to read. -/
def render (reference : Reference) : String :=
  reference.full ++ " [" ++ toString reference.start ++ ".." ++ toString reference.stop ++ "]"
    ++ (if reference.useFqn then " fqn" else "")

end Reference

end ConfigRefs
