import ConfigRefs.Reference.Basic
import ConfigRefs.Traversal.Basic
import ConfigRefs.Declaration.Index
import ConfigRefs.Declaration.Scope
import ConfigRefs.Text.Diagnostic

/-!
# Reference: resolution

A traversal refers to a declaration of the index or to a loop variable in scope; a live traversal
(`isLive`) that does neither is an error. `references` resolves all traversals of an input in order
and stops at the first error.
-/

namespace ConfigRefs

open ConfigRefs.Text ConfigRefs.Declaration

/-- Why references cannot be found. -/
inductive ResolveError where
  /-- A traversal in an input is neither declared nor a loop variable of the scope. -/
  | unresolvable (reference input : String) (inScope : List String)
  deriving DecidableEq, Repr

/-- The message of an error. -/
def ResolveError.message : ResolveError → String
  | .unresolvable reference input inScope =>
    "Found a reference that is unknown: \x60" ++ reference ++ "\x60 in " ++ Diagnostic.quoted input
      ++ " is not declared (scoped: " ++ Diagnostic.quotedList inScope ++ ")"

namespace Traversal

/-- Whether a traversal can refer to a declaration: it has a step, it is not spread, and it does not
begin with a name that every repeated block defines. -/
def isLive (traversal : Traversal) : Bool :=
  !traversal.steps.isEmpty && traversal.followedBy != some .ellipsis
    && traversal.head.text != "count" && traversal.head.text != "each"

/-- Whether a step of a traversal is a number. -/
def hasNumericStep (traversal : Traversal) : Bool := traversal.segments.any Segment.numeric

/-- The segments that stand for the declaration: all of them, or those before the first number and at
most two of these. -/
def canonical (traversal : Traversal) : List Segment :=
  match traversal.segments.findIdx? Segment.numeric with
  | some position => traversal.segments.take (min position 2)
  | none => traversal.segments

/-- The reference of a traversal to a declaration. It is by fully qualified name when only a part of
the declaration is meant (a splat, an index, a numeric step) or when no attribute is named. -/
def toReference (traversal : Traversal) (id : String) : Reference :=
  let canonical := traversal.canonical
  { start := (canonical.head?.map Segment.start).getD 0
    stop := (canonical.getLast?.map Segment.stop).getD 0
    id := id
    full := joinDots (canonical.map Segment.text)
    useFqn := traversal.followedBy == some .splat || traversal.followedBy == some .openBracket
      || traversal.hasNumericStep || canonical.length < 3 }

/-- The reference that a traversal of an input makes, if it makes one. -/
def resolve (input : String) (index : Index) (scope : Scope) (traversal : Traversal) :
    Except ResolveError (Option Reference) :=
  if !traversal.isLive then .ok none
  else match index.lookup? traversal.texts with
    | some id => .ok (some (traversal.toReference id))
    | none =>
      if (scope.lookup? traversal.texts).isSome then .ok none
      else .error (.unresolvable traversal.render input scope.names)

end Traversal

/-- The references of an input to declarations of the index, in the order in which they are written.
Loop variables of the scope are left out. -/
def references (input : String) (index : Index) (scope : Scope) :
    Except ResolveError (List Reference) :=
  (·.filterMap id) <$> (Traversal.traversals input).mapM (Traversal.resolve input index scope)

end ConfigRefs
