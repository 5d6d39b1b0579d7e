import ConfigRefs.Json.Quoted

/-!
# Expr: expressions of the generated program

A small expression tree: string literals, identifiers, member access and template literals. `render`
writes an expression as source text.
-/

namespace ConfigRefs

mutual

/-- An expression. -/
inductive Expr where
  | stringLiteral (value : String)
  | identifier (name : String)
  | member (object : Expr) (property : String)
  | template (parts : List TemplatePart)

/-- A part of a template literal: text that is escaped already, or an expression. -/
inductive TemplatePart where
  | literal (text : String)
  | expr (expr : Expr)

end

namespace Expr

mutual

/-- An expression as source text. -/
def render : Expr → String
  | .stringLiteral value => Json.quoted value
  | .identifier name => name
  | .member object property => object.render ++ "." ++ property
  | .template parts => "\x60" ++ renderParts parts ++ "\x60"

/-- The parts of a template literal as source text. -/
def renderParts : List TemplatePart → String
  | [] => ""
  | .literal text :: rest => text ++ renderParts rest
  | .expr expr :: rest => "$\x7b" ++ expr.render ++ "\x7d" ++ renderParts rest

end

end Expr

end ConfigRefs
