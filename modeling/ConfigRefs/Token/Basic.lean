import ConfigRefs.Text.Bytes

/-!
# Token: kinds, places and texts
-/

namespace ConfigRefs

open ConfigRefs.Text

/-- What a token is. -/
inductive Token.Kind where
  | ident
  /-- Decimal digits, also as a numeric step of a traversal. -/
  | number
  /-- A quoted string with everything inside it. -/
  | str
  | dot
  /-- A dot and a star. -/
  | splat
  /-- Three dots. -/
  | ellipsis
  | openBracket
  | closeBracket
  | openParen
  | closeParen
  | openBrace
  | closeBrace
  | comma
  | colon
  | question
  | fatArrow
  | assign
  /-- An arithmetic, comparison or logical operator. -/
  | operator
  | unknown
  deriving DecidableEq, Repr

/-- A token: its kind, the byte offset at which it begins, and its text. -/
structure Token where
  kind : Token.Kind
  start : Nat
  text : List Char
  deriving DecidableEq, Repr

namespace Token

/-- The byte offset behind a token. -/
def stop (token : Token) : Nat := token.start + byteLength token.text

/-- Whether a token is a given word. -/
def isWord (token : Token) (word : String) : Bool :=
  token.kind == .ident && token.text == word.toList

/-- Whether a kind opens a bracket of any shape. -/
def Kind.opens : Kind → Bool
  | .openBracket | .openParen | .openBrace => true
  | _ => false

/-- Whether a kind closes a bracket of any shape. -/
def Kind.closes : Kind → Bool
  | .closeBracket | .closeParen | .closeBrace => true
  | _ => false

end Token

end ConfigRefs
