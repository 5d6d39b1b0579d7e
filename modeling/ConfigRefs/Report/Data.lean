import ConfigRefs.Expr.Basic
import ConfigRefs.Reference.Basic
import ConfigRefs.Value.DynamicBlock

/-!
# Report: data for output

What is reported on a configuration, as plain data that any text format can write.
-/

namespace ConfigRefs.Report

/-- Data of a report. -/
inductive Data where
  | null
  | bool (value : Bool)
  | number (value : Number)
  | text (value : String)
  | list (items : List Data)
  | record (fields : List (String × Data))
  /-- Data of one of several named shapes. -/
  | tagged (name : String) (content : Data)

namespace Data

mutual

/-- A configuration value as data. -/
def ofValue : Value → Data
  | .null => .null
  | .bool value => .bool value
  | .number value => .number value
  | .string characters => .text characters
  | .array items => .list (ofValues items)
  | .object fields => .record (ofFields fields)

/-- Configuration values as data. -/
def ofValues : List Value → List Data
  | [] => []
  | item :: rest => ofValue item :: ofValues rest

/-- The fields of an object as data. -/
def ofFields : List (String × Value) → List (String × Data)
  | [] => []
  | (key, value) :: rest => (key, ofValue value) :: ofFields rest

end

mutual

/-- An expression as data. -/
def ofExpr : Expr → Data
  | .stringLiteral value => .record [("type", .text "string_literal"), ("value", .text value)]
  | .identifier name => .record [("type", .text "identifier"), ("name", .text name)]
  | .member object property =>
    .record [("type", .text "member"), ("object", ofExpr object), ("property", .text property)]
  | .template parts => .record [("type", .text "template"), ("parts", .list (ofParts parts))]

/-- The parts of a template literal as data. -/
def ofParts : List TemplatePart → List Data
  | [] => []
  | .literal source :: rest => .tagged "literal" (.text source) :: ofParts rest
  | .expr expr :: rest => .tagged "expr" (ofExpr expr) :: ofParts rest

end

/-- A natural number as data. -/
def ofNat (n : Nat) : Data := .number (.integer n)

/-- A reference as data. -/
def ofReference (reference : Reference) : Data :=
  .record [("start", ofNat reference.start), ("end", ofNat reference.stop),
    ("referencee", .record [("id", .text reference.id), ("full", .text reference.full)]),
    ("use_fqn", .bool reference.useFqn)]

/-- A dynamic block as data. -/
def ofDynamicBlock (block : DynamicBlock) : Data :=
  .record [("path", .text block.path), ("for_each", ofValue block.forEach),
    ("content", ofValue block.content), ("scoped_var", .text block.loopVariable)]

/-- Lists by key as data. -/
def ofEntries {α : Type} (item : α → Data) (entries : Entries (List α)) : Data :=
  .record (entries.map fun (key, items) => (key, .list (items.map item)))

end Data

end ConfigRefs.Report
