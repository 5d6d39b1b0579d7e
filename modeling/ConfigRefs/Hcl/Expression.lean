import ConfigRefs.Hcl.Template
import ConfigRefs.Value.Basic

/-!
# Hcl: expressions

Expressions of the configuration language. Nothing is evaluated, so operators stay in the order in
which they are written and parentheses are kept. `print` writes an expression in canonical form, and
`toValue?` gives the configuration value that an expression stands for: literals become values and
every other expression a string that interpolates it.
-/

namespace ConfigRefs.Hcl

mutual

/-- An expression. -/
inductive Expression where
  | null
  | bool (value : Bool)
  | number (value : Number)
  /-- A quoted string without interpolations. -/
  | string (text : List Char)
  /-- A quoted string with interpolations. -/
  | template (parts : Template)
  | heredoc (content : Heredoc)
  | array (items : List Expression)
  | object (items : List (Expression × Expression))
  | variable (name : String)
  /-- A call, with whether its last argument is spread over several. -/
  | call (name : String) (arguments : List Expression) (spread : Bool)
  | parens (inner : Expression)
  /-- What is reached from an expression by steps. -/
  | access (base : Expression) (steps : List Access)
  | unary (operator : Char) (operand : Expression)
  | binary (left : Expression) (operator : String) (right : Expression)
  | conditional (condition yes no : Expression)
  /-- A list built from a collection. -/
  | listFor (names : List String) (collection value : Expression) (filter : Option Expression)
  /-- An object built from a collection, with whether the values of equal keys are grouped. -/
  | objectFor (names : List String) (collection key value : Expression) (grouped : Bool)
      (filter : Option Expression)

/-- A step to a part of a value. -/
inductive Access where
  | attribute (name : String)
  | position (index : Nat)
  | attributeSplat
  | fullSplat
  | index (key : Expression)

end

namespace Expression

/-- Printing, with whether the list or object that was opened last has no item yet. -/
abbrev Printer := StateM Bool

/-- Opens a list or an object. -/
def opened : Printer Unit := set true

/-- What stands before an item: `first` if the list or object that was opened last has no item yet,
and `later` otherwise. An empty one inside of an item is the last one for the next item, too. -/
def separator (first later : String) : Printer String := do
  let empty ← get
  set false
  return if empty then first else later

mutual

/-- Prints an expression in canonical form. -/
def printer : Expression → Printer String
  | .null => return "null"
  | .bool true => return "true"
  | .bool false => return "false"
  | .number value => return value.render Number.layout
  | .string text => return Json.quoted (String.ofList (escapeMarks text))
  | .template parts => return String.ofList ('"' :: parts.text ++ ['"'])
  | .heredoc content => return String.ofList content.source
  | .array items => do
    opened
    return "[" ++ (← itemsPrinter items) ++ "]"
  | .object items => do
    opened
    return "\x7b" ++ (← fieldsPrinter items) ++ (if items.isEmpty then "\x7d" else " \x7d")
  | .variable name => return name
  | .call name arguments spread => do
    return name ++ "(" ++ String.intercalate ", " (← argumentsPrinter arguments)
      ++ (if spread then "..." else "") ++ ")"
  | .parens inner => return "(" ++ (← inner.printer) ++ ")"
  | .access base steps => return (← base.printer) ++ (← stepsPrinter steps)
  | .unary operator operand => return operator.toString ++ (← operand.printer)
  | .binary left operator right => do
    return (← left.printer) ++ " " ++ operator ++ " " ++ (← right.printer)
  | .conditional condition yes no => do
    return (← condition.printer) ++ " ? " ++ (← yes.printer) ++ " : " ++ (← no.printer)
  | .listFor names collection value filter => do
    return "[for " ++ String.intercalate ", " names ++ " in " ++ (← collection.printer) ++ " : "
      ++ (← value.printer) ++ (← filterPrinter filter) ++ "]"
  | .objectFor names collection key value grouped filter => do
    return "\x7bfor " ++ String.intercalate ", " names ++ " in " ++ (← collection.printer) ++ " : "
      ++ (← key.printer) ++ " => " ++ (← value.printer) ++ (if grouped then "..." else "")
      ++ (← filterPrinter filter) ++ "\x7d"

/-- Prints the items of a list. -/
def itemsPrinter : List Expression → Printer String
  | [] => return ""
  | item :: rest => return (← separator "" ", ") ++ (← item.printer) ++ (← itemsPrinter rest)

/-- Prints the items of an object. -/
def fieldsPrinter : List (Expression × Expression) → Printer String
  | [] => return ""
  | (key, value) :: rest => do
    return (← separator " " ", ") ++ (← key.printer) ++ " = " ++ (← value.printer)
      ++ (← fieldsPrinter rest)

/-- Prints each argument of a call. -/
def argumentsPrinter : List Expression → Printer (List String)
  | [] => return []
  | argument :: rest => return (← argument.printer) :: (← argumentsPrinter rest)

/-- Prints steps. -/
def stepsPrinter : List Access → Printer String
  | [] => return ""
  | step :: rest => return (← stepPrinter step) ++ (← stepsPrinter rest)

/-- Prints a step. -/
def stepPrinter : Access → Printer String
  | .attribute name => return "." ++ name
  | .position index => return "." ++ toString index
  | .attributeSplat => return ".*"
  | .fullSplat => return "[*]"
  | .index key => return "[" ++ (← key.printer) ++ "]"

/-- Prints the condition of a comprehension. -/
def filterPrinter : Option Expression → Printer String
  | none => return ""
  | some condition => return " if " ++ (← condition.printer)

end

/-- An expression in canonical form. -/
def print (expression : Expression) : String := (expression.printer.run true).1

/-- The string that interpolates an expression. -/
def interpolated (expression : Expression) : Value :=
  .string ("$\x7b" ++ expression.print ++ "\x7d")

/-- The key that stands in front of an item of an object, the value of its expression being given.
A name alone is a key itself, and any other expression must have a string as its value. -/
def keyText? (value : Option Value) : Expression → Option String
  | .variable name => some name
  | _ => match value with
    | some (.string text) => some text
    | _ => none

mutual

/-- The configuration value of an expression. There is none if the key of an object is no string. -/
def toValue? : Expression → Option Value
  | .null => some .null
  | .bool value => some (.bool value)
  | .number value => some (.number value.normal)
  | .string text => some (.string (String.ofList text))
  | .template parts => some (.string (String.ofList parts.text))
  | .heredoc content => some (.string (String.ofList content.template.text))
  | .array items => .array <$> valuesOf? items
  | .object items => (.object <| Entries.ofList ·) <$> fieldsOf? items
  | .parens inner => inner.toValue?
  | expression => some expression.interpolated

/-- The configuration values of expressions. -/
def valuesOf? : List Expression → Option (List Value)
  | [] => some []
  | item :: rest => return (← item.toValue?) :: (← valuesOf? rest)

/-- The fields that the items of an object stand for. -/
def fieldsOf? : List (Expression × Expression) → Option (List (String × Value))
  | [] => some []
  | (key, value) :: rest =>
    return (← key.keyText? key.toValue?, ← value.toValue?) :: (← fieldsOf? rest)

end

end Expression

end ConfigRefs.Hcl
