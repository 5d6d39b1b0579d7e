import ConfigRefs.Hcl.Body
import ConfigRefs.Hcl.ExpressionReader

/-!
# Hcl: reading documents

A document is a body. Every attribute and every block ends its line, and a block either holds its
body on lines of its own or at most one attribute on the line of its braces. `read?` reads a document
as a configuration value.
-/

namespace ConfigRefs.Hcl

open ConfigRefs.Text

/-- The value of an attribute behind its name. -/
def attributeValue (fuel : Nat) : Scanner Value := do
  Scanner.char '='
  blanks false
  match (← expression fuel false).toValue? with
  | some value => return value
  | none => failure

/-- A quoted label, which holds no interpolation. -/
def quotedLabel (fuel : Nat) : Scanner String := do
  match (← quoted fuel).plain? with
  | some text => return String.ofList text
  | none => failure

/-- The labels of a block up to its opening brace. -/
def labels : (fuel : Nat) → Scanner (List String)
  | 0 => failure
  | fuel + 1 => do
    if ← Scanner.literal? ['\x7b'] then return []
    let label ← if (← Scanner.rest).head? = some '"' then quotedLabel fuel else name
    blanks false
    return label :: (← labels fuel)

mutual

/-- Attributes and blocks, each on lines of its own. -/
def structures : (fuel : Nat) → Scanner Body
  | 0 => failure
  | fuel + 1 => do
    blanks true
    if ((← Scanner.rest).head?.map beginsName).getD false then
      let first ← attributeOrBlock fuel
      restOfLine
      return first :: (← structures fuel)
    else return []

/-- An attribute or a block. -/
def attributeOrBlock : (fuel : Nat) → Scanner Structure
  | 0 => failure
  | fuel + 1 => do
    let key ← name
    blanks false
    if (← Scanner.rest).head? = some '=' then return .attribute key (← attributeValue fuel)
    else
      let labels ← labels fuel
      return .block key labels (← blockBody fuel)

/-- The body of a block behind its opening brace. -/
def blockBody : (fuel : Nat) → Scanner Body
  | 0 => failure
  | fuel + 1 => do
    blanks false
    if ((← Scanner.rest).head?.map beginsName).getD false then
      let key ← name
      blanks false
      let value ← attributeValue fuel
      blanks false
      Scanner.char '\x7d'
      return [.attribute key value]
    else if ← Scanner.literal? ['\x7d'] then return []
    else
      lineComment
      lineEnd
      let body ← structures fuel
      Scanner.char '\x7d'
      if Body.attributesDistinct body then return body else failure

end

/-- The value of a document. -/
def read? (document : String) : Option Value := do
  let text := document.toList
  let body ← Scanner.readAll (structures (enoughFuel text)) text
  if Body.attributesDistinct body then some body.toValue else none

end ConfigRefs.Hcl
