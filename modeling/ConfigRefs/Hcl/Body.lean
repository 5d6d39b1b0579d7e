import ConfigRefs.Value.Basic

/-!
# Hcl: bodies

A body is attributes and blocks in order. As a configuration value (`Body.toValue`) it is an object:
an attribute is a field, and a block is reached through its type and its labels. Blocks of the same
type and labels are joined: a single one is its body, several are the list of their bodies.
-/

namespace ConfigRefs.Hcl

/-- An attribute or a block. -/
inductive Structure where
  | attribute (name : String) (value : Value)
  | block (type : String) (labels : List String) (body : List Structure)

/-- Attributes and blocks in order. -/
abbrev Body := List Structure

/-- What stands under a key while the blocks of a body are joined. -/
inductive Node where
  | field (value : Value)
  /-- The bodies of blocks without further labels. -/
  | blocks (bodies : List Value)
  /-- Blocks by their next label. -/
  | labelled (nodes : List (String × Node))

namespace Node

/-- Adds the body of a block under its further labels to what is there. What is no block at the same
level gives way. -/
def add (body : Value) : List String → Option Node → Node
  | [], some (.blocks earlier) => .blocks (earlier ++ [body])
  | [], _ => .blocks [body]
  | label :: labels, some (.labelled nodes) =>
    .labelled (Entries.set label (add body labels (nodes.lookup label)) nodes)
  | label :: labels, _ => .labelled [(label, add body labels none)]

mutual

/-- The configuration value of a node. -/
def toValue : Node → Value
  | .field value => value
  | .blocks [body] => body
  | .blocks bodies => .array bodies
  | .labelled nodes => .object (fieldsOf nodes)

/-- The configuration values of nodes by key. -/
def fieldsOf : List (String × Node) → List (String × Value)
  | [] => []
  | (key, node) :: rest => (key, node.toValue) :: fieldsOf rest

end

end Node

namespace Body

mutual

/-- What a body adds to the nodes of the structures before it. -/
def addTo (nodes : List (String × Node)) : List Structure → List (String × Node)
  | [] => nodes
  | first :: rest => addTo (addStructure nodes first) rest

/-- What one structure adds to the nodes of those before it. -/
def addStructure (nodes : List (String × Node)) : Structure → List (String × Node)
  | .attribute name value => Entries.set name (.field value) nodes
  | .block type labels body =>
    let inner := Value.object (Node.fieldsOf (addTo [] body))
    Entries.set type (Node.add inner labels (nodes.lookup type)) nodes

end

/-- The configuration value of a body. -/
def toValue (body : Body) : Value := .object (Node.fieldsOf (addTo [] body))

/-- Whether no attribute of a body has the name of one before it. -/
def attributesDistinct (body : Body) : Bool :=
  let names := body.filterMap fun
    | .attribute name _ => some name
    | .block .. => none
  names.eraseDups.length == names.length

end Body

end ConfigRefs.Hcl
