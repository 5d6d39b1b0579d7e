import ConfigRefs.Value.Basic
import ConfigRefs.Text.CharClass

/-!
# Value: dynamic blocks

A dynamic block repeats its content for every element of a collection. Under the key `dynamic` stand
labels with the bodies of blocks, in any nesting of lists (`declaredBlocks`). `dynamicBlocks` lists
the outermost blocks of a value with their places.
-/

namespace ConfigRefs

open ConfigRefs.Text

/-- A block body under its label. -/
structure DeclaredBlock where
  label : String
  body : Value

/-- The loop variable that an iterator names, with or without the marks of an interpolation. -/
def iteratorName (text : String) : String :=
  let chars := text.toList
  let inner :=
    match chars with
    | '$' :: '\x7b' :: rest => if rest.getLast? = some '\x7d' then rest.dropLast else chars
    | _ => chars
  String.ofList (((inner.dropWhile isBlank).reverse.dropWhile isBlank).reverse)

namespace DeclaredBlock

/-- The loop variable of a block: what its iterator names, or else its label. -/
def loopVariable (block : DeclaredBlock) : String :=
  match block.body.field "iterator" with
  | .string text => iteratorName text
  | _ => block.label

end DeclaredBlock

/-- A dynamic block and its place in a configuration value. -/
structure DynamicBlock where
  /-- The keys and indices from the root to the block's label, joined by dots. -/
  path : String
  forEach : Value
  content : Value
  loopVariable : String

namespace Value

/-- Whether a field declares dynamic blocks. -/
def isDynamic (key : String) : Value → Bool
  | .object _ => key == "dynamic"
  | .array _ => key == "dynamic"
  | _ => false

/-- The blocks of one label: each body of a list of bodies, or the only body. -/
def blocksOfLabel (label : String) : Value → List DeclaredBlock
  | .array bodies => bodies.map fun body => ⟨label, body⟩
  | body => [⟨label, body⟩]

mutual

/-- The blocks that the value of a `dynamic` key declares. -/
def declaredBlocks : Value → List DeclaredBlock
  | .array items => declaredBlocksOfAll items
  | .object labels => labels.flatMap fun label => blocksOfLabel label.1 label.2
  | _ => []

/-- The blocks that each value of a list declares. -/
def declaredBlocksOfAll : List Value → List DeclaredBlock
  | [] => []
  | item :: rest => item.declaredBlocks ++ declaredBlocksOfAll rest

end

/-- A place extended by a key. Nothing separates the key from an empty place. -/
def joinPath (path key : String) : String := if path.isEmpty then key else path ++ "." ++ key

/-- The block found at a place. -/
def blockAt (path : String) (block : DeclaredBlock) : DynamicBlock :=
  { path := joinPath path block.label
    forEach := block.body.field "for_each"
    content := block.body.field "content"
    loopVariable := block.loopVariable }

mutual

/-- The outermost dynamic blocks of a value at a place. -/
def blocksFrom (path : String) : Value → List DynamicBlock
  | .array items => blocksOfItems path 0 items
  | .object fields => blocksOfFields path fields
  | _ => []

/-- The blocks of the items of a list, the first of which has the given index. -/
def blocksOfItems (path : String) (index : Nat) : List Value → List DynamicBlock
  | [] => []
  | item :: rest =>
    blocksFrom (joinPath path (toString index)) item ++ blocksOfItems path (index + 1) rest

/-- The blocks of the fields of an object. -/
def blocksOfFields (path : String) : List (String × Value) → List DynamicBlock
  | [] => []
  | (key, value) :: rest =>
    (if isDynamic key value then value.declaredBlocks.map (blockAt path)
      else blocksFrom (joinPath path key) value) ++ blocksOfFields path rest

end

/-- The outermost dynamic blocks of a value, in the order in which they stand in it. -/
def dynamicBlocks (value : Value) : List DynamicBlock := blocksFrom "" value

end Value

end ConfigRefs
