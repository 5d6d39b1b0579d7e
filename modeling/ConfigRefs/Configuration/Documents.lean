import ConfigRefs.Value.Walk
import ConfigRefs.Expr.Assembly

/-!
# Configuration: documents and their declarations

`Documents` holds the documents of a configuration as the declarations found in them, in the order of
loading. `references` and `dynamicBlocks` report on every declaration.
-/

namespace ConfigRefs

open ConfigRefs.Declaration

/-- A declaration: its identifier, its body, and the path of the document it stands in, if that has
one. -/
structure Configuration.Declared where
  source : Option String
  id : String
  body : Value

/-- The documents of a configuration: the paths they come from and their declarations. -/
structure Documents where
  sources : List (Option String)
  declarations : List Configuration.Declared

namespace Documents

/-- No documents. -/
def empty : Documents := ⟨[], []⟩

/-- The declarations of blocks that are named by one label, with what their identifiers begin with. -/
def named (start : String) (blocks : Value) : Entries Value :=
  blocks.entries.map fun (name, body) => (start ++ "." ++ name, body)

/-- The declarations of blocks that are named by a type and a label. -/
def typed (start : String → String) (blocks : Value) : Entries Value :=
  blocks.entries.flatMap fun (type, labels) => named (start type) labels

/-- The declarations of the blocks of one type at the top of a document. -/
def declarationsOfBlocks (type : String) (blocks : Value) : Entries Value :=
  if type = "resource" then typed id blocks
  else if type = "data" then typed ("data." ++ ·) blocks
  else if type = "variable" then named "var" blocks
  else if type = "locals" then named "local" blocks
  else if type = "module" then named "module" blocks
  else []

/-- The identifiers and bodies of the declarations of a document, in order. -/
def declarationsOf (document : Value) : Entries Value :=
  document.entries.flatMap fun (type, blocks) => declarationsOfBlocks type blocks

/-- Adds a document and its declarations. -/
def insert (documents : Documents) (document : Value) (source : Option String) : Documents :=
  { sources := documents.sources ++ [source]
    declarations := documents.declarations
      ++ (declarationsOf document).map fun (id, body) => ⟨source, id, body⟩ }

/-- One document that comes from nowhere. -/
def ofValue (document : Value) : Documents := empty.insert document none

/-- The identifiers of all declarations. -/
def ids (documents : Documents) : List String := documents.declarations.map (·.id)

/-- The index of all declarations. -/
def index (documents : Documents) : Index := .ofList documents.ids

/-- The number of documents. -/
def sourceCount (documents : Documents) : Nat := documents.sources.length

/-- The references in the body of every declaration, by identifier. The first reference that cannot
be resolved is an error. -/
def references (documents : Documents) : Except ResolveError (Entries (List Reference)) :=
  let index := documents.index
  .ofList <$> documents.declarations.mapM fun declared =>
    (declared.id, ·) <$> declared.body.usedReferences index

/-- The dynamic blocks in the body of every declaration that has any, by identifier. -/
def dynamicBlocks (documents : Documents) : Entries (List DynamicBlock) :=
  .ofList <| (documents.declarations.map fun declared =>
    (declared.id, declared.body.dynamicBlocks)).filter fun entry => !entry.2.isEmpty

end Documents

end ConfigRefs
