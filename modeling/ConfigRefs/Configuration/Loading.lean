import ConfigRefs.Configuration.Documents
import ConfigRefs.Configuration.FileSystem

/-!
# Configuration: loading

`loadFile` adds the document of a file, and `loadDirectory` those of all configuration files of a
directory in the order of their names. What was loaded before a failure stays.
-/

namespace ConfigRefs.Configuration

/-- Why loading fails. -/
inductive LoadError where
  /-- A directory without configuration files. -/
  | noFilesFound
  /-- A path that leads nowhere, or a file that cannot be read as text. -/
  | unreadable
  /-- A file that is not in the configuration language. -/
  | notConfiguration
  /-- A file that is not JSON. -/
  | notJson
  deriving DecidableEq, Repr

/-- The message of an error. -/
def LoadError.message : LoadError → String
  | .noFilesFound => "No files found in directory"
  | .unreadable => "IO error"
  | .notConfiguration => "Unable to parse hcl file"
  | .notJson => "Unable to parse json file"

/-- How texts are read as configuration values. -/
structure Formats where
  /-- The configuration language. -/
  configuration : String → Option Value
  json : String → Option Value

/-- A change of the documents that may fail, and then keeps what was changed before. -/
abbrev Load (m : Type → Type) := ExceptT LoadError (StateT Documents m)

/-- Whether a file of this name is in JSON: it has the extension `json`. -/
def isJsonName (name : String) : Bool :=
  ".json".toList.isSuffixOf name.toList && name != ".json"

/-- Whether a file of this name is a configuration file. -/
def isConfigurationName (name : String) : Bool :=
  ".tf".toList.isSuffixOf name.toList || ".tf.json".toList.isSuffixOf name.toList

/-- The value of a text, read in the format that its name asks for. -/
def Formats.parse (formats : Formats) (name text : String) : Except LoadError Value :=
  if isJsonName name then (formats.json text).elim (.error .notJson) .ok
  else (formats.configuration text).elim (.error .notConfiguration) .ok

variable {m : Type → Type} [Monad m]

/-- The answer of a file system, or an error. -/
def ask {α : Type} (answer : m (Option α)) : Load m α := do
  match ← (liftM answer : Load m (Option α)) with
  | some value => return value
  | none => throw .unreadable

/-- Adds the document of a file, whose path is taken from a directory. -/
def loadFile (files : FileSystem m) (formats : Formats) (directory : Place) (path : String) :
    Load m Unit := do
  let place ← ask (files.resolve directory path)
  let contents ← ask (files.read place)
  match String.fromUTF8? contents with
  | none => throw .unreadable
  | some text =>
    let document ← liftExcept (formats.parse (place.getLastD "") text)
    modify fun documents => documents.insert document (some place.render)
where
  /-- An outcome as a step of loading. -/
  liftExcept {α : Type} : Except LoadError α → Load m α
    | .ok value => return value
    | .error error => throw error

/-- The names of the configuration files among the items of a directory, in ascending order. -/
def configurationNames (items : List (String × Bool)) : List String :=
  ((items.filter fun item => item.2 && isConfigurationName item.1).map (·.1)).mergeSort
    fun a b => a ≤ b

/-- Adds the documents of all configuration files of a directory. -/
def loadDirectory (files : FileSystem m) (formats : Formats) (directory : Place) (path : String) :
    Load m Unit := do
  let place ← ask (files.resolve directory path)
  let items ← ask (files.list place)
  match configurationNames items with
  | [] => throw .noFilesFound
  | names => names.forM (loadFile files formats place)

end ConfigRefs.Configuration
