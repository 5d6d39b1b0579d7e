import ConfigRefs.Entries
import ConfigRefs.Number.Basic

/-!
# Value: configuration values

The data of a configuration document. Objects keep their keys in the order of insertion.
-/

namespace ConfigRefs

/-- A configuration value. -/
inductive Value where
  | null
  | bool (value : Bool)
  | number (value : Number)
  | string (text : String)
  | array (items : List Value)
  | object (fields : List (String × Value))

namespace Value

/-- The value under a key of an object, and null if there is none. -/
def field (key : String) : Value → Value
  | .object fields => (fields.lookup key).getD .null
  | _ => .null

mutual

/-- The entries of a level of blocks: those of an object, or of all objects in a list of any depth. -/
def entries : Value → Entries Value
  | .object fields => fields
  | .array items => entriesOfAll items
  | _ => []

/-- The entries of each value in turn. -/
def entriesOfAll : List Value → Entries Value
  | [] => []
  | item :: rest => item.entries ++ entriesOfAll rest

end

end Value

end ConfigRefs
