/-!
# Entries: values by key in the order of insertion

`set` changes the value of a key, `ofList` sets many, and `lookup_set` says what is read afterwards.
-/

namespace ConfigRefs

/-- Values by key, in the order in which the keys were first set. -/
abbrev Entries (α : Type) := List (String × α)

namespace Entries

variable {α : Type}

/-- Sets the value of a key. A key that is there keeps its place and loses its value. -/
def set (key : String) (value : α) : Entries α → Entries α
  | [] => [(key, value)]
  | entry :: rest =>
    if key == entry.1 then (key, value) :: rest else entry :: set key value rest

/-- The entries after setting each pair in turn. -/
def ofList (pairs : List (String × α)) : Entries α :=
  pairs.foldl (fun entries pair => set pair.1 pair.2 entries) []

theorem lookup_set (key : String) (value : α) (entries : Entries α) (other : String) :
    (set key value entries).lookup other
      = if other == key then some value else entries.lookup other := by
  fun_induction set key value entries <;> grind

@[simp] theorem lookup_set_self (key : String) (value : α) (entries : Entries α) :
    (set key value entries).lookup key = some value := by
  simp [lookup_set]

end Entries

end ConfigRefs
