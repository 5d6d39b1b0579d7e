import ConfigRefs.Proofs.Value.Calls
import Mathlib.Data.List.Basic

/-!
# Value: the strings that a walk reaches

`strings` lists all strings of a value in document order. `leaves` lists them again, each with whether
a walk reaches it: a string is passed over iff it is a member of a list under a `dynamic` key, at any
nesting of lists, without being in the body of a block. `map_fst_calls` says that a walk calls its
visitor on the leaves that are reached, once each and in order, so it calls it on all strings exactly
if none is passed over (`walk_calls_strings_iff`).
-/

namespace ConfigRefs.Value

open ConfigRefs.Declaration

mutual

/-- The strings of a value in document order. -/
def strings : Value → List String
  | .string text => [text]
  | .array items => stringsOfItems items
  | .object fields => stringsOfFields fields
  | _ => []

/-- The strings of the items of a list. -/
def stringsOfItems : List Value → List String
  | [] => []
  | item :: rest => strings item ++ stringsOfItems rest

/-- The strings of the fields of an object. -/
def stringsOfFields : List (String × Value) → List String
  | [] => []
  | (_, value) :: rest => strings value ++ stringsOfFields rest

end

mutual

/-- The strings of a value in document order, each with whether a walk reaches it. The flag `declares`
tells whether the value stands under a `dynamic` key and so declares blocks. -/
def leaves (declares : Bool) : Value → List (String × Bool)
  | .string text => [(text, !declares)]
  | .array items => leavesOfItems declares items
  | .object fields => leavesOfFields declares fields
  | _ => []

/-- The leaves of the items of a list. -/
def leavesOfItems (declares : Bool) : List Value → List (String × Bool)
  | [] => []
  | item :: rest => leaves declares item ++ leavesOfItems declares rest

/-- The leaves of the fields of an object. Where blocks are declared these are the bodies of labels. -/
def leavesOfFields (declares : Bool) : List (String × Value) → List (String × Bool)
  | [] => []
  | (key, value) :: rest =>
    leaves (!declares && isDynamic key value) value ++ leavesOfFields declares rest

end

mutual

theorem map_fst_leaves : ∀ (value : Value) (declares : Bool),
    (value.leaves declares).map Prod.fst = value.strings
  | .string _, _ => rfl
  | .array items, declares => map_fst_leavesOfItems items declares
  | .object fields, declares => map_fst_leavesOfFields fields declares
  | .null, _ | .bool _, _ | .number _, _ => rfl

theorem map_fst_leavesOfItems : ∀ (items : List Value) (declares : Bool),
    (leavesOfItems declares items).map Prod.fst = stringsOfItems items
  | [], _ => rfl
  | item :: rest, declares => by
    simp only [leavesOfItems, stringsOfItems, List.map_append, map_fst_leaves item declares,
      map_fst_leavesOfItems rest declares]

theorem map_fst_leavesOfFields : ∀ (fields : List (String × Value)) (declares : Bool),
    (leavesOfFields declares fields).map Prod.fst = stringsOfFields fields
  | [], _ => rfl
  | (key, value) :: rest, declares => by
    simp only [leavesOfFields, stringsOfFields, List.map_append, map_fst_leaves value,
      map_fst_leavesOfFields rest declares]

end

/-- The strings among some leaves that are reached. -/
def reached (found : List (String × Bool)) : List String := (found.filter (·.2)).map (·.1)

@[simp] theorem reached_append (a b : List (String × Bool)) :
    reached (a ++ b) = reached a ++ reached b := by simp [reached]

theorem reached_leavesOfItems : ∀ items : List Value,
    reached (leavesOfItems false items) = items.flatMap fun item => reached (item.leaves false)
  | [] => rfl
  | item :: rest => by
    simp only [leavesOfItems, reached_append, List.flatMap_cons, reached_leavesOfItems rest]

theorem reached_leavesOfFields : ∀ (fields : List (String × Value)) (declares : Bool),
    reached (leavesOfFields declares fields)
      = fields.flatMap fun field => reached (field.2.leaves (!declares && isDynamic field.1 field.2))
  | [], _ => rfl
  | (key, value) :: rest, declares => by
    simp only [leavesOfFields, reached_append, List.flatMap_cons, reached_leavesOfFields rest]

/-- What is reached under a label is what is reached in the bodies of its blocks. -/
theorem reached_label (label : String) (body : Value) :
    reached (body.leaves false)
      = (blocksOfLabel label body).flatMap fun block => reached (block.body.leaves false) := by
  cases body with
  | array bodies =>
    simp only [leaves, reached_leavesOfItems, blocksOfLabel, List.flatMap_map]
  | _ => simp only [blocksOfLabel, List.flatMap_singleton]

mutual

/-- What is reached under a `dynamic` key is what is reached in the bodies of the declared blocks. -/
theorem reached_leaves_true : ∀ value : Value, reached (value.leaves true)
    = value.declaredBlocks.flatMap fun block => reached (block.body.leaves false)
  | .string _ => rfl
  | .array items => by simpa only [leaves, declaredBlocks] using reached_leavesOfItems_true items
  | .object labels => by
    simp only [leaves, declaredBlocks, reached_leavesOfFields, Bool.not_true, Bool.false_and,
      List.flatMap_assoc, ← reached_label]
  | .null | .bool _ | .number _ => rfl

theorem reached_leavesOfItems_true : ∀ items : List Value, reached (leavesOfItems true items)
    = (declaredBlocksOfAll items).flatMap fun block => reached (block.body.leaves false)
  | [] => rfl
  | item :: rest => by
    simp only [leavesOfItems, declaredBlocksOfAll, reached_append, List.flatMap_append,
      reached_leaves_true item, reached_leavesOfItems_true rest]

end

/-- **A walk calls its visitor on the leaves that are reached**, once each and in document order. -/
theorem map_fst_calls (value : Value) : ∀ scope : Scope,
    (calls scope value).map Prod.fst = reached (value.leaves false) := by
  induction value using walk_induction with
  | null => intro scope; rw [calls_null]; rfl
  | bool _ => intro scope; rw [calls_bool]; rfl
  | number _ => intro scope; rw [calls_number]; rfl
  | string text => intro scope; rw [calls_string]; rfl
  | array items ih =>
    intro scope
    rw [calls_array, leaves, reached_leavesOfItems, List.map_flatMap]
    exact List.flatMap_congr fun item hitem => ih item hitem scope
  | object fields ihField ihBlock =>
    intro scope
    rw [calls_object, leaves, reached_leavesOfFields, List.map_flatMap]
    refine List.flatMap_congr fun field hfield => ?_
    cases hdyn : isDynamic field.1 field.2 with
    | true =>
      -- the blocks are read again from the declaring value, so the fields of that are not followed
      simp only [if_true, Bool.not_false, Bool.and_true]
      rw [reached_leaves_true, List.map_flatMap]
      exact List.flatMap_congr fun block hblock => ihBlock field hfield hdyn block hblock _
    | false => simpa using ihField field hfield hdyn scope

/-- Everything is reached iff nothing is passed over. -/
theorem reached_eq_map_fst_iff (found : List (String × Bool)) :
    reached found = found.map Prod.fst ↔ ∀ leaf ∈ found, leaf.2 = true := by
  constructor
  · intro h leaf hleaf
    have hlen : (found.filter (·.2)).length = found.length := by
      simpa only [reached, List.length_map] using congrArg List.length h
    exact List.length_filter_eq_length_iff.1 hlen leaf hleaf
  · intro h
    rw [reached, List.filter_eq_self.2 h]

/-- A walk whose visitor never fails runs the visitor on its calls from the left. -/
theorem run_visitStrings_of_ok {σ ε : Type} {visit : String → Scope → StateT σ (Except ε) Unit}
    {after : String → Scope → σ → σ}
    (hok : ∀ text scope state, (visit text scope).run state = .ok ((), after text scope state))
    (value : Value) (scope : Scope) (state : σ) :
    (visitStrings visit scope value).run state
      = .ok ((), (calls scope value).foldl (fun state call => after call.1 call.2 state) state) := by
  rw [visitStrings_eq_forM_calls]
  generalize calls scope value = made
  induction made generalizing state with
  | nil => rfl
  | cons call made ih =>
    simp only [List.forM_eq_forM] at ih ⊢
    rw [List.forM_cons, StateT.run_bind, hok]
    exact ih _

/-- **What a walk with a visitor that never fails does.** It calls the visitor on the leaves that are
reached, in document order, and these are all strings of the value iff no string is passed over. -/
theorem walk_calls_strings_iff {σ : Type}
    {visit : String → Scope → StateT σ (Except ResolveError) Unit} {after : String → Scope → σ → σ}
    (hok : ∀ text scope state, (visit text scope).run state = .ok ((), after text scope state))
    (value : Value) (scope : Scope) (state : σ) :
    (visitStrings visit scope value).run state
        = .ok ((), (calls scope value).foldl (fun state call => after call.1 call.2 state) state) ∧
      (calls scope value).map Prod.fst = reached (value.leaves false) ∧
      (value.leaves false).map Prod.fst = value.strings ∧
      ((calls scope value).map Prod.fst = value.strings ↔
        ∀ leaf ∈ value.leaves false, leaf.2 = true) := by
  refine ⟨run_visitStrings_of_ok hok value scope state, map_fst_calls value scope,
    map_fst_leaves value false, ?_⟩
  rw [map_fst_calls, ← map_fst_leaves value false]
  exact reached_eq_map_fst_iff _

/-- The strings are counted by a visitor, over a block in a list of bodies in a list. -/
theorem walk_calls_strings_nested :
    let value : Value := .object [("name", .string "a"), ("dynamic", .array [.object
      [("rule", .array [.object [("iterator", .string "each"), ("content", .string "b")]])]])]
    (visitStrings (fun _ _ => modify (· + 1) : String → Scope → StateT Nat (Except ResolveError) Unit)
        .empty value).run 0 = .ok ((), 3) ∧
      (calls .empty value).map Prod.fst = ["a", "each", "b"] := by
  have h := @walk_calls_strings_iff Nat (fun _ _ => modify (· + 1)) (fun _ _ count => count + 1)
    (fun _ _ _ => rfl) (.object [("name", .string "a"), ("dynamic", .array [.object
      [("rule", .array [.object [("iterator", .string "each"), ("content", .string "b")]])]])])
    .empty 0
  have hcalls := h.2.2.2.2 (by decide)
  refine ⟨?_, hcalls⟩
  have hlen := congrArg List.length hcalls
  rw [List.length_map] at hlen
  have hcount (made : List (String × Scope)) :
      made.foldl (fun count _ => count + 1) 0 = made.length := by
    simp
  rw [h.1, hcount, hlen]
  rfl

/-- A string in a list under a `dynamic` key is passed over, also one that names nothing known. -/
theorem calls_miss_listed_string :
    let value : Value := .object [("dynamic", .array [.string "$\x7baws_vpc.missing.id\x7d"])]
    value.strings = ["$\x7baws_vpc.missing.id\x7d"] ∧ calls .empty value = [] := by
  refine ⟨rfl, ?_⟩
  rw [← List.map_eq_nil_iff (f := Prod.fst), map_fst_calls]
  rfl

end ConfigRefs.Value
