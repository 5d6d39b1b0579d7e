import ConfigRefs.Value.DynamicBlock
import Mathlib.Data.List.Infix

/-!
# Value: parts, their addresses and the blocks around them

An address leads from a value to one of its parts by positions of items and fields (`Part.at?`). The
way to a part decides its role: whether it is plain data, declares blocks, or is the body of a block.
The blocks around an address are those whose bodies stand at a beginning of it (`Part.blocksAround`).
`located` lists the strings of a value with their addresses, in the order of the document
(`mem_located_iff`, `pairwise_located`).
-/

namespace ConfigRefs.Value

/-- Whether a value has parts. -/
def isCompound : Value → Bool
  | .array _ | .object _ => true
  | _ => false

theorem exists_of_isCompound {value : Value} (h : value.isCompound = true) :
    (∃ items, value = .array items) ∨ ∃ fields, value = .object fields := by
  cases value with
  | array items => exact Or.inl ⟨items, rfl⟩
  | object fields => exact Or.inr ⟨fields, rfl⟩
  | _ => cases h

theorem ne_string_of_isCompound {value : Value} (h : value.isCompound = true) (text : String) :
    value ≠ .string text := by
  rintro rfl
  cases h

theorem isDynamic_eq (key : String) (value : Value) :
    isDynamic key value = (key == "dynamic" && value.isCompound) := by
  cases value <;> simp [isDynamic, isCompound]

/-- The positions of the items and fields on the way from a value to one of its parts. -/
abbrev Address := List Nat

/-- What a part of a value is there for. -/
inductive Role where
  /-- Plain data. -/
  | data
  /-- The value of a `dynamic` key, or an item of a list that is one: labels with bodies of blocks. -/
  | blocks
  /-- A list of bodies under one label. -/
  | bodies (label : String)
  /-- The body of a block. -/
  | body (label : String)
  deriving DecidableEq, Repr

namespace Role

/-- The role of an item of a list, by the role of the list. -/
def ofItem : Role → Role
  | .data | .body _ => .data
  | .blocks => .blocks
  | .bodies label => .body label

/-- The role of the value under a key, by the role of the object. Inside of a body a `dynamic` key
declares blocks again, but among labels it is a label like any other. -/
def ofField (key : String) (value : Value) : Role → Role
  | .blocks =>
    match value with
    | .array _ => .bodies key
    | _ => .body key
  | _ => if isDynamic key value then .blocks else .data

end Role

/-- A part of a value, with its role. -/
structure Part where
  role : Role
  value : Value

/-- A value as the whole of a configuration. -/
def whole (value : Value) : Part := ⟨.data, value⟩

namespace Part

/-- The parts one step further in: the items of a list or the values of an object. -/
def children : Part → List Part
  | ⟨role, .array items⟩ => items.map fun item => ⟨role.ofItem, item⟩
  | ⟨role, .object fields⟩ => fields.map fun field => ⟨role.ofField field.1 field.2, field.2⟩
  | _ => []

/-- The part at an address. -/
def at? : Address → Part → Option Part
  | [], part => some part
  | position :: address, part => part.children[position]?.bind (at? address)

/-- The block of which a part is the body. -/
def block? : Part → Option DeclaredBlock
  | ⟨.body label, body⟩ => some ⟨label, body⟩
  | _ => none

/-- The blocks around an address, outermost first: those whose bodies stand at a beginning of it. -/
def blocksAround (part : Part) (address : Address) : List DeclaredBlock :=
  address.inits.filterMap fun start => (part.at? start).bind block?

theorem isCompound_of_child {part child : Part} {position : Nat}
    (h : part.children[position]? = some child) : part.value.isCompound = true := by
  obtain ⟨role, value⟩ := part
  cases value with
  | array _ | object _ => rfl
  | _ => simp [children] at h

section Step

variable {part child : Part} {position : Nat}

theorem at?_cons (h : part.children[position]? = some child) (address : Address) :
    part.at? (position :: address) = child.at? address := by
  rw [at?, h, Option.bind_some]

/-- A step further in adds the block of which the part is the body, if it is one. -/
theorem blocksAround_cons (h : part.children[position]? = some child) (address : Address) :
    part.blocksAround (position :: address) = part.block?.toList ++ child.blocksAround address := by
  have hinner : (address.inits.map (position :: ·)).filterMap
      (fun start => (part.at? start).bind block?) = child.blocksAround address := by
    rw [List.filterMap_map]
    exact List.filterMap_congr fun start _ => by rw [Function.comp_apply, at?_cons h]
  rw [blocksAround, List.inits_cons, List.filterMap_cons, hinner, at?, Option.bind_some]
  cases part.block? <;> rfl

end Step

end Part

/-! ### Strings and their addresses -/

/-- What is found in the part at a position, as it is found from one step further out. -/
def beneath (position : Nat) (found : Address × String) : Address × String :=
  (position :: found.1, found.2)

mutual

/-- The strings of a value in document order, each with its address. -/
def located : Value → List (Address × String)
  | .string text => [([], text)]
  | .array items => locatedItems 0 items
  | .object fields => locatedFields 0 fields
  | _ => []

/-- The strings of the items of a list, the first of which has the given position. -/
def locatedItems (position : Nat) : List Value → List (Address × String)
  | [] => []
  | item :: rest => (located item).map (beneath position) ++ locatedItems (position + 1) rest

/-- The strings of the fields of an object, the first of which has the given position. -/
def locatedFields (position : Nat) : List (String × Value) → List (Address × String)
  | [] => []
  | (_, value) :: rest =>
    (located value).map (beneath position) ++ locatedFields (position + 1) rest

end

theorem locatedItems_eq : ∀ (items : List Value) (position : Nat), locatedItems position items
    = (items.zipIdx position).flatMap fun item => (located item.1).map (beneath item.2)
  | [], _ => rfl
  | item :: rest, position => by
    rw [locatedItems, locatedItems_eq rest, List.zipIdx_cons, List.flatMap_cons]

theorem locatedFields_eq : ∀ (fields : List (String × Value)) (position : Nat),
    locatedFields position fields = locatedItems position (fields.map Prod.snd)
  | [], _ => rfl
  | (key, value) :: rest, position => by
    rw [locatedFields, locatedFields_eq rest, List.map_cons, locatedItems]

/-- The strings of a part that is none itself are those of its children. -/
theorem located_of_children {part : Part} (h : ∀ text, part.value ≠ .string text) :
    located part.value
      = part.children.zipIdx.flatMap fun child => (located child.1.value).map (beneath child.2) := by
  have hlocated (parts : List Part) : locatedItems 0 (parts.map Part.value)
      = parts.zipIdx.flatMap fun child => (located child.1.value).map (beneath child.2) := by
    rw [locatedItems_eq, List.zipIdx_map, List.flatMap_map]
    rfl
  obtain ⟨role, value⟩ := part
  cases value with
  | string text => exact absurd rfl (h text)
  | array items =>
    rw [← hlocated, Part.children, List.map_map]
    simp [located, Function.comp_def]
  | object fields =>
    rw [← hlocated, Part.children, List.map_map]
    simp [located, locatedFields_eq, Function.comp_def]
  | _ => rfl

theorem at?_cons_string {text : String} {role : Role} (position : Nat) (address : Address) :
    Part.at? (position :: address) ⟨role, .string text⟩ = none := by
  simp [Part.at?, Part.children]

/-- **The strings are listed with the addresses at which they stand.** -/
theorem mem_located_iff {text : String} {address : Address} : ∀ {part : Part},
    (address, text) ∈ located part.value ↔ ∃ role, part.at? address = some ⟨role, .string text⟩ := by
  induction address with
  | nil =>
    intro part
    by_cases h : ∃ other, part.value = .string other
    · obtain ⟨role, _⟩ := part
      obtain ⟨other, rfl⟩ := h
      simp [located, Part.at?, eq_comm]
    · rw [located_of_children fun other hother => h ⟨other, hother⟩]
      constructor
      · intro hmem
        simp [beneath] at hmem
      · rintro ⟨role, hpart⟩
        exact absurd ⟨text, by rw [Option.some.inj hpart]⟩ h
  | cons position address ih =>
    intro part
    by_cases h : ∃ other, part.value = .string other
    · obtain ⟨role, _⟩ := part
      obtain ⟨other, rfl⟩ := h
      simp [located, at?_cons_string]
    · rw [located_of_children fun other hother => h ⟨other, hother⟩]
      simp only [List.mem_flatMap, List.mem_map, List.mem_zipIdx_iff_getElem?, Prod.exists]
      constructor
      · rintro ⟨child, _, hchild, _, _, hfound, heq⟩
        obtain ⟨haddress, rfl⟩ := Prod.mk.inj heq
        obtain ⟨rfl, rfl⟩ := List.cons.inj haddress
        obtain ⟨role, hrole⟩ := ih.1 hfound
        exact ⟨role, by rw [Part.at?_cons hchild, hrole]⟩
      · rintro ⟨role, hrole⟩
        obtain ⟨child, hchild, hrole⟩ := Option.bind_eq_some_iff.1 hrole
        exact ⟨child, position, hchild, address, text, ih.2 ⟨role, hrole⟩, rfl⟩

theorem pairwise_beneath {found : List (Address × String)} (position : Nat)
    (h : found.Pairwise fun a b => a.1 < b.1) :
    (found.map (beneath position)).Pairwise fun a b => a.1 < b.1 := by
  rw [List.pairwise_map]
  exact h.imp fun hlt => List.cons_lt_cons_iff.2 (Or.inr ⟨rfl, hlt⟩)

/-- What stands at a position comes before everything at later ones. -/
theorem lt_of_mem_locatedItems {items : List Value} {position next : Nat} (h : position < next)
    {a b : Address × String} (hmem : b ∈ locatedItems next items) :
    (beneath position a).1 < b.1 := by
  rw [locatedItems_eq, List.mem_flatMap] at hmem
  obtain ⟨item, hitem, hmem⟩ := hmem
  obtain ⟨found, -, rfl⟩ := List.mem_map.1 hmem
  have hle : next ≤ item.2 := List.le_snd_of_mem_zipIdx hitem
  exact List.cons_lt_cons_iff.2 (Or.inl (by omega))

theorem pairwise_locatedItems_cons {item : Value} {rest : List Value} {position : Nat}
    (hitem : (located item).Pairwise fun a b => a.1 < b.1)
    (hrest : (locatedItems (position + 1) rest).Pairwise fun a b => a.1 < b.1) :
    (locatedItems position (item :: rest)).Pairwise fun a b => a.1 < b.1 := by
  rw [locatedItems, List.pairwise_append]
  refine ⟨pairwise_beneath position hitem, hrest, fun a ha b hb => ?_⟩
  obtain ⟨a, -, rfl⟩ := List.mem_map.1 ha
  exact lt_of_mem_locatedItems (Nat.lt_succ_self position) hb

mutual

/-- **The addresses increase**, so no string is listed twice. -/
theorem pairwise_located : ∀ value : Value, (located value).Pairwise fun a b => a.1 < b.1
  | .string _ => List.pairwise_singleton _ _
  | .array items => pairwise_locatedItems items 0
  | .object fields => by
    rw [located, locatedFields_eq]
    exact pairwise_locatedFields fields 0
  | .null | .bool _ | .number _ => List.Pairwise.nil

theorem pairwise_locatedItems : ∀ (items : List Value) (position : Nat),
    (locatedItems position items).Pairwise fun a b => a.1 < b.1
  | [], _ => List.Pairwise.nil
  | item :: rest, position =>
    pairwise_locatedItems_cons (pairwise_located item) (pairwise_locatedItems rest (position + 1))

theorem pairwise_locatedFields : ∀ (fields : List (String × Value)) (position : Nat),
    (locatedItems position (fields.map Prod.snd)).Pairwise fun a b => a.1 < b.1
  | [], _ => List.Pairwise.nil
  | (_, value) :: rest, position =>
    pairwise_locatedItems_cons (pairwise_located value) (pairwise_locatedFields rest (position + 1))

end

end ConfigRefs.Value
