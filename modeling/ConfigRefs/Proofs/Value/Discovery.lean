import ConfigRefs.Proofs.Value.LoopScope

/-!
# Value: the blocks that discovery lists, and the walk

Discovery lists the outermost dynamic blocks of a value and does not look into them, a walk goes on
into their bodies and extends the scope. `outermost` are the blocks at which discovery stops
(`dynamicBlocks_eq_map_outermost`). The strings that a walk reports inside of blocks are those in the
bodies of these blocks, in the same order (`inside_eq_outermost`), so discovery and the walk agree on
what a dynamic block is (`walk_of_dynamicBlocks`).
-/

namespace ConfigRefs.Value

open ConfigRefs.Declaration

/-- A block, with the place of the object under whose `dynamic` key it is declared. -/
structure PlacedBlock where
  place : String
  block : DeclaredBlock

/-- What discovery lists of a block. -/
def PlacedBlock.listed (found : PlacedBlock) : DynamicBlock := blockAt found.place found.block

mutual

/-- The blocks of a value at a place that stand in no other block. -/
def outermostFrom (path : String) : Value → List PlacedBlock
  | .array items => outermostOfItems path 0 items
  | .object fields => outermostOfFields path fields
  | _ => []

/-- The outermost blocks of the items of a list, the first of which has the given index. -/
def outermostOfItems (path : String) (index : Nat) : List Value → List PlacedBlock
  | [] => []
  | item :: rest =>
    outermostFrom (joinPath path (toString index)) item ++ outermostOfItems path (index + 1) rest

/-- The outermost blocks of the fields of an object. -/
def outermostOfFields (path : String) : List (String × Value) → List PlacedBlock
  | [] => []
  | (key, value) :: rest =>
    (if isDynamic key value then value.declaredBlocks.map (PlacedBlock.mk path)
      else outermostFrom (joinPath path key) value) ++ outermostOfFields path rest

end

/-- The blocks of a value that stand in no other block. -/
def outermost (value : Value) : List PlacedBlock := outermostFrom "" value

/-! ### Discovery -/

mutual

theorem blocksFrom_eq_map_outermostFrom : ∀ (value : Value) (path : String),
    blocksFrom path value = (outermostFrom path value).map PlacedBlock.listed
  | .array items, path => blocksOfItems_eq_map_outermostOfItems items path 0
  | .object fields, path => blocksOfFields_eq_map_outermostOfFields fields path
  | .null, _ | .bool _, _ | .number _, _ | .string _, _ => rfl

theorem blocksOfItems_eq_map_outermostOfItems : ∀ (items : List Value) (path : String) (index : Nat),
    blocksOfItems path index items = (outermostOfItems path index items).map PlacedBlock.listed
  | [], _, _ => rfl
  | item :: rest, path, index => by
    rw [blocksOfItems, outermostOfItems, List.map_append, blocksFrom_eq_map_outermostFrom item,
      blocksOfItems_eq_map_outermostOfItems rest]

theorem blocksOfFields_eq_map_outermostOfFields : ∀ (fields : List (String × Value)) (path : String),
    blocksOfFields path fields = (outermostOfFields path fields).map PlacedBlock.listed
  | [], _ => rfl
  | (key, value) :: rest, path => by
    rw [blocksOfFields, outermostOfFields, List.map_append,
      blocksOfFields_eq_map_outermostOfFields rest]
    split
    · rw [List.map_map]
      rfl
    · rw [blocksFrom_eq_map_outermostFrom value]

end

/-- **Discovery lists the outermost blocks.** -/
theorem dynamicBlocks_eq_map_outermost (value : Value) :
    dynamicBlocks value = (outermost value).map PlacedBlock.listed :=
  blocksFrom_eq_map_outermostFrom value ""

/-! ### The strings inside of blocks -/

/-- The strings that stand inside of a block. -/
def inside (entries : List (String × List DeclaredBlock)) : List (String × List DeclaredBlock) :=
  entries.filter fun entry => !entry.2.isEmpty

/-- The strings in the body of a block, each with that block around it. -/
def enclosed (block : DeclaredBlock) : List (String × List DeclaredBlock) :=
  block.body.whole.nested.map (Part.surround (some block))

theorem inside_append (a b : List (String × List DeclaredBlock)) :
    inside (a ++ b) = inside a ++ inside b := List.filter_append ..

theorem nested_blocks_eq_enclosed (value : Value) :
    Part.nested ⟨.blocks, value⟩ = value.declaredBlocks.flatMap enclosed := by
  rw [Part.nested_blocks]
  exact List.flatMap_congr fun block _ => Part.nested_body block.label block.body

/-- Everything that is declared as a block stands inside of one. -/
theorem inside_nested_blocks (value : Value) :
    inside (Part.nested ⟨.blocks, value⟩) = value.declaredBlocks.flatMap enclosed := by
  rw [nested_blocks_eq_enclosed, inside, List.filter_eq_self]
  intro entry hentry
  obtain ⟨block, -, hentry⟩ := List.mem_flatMap.1 hentry
  obtain ⟨inner, -, rfl⟩ := List.mem_map.1 hentry
  rfl

mutual

theorem inside_eq_outermostFrom : ∀ (value : Value) (path : String), inside value.whole.nested
    = (outermostFrom path value).flatMap fun found => enclosed found.block
  | .array items, path => by
    rw [whole, Part.nested_data_array, outermostFrom]
    exact inside_eq_outermostOfItems items path 0
  | .object fields, path => by
    rw [whole, Part.nested_data_object, outermostFrom]
    exact inside_eq_outermostOfFields fields path
  | .null, _ | .bool _, _ | .number _, _ | .string _, _ => rfl

theorem inside_eq_outermostOfItems : ∀ (items : List Value) (path : String) (index : Nat),
    inside (items.flatMap fun item => Part.nested ⟨.data, item⟩)
      = (outermostOfItems path index items).flatMap fun found => enclosed found.block
  | [], _, _ => rfl
  | item :: rest, path, index => by
    have hitem := inside_eq_outermostFrom item (joinPath path (toString index))
    rw [whole] at hitem
    rw [List.flatMap_cons, inside_append, hitem, inside_eq_outermostOfItems rest path (index + 1),
      outermostOfItems, List.flatMap_append]

theorem inside_eq_outermostOfFields : ∀ (fields : List (String × Value)) (path : String),
    inside (fields.flatMap fun field =>
        Part.nested ⟨if isDynamic field.1 field.2 then .blocks else .data, field.2⟩)
      = (outermostOfFields path fields).flatMap fun found => enclosed found.block
  | [], _ => rfl
  | (key, value) :: rest, path => by
    rw [List.flatMap_cons, inside_append, inside_eq_outermostOfFields rest path, outermostOfFields,
      List.flatMap_append]
    congr 1
    split
    · rw [inside_nested_blocks, List.flatMap_map]
    · exact inside_eq_outermostFrom value (joinPath path key)

end

/-- **The strings inside of blocks are those in the bodies of the outermost blocks**, in their order. -/
theorem inside_eq_outermost (value : Value) :
    inside value.whole.nested = (outermost value).flatMap fun found => enclosed found.block :=
  inside_eq_outermostFrom value ""

/-- The outermost block around a string is one at which discovery stops. -/
theorem exists_outermost {value : Value} {address : Address} {text : String}
    (hreported : (address, text) ∈ value.whole.reported)
    (haround : value.whole.blocksAround address ≠ []) : ∃ found ∈ outermost value,
      (value.whole.blocksAround address).head? = some found.block := by
  have hinside : (text, value.whole.blocksAround address) ∈ inside value.whole.nested :=
    List.mem_filter.2 ⟨List.mem_map.2 ⟨_, hreported, rfl⟩, by simpa using haround⟩
  rw [inside_eq_outermost] at hinside
  obtain ⟨found, hfound, hinside⟩ := List.mem_flatMap.1 hinside
  obtain ⟨inner, -, hinner⟩ := List.mem_map.1 hinside
  refine ⟨found, hfound, ?_⟩
  rw [← (Prod.mk.inj hinner).2]
  rfl

/-! ### The calls inside of blocks -/

/-- The scope of the body of a block that stands in no other. -/
def bodyScope (block : DeclaredBlock) : Scope := Scope.empty.extend block.loopVariable

theorem calls_body (block : DeclaredBlock) :
    calls (bodyScope block) block.body = (enclosed block).map (withScope .empty) := by
  rw [calls_eq_nested, enclosed, List.map_map]
  exact List.map_congr_left fun entry _ => (withScope_surround .empty block entry).symm

/-- The calls inside of blocks are those for the strings inside of blocks. -/
theorem filter_calls (value : Value) : (calls .empty value).filter (fun call => !call.2.isEmpty)
    = (inside value.whole.nested).map (withScope .empty) := by
  rw [calls_eq_nested, List.filter_map, inside]
  refine congrArg _ (List.filter_congr fun entry _ => ?_)
  simp [withScope, Scope.empty, Scope.isEmpty]

/-- A walk keeps the scope that it began with in front. -/
theorem names_prefix_of_mem_calls {scope : Scope} {value : Value} {call : String × Scope}
    (h : call ∈ calls scope value) : scope.names <+: call.2.names := by
  rw [calls_eq_nested] at h
  obtain ⟨entry, -, rfl⟩ := List.mem_map.1 h
  exact List.prefix_append _ _

/-- What is reported under a key of an object, apart from `dynamic`, is reported in the object. -/
theorem calls_field_infix (scope : Scope) {key : String} (hkey : key ≠ "dynamic") (value : Value) :
    calls scope (value.field key) <:+: calls scope value := by
  cases value with
  | object fields =>
    rw [field]
    cases hlookup : fields.lookup key with
    | none => simp
    | some inner =>
      obtain ⟨before, after, rfl, -⟩ := List.lookup_eq_some_iff.1 hlookup
      have hplain : isDynamic key inner = false := by
        cases inner <;> simp [isDynamic, hkey]
      rw [Option.getD_some, calls_object, List.flatMap_append, List.flatMap_cons]
      simp only [hplain, Bool.false_eq_true, if_false]
      exact ⟨_, _, List.append_assoc _ _ _⟩
  | _ => simp [field]

/-- **Discovery and the walk agree on what a dynamic block is.** What a walk reports with loop variables
in scope is what it reports in the bodies of the listed blocks, in their order. The first loop variable
of a string is that of the listed block in which it stands, also for the strings of its collection and
of its content, and if no block is listed then no string has a loop variable. -/
theorem walk_of_dynamicBlocks (value : Value) :
    dynamicBlocks value = (outermost value).map PlacedBlock.listed ∧
    (calls .empty value).filter (fun call => !call.2.isEmpty)
      = (outermost value).flatMap (fun found =>
          calls ⟨[found.listed.loopVariable]⟩ found.block.body) ∧
    (∀ address text, (address, text) ∈ value.whole.reported →
      scopeAt .empty value address ≠ .empty → ∃ found ∈ outermost value,
        (value.whole.blocksAround address).head? = some found.block ∧
        (scopeAt .empty value address).names.head? = some found.listed.loopVariable) ∧
    (∀ found ∈ outermost value,
      let reported := calls ⟨[found.listed.loopVariable]⟩
      (∀ call ∈ reported found.block.body,
        call.2.names.head? = some found.listed.loopVariable) ∧
      reported found.listed.forEach <:+: reported found.block.body ∧
      reported found.listed.content <:+: reported found.block.body) ∧
    (dynamicBlocks value = [] → ∀ call ∈ calls .empty value, call.2 = .empty) := by
  have hcalls : (calls .empty value).filter (fun call => !call.2.isEmpty)
      = (outermost value).flatMap fun found =>
          calls ⟨[found.listed.loopVariable]⟩ found.block.body := by
    rw [filter_calls, inside_eq_outermost, List.map_flatMap]
    exact List.flatMap_congr fun found _ => (calls_body found.block).symm
  refine ⟨dynamicBlocks_eq_map_outermost value, hcalls, ?_, ?_, ?_⟩
  · intro address text hreported hscope
    have haround : value.whole.blocksAround address ≠ [] := by
      intro hnone
      exact hscope (by rw [scopeAt, hnone]; rfl)
    obtain ⟨found, hfound, hhead⟩ := exists_outermost hreported haround
    refine ⟨found, hfound, hhead, ?_⟩
    rw [scopeAt, Scope.empty, List.nil_append, List.head?_map, hhead]
    rfl
  · intro found _ reported
    refine ⟨fun call hcall => ?_, calls_field_infix _ (by decide) _,
      calls_field_infix _ (by decide) _⟩
    obtain ⟨inner, hinner⟩ := names_prefix_of_mem_calls hcall
    rw [← hinner]
    rfl
  · intro hnone call hcall
    rw [dynamicBlocks_eq_map_outermost, List.map_eq_nil_iff] at hnone
    rw [hnone, List.flatMap_nil, List.filter_eq_nil_iff] at hcalls
    have hempty : call.2.names = [] := by simpa [Scope.isEmpty] using hcalls call hcall
    exact congrArg Scope.mk hempty

/-- Two bodies of one label in a list in a list, the first with an iterator and a block inside. A string
under the key `dynamic` is no block. -/
theorem walk_of_dynamicBlocks_repeated :
    let plain : Value := .object [("dynamic", .string "a")]
    let value : Value := .object [("plain", plain), ("dynamic", .array [.object [("rule", .array [
      .object [("iterator", .string "r"), ("for_each", .string "b"), ("content", .object [
        ("dynamic", .object [("inner", .object [("content", .string "c")])])])],
      .object [("content", .string "d")]])]])]
    (outermost value).map (fun found => (found.listed.path, found.listed.loopVariable))
        = [("rule", "r"), ("rule", "rule")] ∧
      (calls .empty value).filter (fun call => !call.2.isEmpty)
        = [("r", ⟨["r"]⟩), ("b", ⟨["r"]⟩), ("c", ⟨["r", "inner"]⟩), ("d", ⟨["rule"]⟩)] ∧
      (∃ found ∈ outermost value,
        (scopeAt .empty value [1, 0, 0, 0, 2, 0, 0, 0]).names.head? = some found.listed.loopVariable) ∧
      dynamicBlocks plain = [] ∧ ∀ call ∈ calls .empty plain, call.2 = .empty := by
  intro plain value
  obtain ⟨-, hcalls, hfirst, -⟩ := walk_of_dynamicBlocks value
  obtain ⟨found, hfound, -, hhead⟩ := hfirst [1, 0, 0, 0, 2, 0, 0, 0] "c" (by decide +kernel)
    (by decide +kernel)
  refine ⟨by decide +kernel, ?_, ⟨found, hfound, hhead⟩, rfl,
    (walk_of_dynamicBlocks plain).2.2.2.2 rfl⟩
  rw [hcalls]
  simp only [calls_eq_reported]
  decide +kernel

end ConfigRefs.Value
