import ConfigRefs.Proofs.Value.Address
import ConfigRefs.Proofs.Value.Calls

/-!
# Value: the scope of every string

A walk reports the strings of a value except those that stand where labels of blocks are expected
(`Part.reported`). Each comes with the scope that the walk began with, followed by the loop variables
of the blocks around its address (`scopeAt`). `calls_eq_reported` says so of the calls that a walk
makes and `visitStrings_scopes` of every walk. `Part.nested` is the same list with the blocks in place
of addresses, and it satisfies the equations of the walk.
-/

namespace ConfigRefs.Value

open ConfigRefs.Declaration

namespace Part

/-- Whether a walk reports the string at an address. -/
def isReported (part : Part) (address : Address) : Bool :=
  (part.at? address).map Part.role != some .blocks

/-- The strings that a walk reports, each with its address. -/
def reported (part : Part) : List (Address × String) :=
  (located part.value).filter fun found => part.isReported found.1

/-- The strings that a walk reports, each with the blocks around it. -/
def nested (part : Part) : List (String × List DeclaredBlock) :=
  part.reported.map fun found => (found.2, part.blocksAround found.1)

/-- A string with the blocks around it, inside of one block more. -/
def surround (block : Option DeclaredBlock) (entry : String × List DeclaredBlock) :
    String × List DeclaredBlock :=
  (entry.1, block.toList ++ entry.2)

theorem surround_none : surround none = id := rfl

/-- **A string is reported iff it stands at its address as anything but a declaration of blocks.** -/
theorem mem_reported_iff {part : Part} {address : Address} {text : String} :
    (address, text) ∈ part.reported
      ↔ ∃ role ≠ Role.blocks, part.at? address = some ⟨role, .string text⟩ := by
  rw [reported, List.mem_filter, mem_located_iff]
  constructor
  · rintro ⟨⟨role, hrole⟩, hreported⟩
    refine ⟨role, ?_, hrole⟩
    rintro rfl
    simp [isReported, hrole] at hreported
  · rintro ⟨role, hne, hrole⟩
    refine ⟨⟨role, hrole⟩, ?_⟩
    simpa [isReported, hrole] using hne

/-! ### Equations of the reported strings -/

theorem reported_of_children {part : Part} (h : ∀ text, part.value ≠ .string text) :
    part.reported
      = part.children.zipIdx.flatMap fun child => child.1.reported.map (beneath child.2) := by
  rw [reported, located_of_children h, List.filter_flatMap]
  refine List.flatMap_congr fun child hchild => ?_
  have hposition : part.children[child.2]? = some child.1 := List.mem_zipIdx_iff_getElem?.1 hchild
  rw [List.filter_map, reported]
  refine congrArg _ (List.filter_congr fun found _ => ?_)
  rw [Function.comp_apply, beneath, isReported, isReported, at?_cons hposition]

/-- The strings of a part that is none itself stand in its children, and in its block. -/
theorem nested_of_children {part : Part} (h : ∀ text, part.value ≠ .string text) :
    part.nested = part.children.flatMap fun child => child.nested.map (surround part.block?) := by
  have hzip : part.nested
      = part.children.zipIdx.flatMap fun child => child.1.nested.map (surround part.block?) := by
    rw [nested, reported_of_children h, List.map_flatMap]
    refine List.flatMap_congr fun child hchild => ?_
    have hposition : part.children[child.2]? = some child.1 := List.mem_zipIdx_iff_getElem?.1 hchild
    rw [nested, List.map_map, List.map_map]
    refine List.map_congr_left fun found _ => ?_
    rw [Function.comp_apply, Function.comp_apply, beneath, blocksAround_cons hposition]
    rfl
  rw [hzip, ← List.flatMap_map Prod.fst (fun child : Part => child.nested.map (surround part.block?)),
    List.zipIdx_map_fst]

theorem nested_array (role : Role) (items : List Value) : nested ⟨role, .array items⟩
    = items.flatMap fun item =>
        (nested ⟨role.ofItem, item⟩).map (surround (block? ⟨role, .array items⟩)) := by
  rw [nested_of_children (by simp), children, List.flatMap_map]

theorem nested_object (role : Role) (fields : List (String × Value)) : nested ⟨role, .object fields⟩
    = fields.flatMap fun field =>
        (nested ⟨role.ofField field.1 field.2, field.2⟩).map
          (surround (block? ⟨role, .object fields⟩)) := by
  rw [nested_of_children (by simp), children, List.flatMap_map]

theorem nested_data_string (text : String) : nested ⟨.data, .string text⟩ = [(text, [])] := rfl

theorem nested_data_array (items : List Value) :
    nested ⟨.data, .array items⟩ = items.flatMap fun item => nested ⟨.data, item⟩ := by
  simp only [nested_array, block?, surround_none, List.map_id, Role.ofItem]

theorem nested_data_object (fields : List (String × Value)) :
    nested ⟨.data, .object fields⟩ = fields.flatMap fun field =>
      nested ⟨if isDynamic field.1 field.2 then .blocks else .data, field.2⟩ := by
  simp only [nested_object, block?, surround_none, List.map_id, Role.ofField]

/-- A body is read like plain data, and everything in it is inside of its block. -/
theorem nested_body (label : String) (body : Value) : nested ⟨.body label, body⟩
    = (nested ⟨.data, body⟩).map (surround (some ⟨label, body⟩)) := by
  cases body with
  | string text => rfl
  | array items =>
    rw [nested_data_array, nested_array, List.map_flatMap]
    rfl
  | object fields =>
    rw [nested_data_object, nested_object, List.map_flatMap]
    rfl
  | _ => rfl

theorem nested_label (label : String) (value : Value) :
    nested ⟨Role.ofField label value .blocks, value⟩
      = (blocksOfLabel label value).flatMap fun block => nested ⟨.body block.label, block.body⟩ := by
  cases value with
  | array bodies =>
    simp only [Role.ofField, nested_array, block?, surround_none, List.map_id, Role.ofItem,
      blocksOfLabel, List.flatMap_map]
  | _ => simp only [Role.ofField, blocksOfLabel, List.flatMap_singleton]

mutual

/-- **Where blocks are declared, the reported strings are those in the bodies of the blocks.** -/
theorem nested_blocks : ∀ value : Value, nested ⟨.blocks, value⟩
    = value.declaredBlocks.flatMap fun block => nested ⟨.body block.label, block.body⟩
  | .array items => by
    rw [declaredBlocks, ← nested_blocksOfAll]
    simp only [nested_array, block?, surround_none, List.map_id, Role.ofItem]
  | .object labels => by
    rw [declaredBlocks, List.flatMap_assoc]
    simp only [nested_object, block?, surround_none, List.map_id, nested_label]
  | .string _ | .null | .bool _ | .number _ => rfl

theorem nested_blocksOfAll : ∀ items : List Value,
    (items.flatMap fun item => nested ⟨.blocks, item⟩)
      = (declaredBlocksOfAll items).flatMap fun block => nested ⟨.body block.label, block.body⟩
  | [] => rfl
  | item :: rest => by
    rw [List.flatMap_cons, declaredBlocksOfAll, List.flatMap_append, nested_blocks item,
      nested_blocksOfAll rest]

end

end Part

/-! ### The scopes of a walk -/

/-- The scope at an address of a value: the one that the value is in, extended by the loop variables of
the blocks around the address. -/
def scopeAt (scope : Scope) (value : Value) (address : Address) : Scope :=
  ⟨scope.names ++ (value.whole.blocksAround address).map (·.loopVariable)⟩

/-- A string with the loop variables of the blocks around it. -/
def withScope (scope : Scope) (entry : String × List DeclaredBlock) : String × Scope :=
  (entry.1, ⟨scope.names ++ entry.2.map (·.loopVariable)⟩)

theorem withScope_surround (scope : Scope) (block : DeclaredBlock)
    (entry : String × List DeclaredBlock) :
    withScope scope (Part.surround (some block) entry)
      = withScope (scope.extend block.loopVariable) entry := by
  simp [withScope, Part.surround, Scope.extend]

theorem calls_eq_nested (value : Value) : ∀ scope : Scope,
    calls scope value = value.whole.nested.map (withScope scope) := by
  induction value using walk_induction with
  | null => intro scope; rw [calls_null]; rfl
  | bool _ => intro scope; rw [calls_bool]; rfl
  | number _ => intro scope; rw [calls_number]; rfl
  | string text =>
    intro scope
    rw [calls_string, whole, Part.nested_data_string]
    simp [withScope]
  | array items ih =>
    intro scope
    rw [calls_array, whole, Part.nested_data_array, List.map_flatMap]
    exact List.flatMap_congr fun item hitem => ih item hitem scope
  | object fields ihField ihBlock =>
    intro scope
    rw [calls_object, whole, Part.nested_data_object, List.map_flatMap]
    refine List.flatMap_congr fun field hfield => ?_
    cases hdyn : isDynamic field.1 field.2 with
    | true =>
      simp only [if_true]
      rw [Part.nested_blocks, List.map_flatMap]
      refine List.flatMap_congr fun block hblock => ?_
      -- the walk extends the scope on entering the block, the address adds the block in front
      rw [ihBlock field hfield hdyn block hblock, Part.nested_body, List.map_map]
      exact List.map_congr_left fun entry _ => (withScope_surround scope block entry).symm
    | false => simpa [whole] using ihField field hfield hdyn scope

/-- **The calls of a walk** are the reported strings, each with the scope at its address. -/
theorem calls_eq_reported (scope : Scope) (value : Value) :
    calls scope value
      = value.whole.reported.map fun found => (found.2, scopeAt scope value found.1) := by
  rw [calls_eq_nested, Part.nested, List.map_map]
  rfl

/-- **A walk hands every string the loop variables of the blocks around it**, outermost first, behind
the scope that it began with, whatever the visitor does. -/
theorem visitStrings_scopes {m : Type → Type} [Monad m] [LawfulMonad m]
    (visit : String → Scope → m Unit) (scope : Scope) (value : Value) :
    visitStrings visit scope value
        = (value.whole.reported.forM fun found => visit found.2 (scopeAt scope value found.1)) ∧
      (∀ (address : Address) (text : String), (address, text) ∈ value.whole.reported
        ↔ ∃ role ≠ Role.blocks, value.whole.at? address = some ⟨role, .string text⟩) ∧
      value.whole.reported.Pairwise fun a b => a.1 < b.1 := by
  refine ⟨?_, fun address text => Part.mem_reported_iff, (pairwise_located value).filter _⟩
  rw [visitStrings_eq_forM_calls, calls_eq_reported]
  simp only [List.forM_eq_forM, List.forM_map]

/-- Two bodies of one label in a list in a list, the first with an iterator and a block inside, and a
string behind all of them. -/
theorem visitStrings_scopes_repeated :
    let value : Value := .object [
      ("dynamic", .array [.object [("setting", .array [
        .object [("iterator", .string "$\x7b s \x7d"), ("content", .object [
          ("dynamic", .object [("inner", .object [("a", .string "x")])]), ("b", .string "y")])],
        .object [("content", .string "z")]])]]),
      ("after", .string "w")]
    ((visitStrings record ⟨["outer"]⟩ value).run []).2
      = [("$\x7b s \x7d", ⟨["outer", "s"]⟩), ("x", ⟨["outer", "s", "inner"]⟩),
         ("y", ⟨["outer", "s"]⟩), ("z", ⟨["outer", "setting"]⟩), ("w", ⟨["outer"]⟩)] := by
  intro value
  rw [(visitStrings_scopes record ⟨["outer"]⟩ value).1]
  decide +kernel

end ConfigRefs.Value
