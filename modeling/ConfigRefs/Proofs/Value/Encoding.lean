import ConfigRefs.Proofs.Value.References

/-!
# Value: encodings of dynamic blocks

The same blocks can be declared in many ways: labels with one body or with a list of bodies, in an
object or in lists of objects (`Encodes`). What is declared is all that matters. If the value of a
`dynamic` key is replaced by one that declares the same blocks (`replaceAt`) then a walk reports the
same strings with the same scopes, at any place of the surrounding value (`Part.reports_replaceAt`),
and discovery lists the same blocks if the key stands in no other block (`blocksFrom_replaceAt`).
-/

namespace ConfigRefs.Value

open ConfigRefs.Declaration

/-! ### Encodings -/

/-- Whether a value is an object. -/
def isObject : Value → Bool
  | .object _ => true
  | _ => false

/-- A value encodes a sequence of blocks whose bodies are objects: an object that maps labels to a body
or to a list of bodies, or a list of encodings, read from left to right. -/
inductive Encodes : Value → List DeclaredBlock → Prop where
  | noLabel : Encodes (.object []) []
  | body {label : String} {body : Value} {labels : List (String × Value)}
      {blocks : List DeclaredBlock} : body.isObject = true → Encodes (.object labels) blocks →
    Encodes (.object ((label, body) :: labels)) (⟨label, body⟩ :: blocks)
  | bodies {label : String} {bodies : List Value} {labels : List (String × Value)}
      {blocks : List DeclaredBlock} : (∀ body ∈ bodies, body.isObject = true) →
    Encodes (.object labels) blocks →
    Encodes (.object ((label, .array bodies) :: labels)) (bodies.map (DeclaredBlock.mk label) ++ blocks)
  | noItem : Encodes (.array []) []
  | item {item : Value} {items : List Value} {first blocks : List DeclaredBlock} :
    Encodes item first → Encodes (.array items) blocks →
    Encodes (.array (item :: items)) (first ++ blocks)

/-- Two values that declare the same blocks under a `dynamic` key. -/
structure DeclareSame (a b : Value) : Prop where
  left : a.isCompound = true
  right : b.isCompound = true
  blocks : a.declaredBlocks = b.declaredBlocks

theorem Encodes.isCompound {value : Value} {blocks : List DeclaredBlock} (h : Encodes value blocks) :
    value.isCompound = true := by
  cases h <;> rfl

/-- **An encoding declares the blocks that it encodes.** -/
theorem Encodes.declaredBlocks_eq {value : Value} {blocks : List DeclaredBlock}
    (h : Encodes value blocks) : value.declaredBlocks = blocks := by
  induction h with
  | noLabel => rfl
  | @body label body labels blocks hbody _ ih =>
    have hone : blocksOfLabel label body = [⟨label, body⟩] := by
      cases body with
      | object fields => rfl
      | _ => cases hbody
    rw [declaredBlocks] at ih ⊢
    rw [List.flatMap_cons, ih, hone, List.singleton_append]
  | bodies _ _ ih =>
    rw [declaredBlocks] at ih ⊢
    rw [List.flatMap_cons, ih, blocksOfLabel]
  | noItem => rfl
  | item _ _ ihItem ihItems =>
    rw [declaredBlocks] at ihItems ⊢
    rw [declaredBlocksOfAll, ihItem, ihItems]

theorem Encodes.declareSame {a b : Value} {blocks : List DeclaredBlock} (ha : Encodes a blocks)
    (hb : Encodes b blocks) : DeclareSame a b :=
  ⟨ha.isCompound, hb.isCompound, ha.declaredBlocks_eq.trans hb.declaredBlocks_eq.symm⟩

/-! ### Replacing a part -/

/-- The value with another one in place of the part at an address. -/
def replaceAt : Value → Address → Value → Value
  | _, [], new => new
  | .array items, position :: address, new =>
    .array (items.modify position fun item => item.replaceAt address new)
  | .object fields, position :: address, new =>
    .object (fields.modify position fun field => (field.1, field.2.replaceAt address new))
  | value, _ :: _, _ => value

theorem replaceAt_nil (value new : Value) : value.replaceAt [] new = new := by
  rw [replaceAt]

theorem isCompound_replaceAt_cons (value : Value) (position : Nat) (address : Address) (new : Value) :
    (value.replaceAt (position :: address) new).isCompound = value.isCompound := by
  cases value <;> rfl

/-- Changing a member of a list leaves what stands before and behind it. -/
theorem exists_modify_eq {α : Type} {xs : List α} {position : Nat} {x : α}
    (h : xs[position]? = some x) (f : α → α) : ∃ before after, before.length = position ∧
      xs = before ++ x :: after ∧ xs.modify position f = before ++ f x :: after := by
  obtain ⟨hlt, rfl⟩ := List.getElem?_eq_some_iff.1 h
  refine ⟨xs.take position, xs.drop (position + 1), List.length_take_of_le (Nat.le_of_lt hlt), ?_,
    List.modify_eq_take_cons_drop hlt⟩
  rw [← List.drop_eq_getElem_cons hlt, List.take_append_drop]

namespace Part

/-- The part with another value in place of the one at an address. -/
def replaceAt (part : Part) (address : Address) (new : Value) : Part :=
  ⟨part.role, part.value.replaceAt address new⟩

section Children

variable {role : Role} {child : Part} {position : Nat}

/-- A child of a list is an item, and changing that leaves what stands before and behind it. -/
theorem exists_item_of_child {items : List Value}
    (h : (children ⟨role, .array items⟩)[position]? = some child) (f : Value → Value) :
    ∃ before item after, before.length = position ∧ child = ⟨role.ofItem, item⟩ ∧
      items = before ++ item :: after ∧ items.modify position f = before ++ f item :: after := by
  rw [children, List.getElem?_map, Option.map_eq_some_iff] at h
  obtain ⟨item, hitem, rfl⟩ := h
  obtain ⟨before, after, hlength, hitems, hmodify⟩ := exists_modify_eq hitem f
  exact ⟨before, item, after, hlength, rfl, hitems, hmodify⟩

/-- A child of an object is the value of a field. -/
theorem exists_field_of_child {fields : List (String × Value)}
    (h : (children ⟨role, .object fields⟩)[position]? = some child)
    (f : String × Value → String × Value) : ∃ before key value after, before.length = position ∧
      child = ⟨role.ofField key value, value⟩ ∧ fields = before ++ (key, value) :: after ∧
      fields.modify position f = before ++ f (key, value) :: after := by
  rw [children, List.getElem?_map, Option.map_eq_some_iff] at h
  obtain ⟨⟨key, value⟩, hfield, rfl⟩ := h
  obtain ⟨before, after, hlength, hfields, hmodify⟩ := exists_modify_eq hfield f
  exact ⟨before, key, value, after, hlength, rfl, hfields, hmodify⟩

end Children

section Replace

variable {a b : Value} (h : DeclareSame a b)
include h

theorem isCompound_of_at? {part : Part} {address : Address}
    (hat : part.at? address = some ⟨.blocks, a⟩) : part.value.isCompound = true := by
  cases address with
  | nil =>
    obtain rfl := Option.some.inj hat
    exact h.left
  | cons position address =>
    obtain ⟨child, hchild, -⟩ := Option.bind_eq_some_iff.1 hat
    exact isCompound_of_child hchild

theorem isCompound_replaceAt {part : Part} {address : Address}
    (hat : part.at? address = some ⟨.blocks, a⟩) :
    (part.value.replaceAt address b).isCompound = true := by
  cases address with
  | nil => exact (congrArg _ (replaceAt_nil _ _)).trans h.right
  | cons position address => rw [isCompound_replaceAt_cons, isCompound_of_at? h hat]

/-- A part around the replaced one keeps its role. -/
theorem ofField_replaceAt {role : Role} {key : String} {value : Value} {address : Address}
    (hat : Part.at? address ⟨role.ofField key value, value⟩ = some ⟨.blocks, a⟩) :
    role.ofField key (value.replaceAt address b) = role.ofField key value := by
  have hdynamic : isDynamic key (value.replaceAt address b) = isDynamic key value := by
    rw [isDynamic_eq, isDynamic_eq, isCompound_replaceAt h hat, isCompound_of_at? h hat]
  cases role with
  | blocks =>
    cases address with
    | nil =>
      -- a label is no place where blocks are declared
      have hrole := congrArg Part.role (Option.some.inj hat)
      cases value <;> cases hrole
    | cons position address => cases value <;> rfl
  | _ => simp only [Role.ofField, hdynamic]

/-- **Only the child on the way is changed.** -/
theorem children_replaceAt {part child : Part} {position : Nat} {address : Address}
    (hchild : part.children[position]? = some child)
    (hat : child.at? address = some ⟨.blocks, a⟩) : ∃ before after, before.length = position ∧
      part.children = before ++ child :: after ∧
      (part.replaceAt (position :: address) b).children
        = before ++ child.replaceAt address b :: after := by
  obtain ⟨role, value⟩ := part
  cases value with
  | array items =>
    obtain ⟨before, item, after, hlength, rfl, hitems, hmodify⟩ :=
      exists_item_of_child hchild fun item => item.replaceAt address b
    refine ⟨before.map (Part.mk role.ofItem), after.map (Part.mk role.ofItem), ?_, ?_, ?_⟩
    · rw [List.length_map, hlength]
    · rw [children, hitems, List.map_append, List.map_cons]
    · rw [replaceAt, Value.replaceAt, children, hmodify, List.map_append, List.map_cons]
      rfl
  | object fields =>
    obtain ⟨before, key, value, after, hlength, rfl, hfields, hmodify⟩ :=
      exists_field_of_child hchild fun field => (field.1, field.2.replaceAt address b)
    let ofField : String × Value → Part := fun field => ⟨role.ofField field.1 field.2, field.2⟩
    refine ⟨before.map ofField, after.map ofField, ?_, ?_, ?_⟩
    · rw [List.length_map, hlength]
    · rw [children, hfields, List.map_append, List.map_cons]
    · rw [replaceAt, Value.replaceAt, children, hmodify, List.map_append, List.map_cons,
        ofField_replaceAt h hat]
      rfl
  | _ => simp [children] at hchild

/-- The other value stands where the first one stood, in the same role. -/
theorem at?_replaceAt {address : Address} : ∀ {part : Part},
    part.at? address = some ⟨.blocks, a⟩ →
      (part.replaceAt address b).at? address = some ⟨.blocks, b⟩ := by
  induction address with
  | nil =>
    intro part hat
    obtain rfl := Option.some.inj hat
    rw [replaceAt, replaceAt_nil]
    rfl
  | cons position address ih =>
    intro part hat
    obtain ⟨child, hchild, hinner⟩ := Option.bind_eq_some_iff.1 hat
    obtain ⟨before, after, rfl, -, hchildren⟩ := children_replaceAt h hchild hinner
    have hnew : (part.replaceAt (before.length :: address) b).children[before.length]?
        = some (child.replaceAt address b) := by
      rw [hchildren, List.getElem?_append_right (Nat.le_refl _), Nat.sub_self]
      rfl
    rw [at?_cons hnew, ih hinner]

/-- An iterator that names the loop variable is a string, so it is never replaced. -/
theorem loopVariable_replaceAt {label : String} {body : Value} {child : Part} {position : Nat}
    {address : Address} (hchild : (⟨.body label, body⟩ : Part).children[position]? = some child)
    (hat : child.at? address = some ⟨.blocks, a⟩) :
    (DeclaredBlock.mk label (body.replaceAt (position :: address) b)).loopVariable
      = (DeclaredBlock.mk label body).loopVariable := by
  cases body with
  | object fields =>
    obtain ⟨before, key, value, after, -, rfl, hfields, hmodify⟩ :=
      exists_field_of_child hchild fun field => (field.1, field.2.replaceAt address b)
    have hold : value.isCompound = true := isCompound_of_at? h hat
    have hnew : (value.replaceAt address b).isCompound = true := isCompound_replaceAt h hat
    generalize value.replaceAt address b = new at hmodify hnew
    rw [Value.replaceAt, hmodify, hfields, DeclaredBlock.loopVariable, DeclaredBlock.loopVariable,
      field, field, List.lookup_append, List.lookup_append, List.lookup_cons, List.lookup_cons]
    cases before.lookup "iterator" with
    | some iterator => rfl
    | none =>
      cases "iterator" == key with
      | false => rfl
      | true =>
        obtain ⟨_, rfl⟩ | ⟨_, rfl⟩ := exists_of_isCompound hold <;>
          obtain ⟨_, rfl⟩ | ⟨_, rfl⟩ := exists_of_isCompound hnew <;> rfl
  | _ => rfl

end Replace

/-! ### What a walk reports of a part -/

/-- The strings that a walk reports of a part, each with its scope. -/
def reports (scope : Scope) (part : Part) : List (String × Scope) :=
  part.nested.map (withScope scope)

/-- The scope inside of a part. -/
def scopeInside (scope : Scope) (part : Part) : Scope :=
  ⟨scope.names ++ part.block?.toList.map (·.loopVariable)⟩

theorem reports_of_children (scope : Scope) {part : Part} (h : part.value.isCompound = true) :
    part.reports scope = part.children.flatMap (reports (part.scopeInside scope)) := by
  rw [reports, nested_of_children (ne_string_of_isCompound h), List.map_flatMap]
  refine List.flatMap_congr fun child _ => ?_
  rw [reports, List.map_map]
  refine List.map_congr_left fun entry _ => ?_
  simp [withScope, surround, scopeInside]

theorem reports_blocks (scope : Scope) (value : Value) : reports scope ⟨.blocks, value⟩
    = value.declaredBlocks.flatMap fun block => reports scope ⟨.body block.label, block.body⟩ := by
  rw [reports, nested_blocks, List.map_flatMap]
  rfl

theorem scopeInside_replaceAt {a b : Value} (h : DeclareSame a b) (scope : Scope) {part child : Part}
    {position : Nat} {address : Address} (hchild : part.children[position]? = some child)
    (hat : child.at? address = some ⟨.blocks, a⟩) :
    (part.replaceAt (position :: address) b).scopeInside scope = part.scopeInside scope := by
  obtain ⟨role, value⟩ := part
  cases role with
  | body label =>
    simp only [scopeInside, replaceAt, block?, Option.toList_some, List.map_singleton,
      loopVariable_replaceAt h hchild hat]
  | _ => rfl

/-- **A walk reports the same of every part around a `dynamic` key**, whichever of two values that
declare the same blocks stands there. -/
theorem reports_replaceAt {a b : Value} (h : DeclareSame a b) {address : Address} :
    ∀ {part : Part}, part.at? address = some ⟨.blocks, a⟩ → ∀ scope,
      (part.replaceAt address b).reports scope = part.reports scope := by
  induction address with
  | nil =>
    intro part hat scope
    obtain rfl := Option.some.inj hat
    rw [replaceAt, replaceAt_nil, reports_blocks, reports_blocks, h.blocks]
  | cons position address ih =>
    intro part hat scope
    obtain ⟨child, hchild, hat⟩ := Option.bind_eq_some_iff.1 hat
    obtain ⟨before, after, -, hchildren, hreplaced⟩ := children_replaceAt h hchild hat
    have hcompound : part.value.isCompound = true := isCompound_of_child hchild
    have hcompound' : (part.replaceAt (position :: address) b).value.isCompound = true :=
      (isCompound_replaceAt_cons _ _ _ _).trans hcompound
    rw [reports_of_children scope hcompound, reports_of_children scope hcompound',
      scopeInside_replaceAt h scope hchild hat, hchildren, hreplaced, List.flatMap_append,
      List.flatMap_append, List.flatMap_cons, List.flatMap_cons, ih hat]

/-! ### What discovery lists -/

/-- The body of a block stands inside of that block. -/
theorem blocksAround_body_ne_nil (label : String) (body : Value) (address : Address) :
    (⟨.body label, body⟩ : Part).blocksAround address ≠ [] := by
  cases address <;> simp [blocksAround, at?, block?]

/-- Whatever declares blocks under a label stands inside of a block. -/
theorem blocksAround_label_ne_nil {label : String} {value a : Value} {address : Address}
    (hat : Part.at? address ⟨Role.ofField label value .blocks, value⟩ = some ⟨.blocks, a⟩) :
    (⟨Role.ofField label value .blocks, value⟩ : Part).blocksAround address ≠ [] := by
  cases value with
  | array bodies =>
    cases address with
    | nil => cases hat
    | cons position address =>
      obtain ⟨child, hchild, -⟩ := Option.bind_eq_some_iff.1 hat
      rw [blocksAround_cons hchild]
      obtain ⟨_, body, _, -, rfl, -⟩ := exists_item_of_child hchild id
      exact List.append_ne_nil_of_right_ne_nil _ (blocksAround_body_ne_nil label body address)
  | _ => exact blocksAround_body_ne_nil label _ address

end Part

theorem declaredBlocksOfAll_eq (items : List Value) :
    declaredBlocksOfAll items = items.flatMap declaredBlocks := by
  induction items with
  | nil => rfl
  | cons item items ih => rw [declaredBlocksOfAll, ih, List.flatMap_cons]

theorem blocksOfItems_append (path : String) : ∀ (before after : List Value) (index : Nat),
    blocksOfItems path index (before ++ after)
      = blocksOfItems path index before ++ blocksOfItems path (index + before.length) after
  | [], _, _ => rfl
  | item :: before, after, index => by
    rw [List.cons_append, blocksOfItems, blocksOfItems, blocksOfItems_append path before,
      List.append_assoc, List.length_cons, Nat.add_right_comm, Nat.add_assoc index]

theorem blocksOfFields_append (path : String) : ∀ before after : List (String × Value),
    blocksOfFields path (before ++ after) = blocksOfFields path before ++ blocksOfFields path after
  | [], _ => rfl
  | (key, value) :: before, after => by
    rw [List.cons_append, blocksOfFields, blocksOfFields, blocksOfFields_append path before,
      List.append_assoc]

section Discovery

variable {a b : Value} (h : DeclareSame a b)
include h

/-- A list of declarations declares the same, if the replaced one stands in no block of it. -/
theorem declaredBlocks_replaceAt {address : Address} : ∀ {value : Value},
    Part.at? address ⟨.blocks, value⟩ = some ⟨.blocks, a⟩ →
      Part.blocksAround ⟨.blocks, value⟩ address = [] →
        (value.replaceAt address b).declaredBlocks = value.declaredBlocks := by
  induction address with
  | nil =>
    intro value hat _
    obtain rfl := congrArg Part.value (Option.some.inj hat)
    rw [replaceAt_nil, h.blocks]
  | cons position address ih =>
    intro value hat haround
    obtain ⟨child, hchild, hat⟩ := Option.bind_eq_some_iff.1 hat
    rw [Part.blocksAround_cons hchild, List.append_eq_nil_iff] at haround
    cases value with
    | array items =>
      obtain ⟨before, item, after, -, rfl, hitems, hmodify⟩ :=
        Part.exists_item_of_child hchild fun item => item.replaceAt address b
      rw [replaceAt, hmodify, hitems, declaredBlocks, declaredBlocks, declaredBlocksOfAll_eq,
        declaredBlocksOfAll_eq, List.flatMap_append, List.flatMap_append, List.flatMap_cons,
        List.flatMap_cons, ih hat haround.2]
    | object labels =>
      obtain ⟨_, label, body, _, -, rfl, -⟩ := Part.exists_field_of_child hchild id
      exact absurd haround.2 (Part.blocksAround_label_ne_nil hat)
    | _ => simp [Part.children] at hchild

/-- **Discovery lists the same blocks**, whichever of two values that declare the same blocks stands
under a `dynamic` key outside of all blocks. -/
theorem blocksFrom_replaceAt {address : Address} : ∀ {value : Value},
    value.whole.at? address = some ⟨.blocks, a⟩ → value.whole.blocksAround address = [] →
      ∀ path, blocksFrom path (value.replaceAt address b) = blocksFrom path value := by
  induction address with
  | nil => intro value hat; cases hat
  | cons position address ih =>
    intro value hat haround path
    obtain ⟨child, hchild, hat⟩ := Option.bind_eq_some_iff.1 hat
    rw [Part.blocksAround_cons hchild, List.append_eq_nil_iff] at haround
    cases value with
    | array items =>
      obtain ⟨before, item, after, -, rfl, hitems, hmodify⟩ :=
        Part.exists_item_of_child hchild fun item => item.replaceAt address b
      rw [replaceAt, hmodify, hitems, blocksFrom, blocksFrom, blocksOfItems_append,
        blocksOfItems_append, blocksOfItems, blocksOfItems, ih hat haround.2]
    | object fields =>
      obtain ⟨before, key, value, after, -, rfl, hfields, hmodify⟩ :=
        Part.exists_field_of_child hchild fun field => (field.1, field.2.replaceAt address b)
      have hdynamic : isDynamic key (value.replaceAt address b) = isDynamic key value := by
        rw [isDynamic_eq, isDynamic_eq, Part.isCompound_replaceAt h hat, Part.isCompound_of_at? h hat]
      rw [replaceAt, hmodify, hfields, blocksFrom, blocksFrom, blocksOfFields_append,
        blocksOfFields_append, blocksOfFields, blocksOfFields, hdynamic]
      simp only [Role.ofField] at hat haround
      cases hkey : isDynamic key value with
      | true =>
        rw [hkey, if_pos rfl] at hat haround
        rw [if_pos rfl, if_pos rfl, declaredBlocks_replaceAt h hat haround.2]
      | false =>
        rw [hkey, if_neg Bool.false_ne_true] at hat haround
        rw [if_neg Bool.false_ne_true, if_neg Bool.false_ne_true, ih hat haround.2]
    | _ => simp [whole, Part.children] at hchild

end Discovery

/-- **The encoding of dynamic blocks does not matter.** Where one encoding of a sequence of blocks stands
under a `dynamic` key, any other one can stand in its place: a walk reports the same strings with the
same scopes, the same references are found or the same error, and the listed blocks are the same if the
key stands in no other block. -/
theorem encoding_immaterial {a b value : Value} {blocks : List DeclaredBlock} {address : Address}
    (ha : Encodes a blocks) (hb : Encodes b blocks)
    (hat : value.whole.at? address = some ⟨.blocks, a⟩) :
    (value.replaceAt address b).whole.at? address = some ⟨.blocks, b⟩ ∧
      (∀ scope, calls scope (value.replaceAt address b) = calls scope value) ∧
      (∀ index, (value.replaceAt address b).usedReferences index = value.usedReferences index) ∧
      (value.whole.blocksAround address = [] →
        dynamicBlocks (value.replaceAt address b) = dynamicBlocks value) := by
  have hsame : DeclareSame a b := ha.declareSame hb
  have hcalls : ∀ scope, calls scope (value.replaceAt address b) = calls scope value := by
    intro scope
    rw [calls_eq_nested, calls_eq_nested]
    exact Part.reports_replaceAt hsame hat scope
  refine ⟨Part.at?_replaceAt hsame hat, hcalls, fun index => ?_, fun haround => ?_⟩
  · rw [usedReferences_eq, usedReferences_eq, hcalls]
  · exact blocksFrom_replaceAt hsame hat haround ""

/-- Three blocks in one object and in nested lists of objects, beside other strings. -/
theorem encoding_immaterial_nested :
    let first : Value := .object [("for_each", .string "$\x7bvar.x\x7d"), ("content", .string "y")]
    let second : Value := .object [("iterator", .string "r"), ("content", .string "$\x7br.value\x7d")]
    let blocks : List DeclaredBlock := [⟨"rule", first⟩, ⟨"rule", second⟩, ⟨"egress", first⟩]
    let merged : Value := .object [("rule", .array [first, second]), ("egress", first)]
    let listed : Value := .array [.object [("rule", first)],
      .array [.object [("rule", .array [second]), ("egress", .array [first])], .array []]]
    let around (encoding : Value) : Value :=
      .array [.null, .object [("name", .string "v"), ("dynamic", encoding), ("after", .string "w")]]
    let found : Reference := ⟨2, 7, "var.x", "var.x", true⟩
    Encodes merged blocks ∧ Encodes listed blocks ∧
      (around merged).whole.at? [1, 1] = some ⟨.blocks, merged⟩ ∧
      (around merged).whole.blocksAround [1, 1] = [] ∧
      calls .empty (around listed) = [("v", ⟨[]⟩), ("$\x7bvar.x\x7d", ⟨["rule"]⟩), ("y", ⟨["rule"]⟩),
        ("r", ⟨["r"]⟩), ("$\x7br.value\x7d", ⟨["r"]⟩), ("$\x7bvar.x\x7d", ⟨["egress"]⟩),
        ("y", ⟨["egress"]⟩), ("w", ⟨[]⟩)] ∧
      (around listed).usedReferences (.ofList ["var.x"]) = .ok [found, found] ∧
      dynamicBlocks (around listed) = [⟨"1.rule", .string "$\x7bvar.x\x7d", .string "y", "rule"⟩,
        ⟨"1.rule", .null, .string "$\x7br.value\x7d", "r"⟩,
        ⟨"1.egress", .string "$\x7bvar.x\x7d", .string "y", "egress"⟩] := by
  intro first second blocks merged listed around found
  have hobjects : ∀ body ∈ [first, second], body.isObject = true := by
    simp [first, second, isObject]
  have hfirst : ∀ body ∈ [first], body.isObject = true := by simp [first, isObject]
  have hsecond : ∀ body ∈ [second], body.isObject = true := by simp [second, isObject]
  have hmerged : Encodes merged blocks := .bodies hobjects (.body rfl .noLabel)
  have hlisted : Encodes listed blocks :=
    .item (.body rfl .noLabel)
      (.item (.item (.bodies hsecond (.bodies hfirst .noLabel)) (.item .noItem .noItem)) .noItem)
  have hat : (around merged).whole.at? [1, 1] = some ⟨.blocks, merged⟩ := rfl
  obtain ⟨-, hcalls, hreferences, hblocks⟩ := encoding_immaterial hmerged hlisted hat
  -- the encoding with lists gives what is read off the one without
  have hmergedReferences : (around merged).usedReferences (.ofList ["var.x"])
      = .ok [found, found] := by
    unfold around merged first second found
    decide +kernel
  refine ⟨hmerged, hlisted, hat, rfl, (hcalls .empty).trans ?_,
    (hreferences _).trans hmergedReferences, hblocks rfl⟩
  rw [calls_eq_reported]
  decide +kernel

end ConfigRefs.Value
