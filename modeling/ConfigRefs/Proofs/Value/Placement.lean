import ConfigRefs.Proofs.Text.Dotted
import ConfigRefs.Proofs.Value.Encoding
import Mathlib.Data.List.DropRight

/-!
# Value: where the listed blocks stand

`OutermostAt` says which blocks stand at which addresses of a value outside of all other blocks, and by
which keys and indices they are reached. Discovery makes one record of each of them, in the order of the
addresses, and of nothing else (`dynamicBlocks_listed`). What stands in a value is listed by listing what
stands in its parts (`Lists.parts`).
-/

namespace ConfigRefs.Value

open ConfigRefs.Text

/-- A block stands at an address of the value under its label: the only body or one of a list. -/
inductive BodyAt (label : String) : Value → Address → DeclaredBlock → Prop where
  | only {body : Value} : (∀ bodies, body ≠ .array bodies) → BodyAt label body [] ⟨label, body⟩
  | listed {bodies : List Value} {index : Nat} {body : Value} :
    bodies[index]? = some body → BodyAt label (.array bodies) [index] ⟨label, body⟩

/-- A block stands at an address of the value of a `dynamic` key: under a label, with any lists around
the labels. -/
inductive DeclaredAt : Value → Address → DeclaredBlock → Prop where
  | item {items : List Value} {position : Nat} {item : Value} {address : Address}
      {block : DeclaredBlock} : items[position]? = some item → DeclaredAt item address block →
    DeclaredAt (.array items) (position :: address) block
  | label {labels : List (String × Value)} {position : Nat} {label : String} {value : Value}
      {address : Address} {block : DeclaredBlock} :
    labels[position]? = some (label, value) → BodyAt label value address block →
      DeclaredAt (.object labels) (position :: address) block

/-- A block, with the keys and indices that lead to the object under whose `dynamic` key it is
declared. -/
structure BlockPlace where
  names : List String
  block : DeclaredBlock

/-- A place in a part, as it is reached from one step further out. -/
def BlockPlace.under (name : String) (place : BlockPlace) : BlockPlace :=
  ⟨name :: place.names, place.block⟩

/-- A block stands at an address of a value, and in no other block. -/
inductive OutermostAt : Value → Address → BlockPlace → Prop where
  | declared {fields : List (String × Value)} {position : Nat} {value : Value} {address : Address}
      {block : DeclaredBlock} :
    fields[position]? = some ("dynamic", value) → value.isCompound = true →
      DeclaredAt value address block → OutermostAt (.object fields) (position :: address) ⟨[], block⟩
  | item {items : List Value} {position : Nat} {item : Value} {address : Address}
      {place : BlockPlace} :
    items[position]? = some item → OutermostAt item address place →
      OutermostAt (.array items) (position :: address) (place.under (toString position))
  | field {fields : List (String × Value)} {position : Nat} {key : String} {value : Value}
      {address : Address} {place : BlockPlace} :
    fields[position]? = some (key, value) → (key = "dynamic" → value.isCompound = false) →
      OutermostAt value address place →
      OutermostAt (.object fields) (position :: address) (place.under key)

/-! ### Listings -/

section Lists

variable {α β ρ : Type}

/-- Results list what stands in a value: there is one for each thing at each address, in the order of
the addresses, and no other. -/
def Lists (At : Address → α → Prop) (IsResult : α → ρ → Prop) (results : List ρ) : Prop :=
  ∃ found : List (Address × α), (found.Pairwise fun a b => a.1 < b.1) ∧
    (∀ address x, (address, x) ∈ found ↔ At address x) ∧
    List.Forall₂ (fun entry result => IsResult entry.2 result) found results

variable {At : Address → α → Prop} {IsResult : α → ρ → Prop} {results : List ρ}

theorem Lists.single {x : α} {result : ρ} (h : IsResult x result) :
    Lists (fun address y => address = [] ∧ y = x) IsResult [result] :=
  ⟨[([], x)], List.pairwise_singleton _ _,
    fun address y => by rw [List.mem_singleton, Prod.mk.injEq], .cons h .nil⟩

theorem Lists.none (h : ∀ address x, ¬ At address x) : Lists At IsResult [] :=
  ⟨[], .nil, fun address x => iff_of_false List.not_mem_nil (h address x), .nil⟩

theorem Lists.congr {At' : Address → α → Prop} (h : Lists At IsResult results)
    (hiff : ∀ address x, At address x ↔ At' address x) : Lists At' IsResult results := by
  obtain ⟨found, hlt, hmem, hresults⟩ := h
  exact ⟨found, hlt, fun address x => (hmem address x).trans (hiff address x), hresults⟩

/-- A listing of some things is one of what they are made into. -/
theorem Lists.map {γ : Type} {IsResult' : γ → ρ → Prop} (h : Lists At IsResult results) (f : α → γ)
    (himp : ∀ x result, IsResult x result → IsResult' (f x) result) :
    Lists (fun address y => ∃ x, At address x ∧ f x = y) IsResult' results := by
  obtain ⟨found, hlt, hmem, hresults⟩ := h
  refine ⟨found.map fun entry => (entry.1, f entry.2), List.pairwise_map.2 hlt, ?_, ?_⟩
  · intro address y
    simp only [List.mem_map, Prod.mk.injEq, Prod.exists]
    constructor
    · rintro ⟨_, x, hx, rfl, rfl⟩
      exact ⟨x, (hmem _ _).1 hx, rfl⟩
    · rintro ⟨x, hx, rfl⟩
      exact ⟨address, x, (hmem _ _).2 hx, rfl, rfl⟩
  · rw [List.forall₂_map_left_iff]
    exact hresults.imp fun _ _ => himp _ _

/-- A listing of things as they are lists what is made of them. -/
theorem Lists.make {results : List α} (h : Lists At Eq results) (make : α → ρ)
    (hmake : ∀ x, IsResult x (make x)) : Lists At IsResult (results.map make) := by
  obtain ⟨found, hlt, hmem, hresults⟩ := h
  refine ⟨found, hlt, hmem, ?_⟩
  rw [List.forall₂_map_right_iff]
  refine hresults.imp ?_
  rintro entry _ rfl
  exact hmake entry.2

/-- What stands in one of several parts, at an address that begins with the position of the part. -/
def InParts (parts : List β) (At : Nat → β → Address → α → Prop) : Address → α → Prop
  | [], _ => False
  | position :: address, x => ∃ part, parts[position]? = some part ∧ At position part address x

/-- **What stands in a value** is listed by listing what stands in each of its parts. -/
theorem Lists.parts {parts : List β} {At : Nat → β → Address → α → Prop} {results : Nat → β → List ρ}
    (h : ∀ position part, parts[position]? = some part →
      Lists (At position part) IsResult (results position part)) :
    Lists (InParts parts At) IsResult (parts.zipIdx.flatMap fun part => results part.2 part.1) := by
  have hfound (part : β × Nat) : ∃ found : List (Address × α), part ∈ parts.zipIdx →
      (found.Pairwise fun a b => a.1 < b.1) ∧
      (∀ address x, (address, x) ∈ found ↔ At part.2 part.1 address x) ∧
      List.Forall₂ (fun entry result => IsResult entry.2 result) found (results part.2 part.1) := by
    by_cases hpart : part ∈ parts.zipIdx
    · obtain ⟨found, hlist⟩ := h part.2 part.1 (List.mem_zipIdx_iff_getElem?.1 hpart)
      exact ⟨found, fun _ => hlist⟩
    · exact ⟨[], fun hmem => absurd hmem hpart⟩
  choose found hfound using hfound
  refine ⟨parts.zipIdx.flatMap fun part =>
    (found part).map fun entry => (part.2 :: entry.1, entry.2), ?_, ?_, ?_⟩
  · rw [List.pairwise_flatMap]
    refine ⟨fun part hpart => ?_, ?_⟩
    · rw [List.pairwise_map]
      exact (hfound part hpart).1.imp fun hlt => List.cons_lt_cons_iff.2 (Or.inr ⟨rfl, hlt⟩)
    · have hpositions : parts.zipIdx.Pairwise fun a b => a.2 < b.2 := by
        rw [← List.pairwise_map, List.zipIdx_map_snd]
        exact List.pairwise_lt_range'
      refine hpositions.imp fun hlt a ha b hb => ?_
      obtain ⟨_, -, rfl⟩ := List.mem_map.1 ha
      obtain ⟨_, -, rfl⟩ := List.mem_map.1 hb
      exact List.cons_lt_cons_iff.2 (Or.inl hlt)
  · intro address x
    simp only [List.mem_flatMap, List.mem_map, Prod.mk.injEq, Prod.exists]
    constructor
    · rintro ⟨part, position, hpart, _, _, hmem, rfl, rfl⟩
      exact ⟨part, List.mem_zipIdx_iff_getElem?.1 hpart, ((hfound _ hpart).2.1 _ _).1 hmem⟩
    · intro hin
      cases address with
      | nil => exact hin.elim
      | cons position address =>
        obtain ⟨part, hpart, hat⟩ := hin
        have hmem : (part, position) ∈ parts.zipIdx := List.mem_zipIdx_iff_getElem?.2 hpart
        exact ⟨part, position, hmem, address, x, ((hfound _ hmem).2.1 _ _).2 hat, rfl, rfl⟩
  · refine List.rel_flatMap (R := fun a b => a = b ∧ a ∈ parts.zipIdx)
      (List.forall₂_same.2 fun part hpart => ⟨rfl, hpart⟩) ?_
    rintro part _ ⟨rfl, hpart⟩
    rw [List.forall₂_map_left_iff]
    exact (hfound part hpart).2.2

/-- The same where the results do not depend on the positions of the parts. -/
theorem Lists.items {parts : List β} {At : β → Address → α → Prop} {results : β → List ρ}
    (h : ∀ part ∈ parts, Lists (At part) IsResult (results part)) :
    Lists (InParts parts fun _ => At) IsResult (parts.flatMap results) := by
  have hparts : Lists (InParts parts fun _ => At) IsResult
      (parts.zipIdx.flatMap fun part => results part.1) :=
    Lists.parts fun _ part hpart => h part (List.mem_of_getElem? hpart)
  rwa [← List.flatMap_map Prod.fst, List.zipIdx_map_fst] at hparts

end Lists

/-! ### Declared blocks -/

/-- **Induction over the parts of a value.** -/
theorem parts_induction {motive : Value → Prop}
    (scalar : ∀ value, value.isCompound = false → motive value)
    (array : ∀ items, (∀ item ∈ items, motive item) → motive (.array items))
    (object : ∀ fields : List (String × Value), (∀ field ∈ fields, motive field.2) →
      motive (.object fields)) : ∀ value, motive value := by
  intro value
  induction h : sizeOf value using Nat.strongRecOn generalizing value with
  | ind size ih =>
    subst h
    cases value with
    | array items =>
      refine array items fun item hitem => ih _ ?_ item rfl
      have := List.sizeOf_lt_of_mem hitem
      simp only [Value.array.sizeOf_spec]
      omega
    | object fields =>
      refine object fields fun field hfield => ih _ ?_ field.2 rfl
      have := List.sizeOf_lt_of_mem hfield
      obtain ⟨key, value⟩ := field
      simp only [Prod.mk.sizeOf_spec, Value.object.sizeOf_spec] at this ⊢
      omega
    | _ => exact scalar _ rfl

theorem lists_blocksOfLabel (label : String) (value : Value) :
    Lists (BodyAt label value) Eq (blocksOfLabel label value) := by
  by_cases h : ∃ bodies, value = .array bodies
  · obtain ⟨bodies, rfl⟩ := h
    have hbodies : Lists
        (InParts bodies fun _ body address block => address = [] ∧ block = ⟨label, body⟩) Eq
        (bodies.flatMap fun body => [DeclaredBlock.mk label body]) :=
      Lists.items fun body _ => .single rfl
    rw [← List.map_eq_flatMap] at hbodies
    refine hbodies.congr fun address block => ⟨fun hin => ?_, fun hat => ?_⟩
    · rcases address with _ | ⟨index, address⟩
      · exact hin.elim
      · obtain ⟨body, hbody, rfl, rfl⟩ := hin
        exact .listed hbody
    · cases hat with
      | only hlist => exact absurd rfl (hlist bodies)
      | listed hbody => exact ⟨_, hbody, rfl, rfl⟩
  · have hlabel : blocksOfLabel label value = [⟨label, value⟩] := by
      cases value with
      | array bodies => exact absurd ⟨bodies, rfl⟩ h
      | _ => rfl
    rw [hlabel]
    refine (Lists.single rfl).congr fun address block => ⟨?_, fun hat => ?_⟩
    · rintro ⟨rfl, rfl⟩
      exact .only fun bodies hbodies => h ⟨bodies, hbodies⟩
    · cases hat with
      | only _ => exact ⟨rfl, rfl⟩
      | listed _ => exact absurd ⟨_, rfl⟩ h

theorem declaredBlocks_of_scalar {value : Value} (h : value.isCompound = false) :
    value.declaredBlocks = [] := by
  cases value <;> first | rfl | cases h

/-- **The declared blocks** are those that stand under the labels. -/
theorem lists_declaredBlocks (value : Value) : Lists (DeclaredAt value) Eq value.declaredBlocks := by
  induction value using parts_induction with
  | scalar value h =>
    rw [declaredBlocks_of_scalar h]
    refine .none fun address block hat => ?_
    cases hat <;> cases h
  | array items ih =>
    rw [declaredBlocks, declaredBlocksOfAll_eq]
    refine (Lists.items ih).congr fun address block => ⟨fun hin => ?_, fun hat => ?_⟩
    · rcases address with _ | ⟨position, address⟩
      · exact hin.elim
      · obtain ⟨item, hitem, hat⟩ := hin
        exact .item hitem hat
    · cases hat with
      | item hitem hat => exact ⟨_, hitem, hat⟩
  | object labels =>
    rw [declaredBlocks]
    refine (Lists.items fun label _ => lists_blocksOfLabel label.1 label.2).congr
      fun address block => ⟨fun hin => ?_, fun hat => ?_⟩
    · rcases address with _ | ⟨position, address⟩
      · exact hin.elim
      · obtain ⟨⟨label, value⟩, hlabel, hat⟩ := hin
        exact .label hlabel hat
    · cases hat with
      | label hlabel hat => exact ⟨_, hlabel, hat⟩

/-! ### Outermost blocks -/

theorem isDynamic_iff {key : String} {value : Value} :
    isDynamic key value = true ↔ key = "dynamic" ∧ value.isCompound = true := by
  rw [isDynamic_eq, Bool.and_eq_true, beq_iff_eq]

theorem blocksOfItems_eq (path : String) (items : List Value) (index : Nat) :
    blocksOfItems path index items = (items.zipIdx index).flatMap fun item =>
      blocksFrom (joinPath path (toString item.2)) item.1 := by
  induction items generalizing index with
  | nil => rfl
  | cons item rest ih => rw [blocksOfItems, ih, List.zipIdx_cons, List.flatMap_cons]

theorem blocksOfFields_eq (path : String) (fields : List (String × Value)) :
    blocksOfFields path fields = fields.flatMap fun field =>
      if isDynamic field.1 field.2 then field.2.declaredBlocks.map (blockAt path)
      else blocksFrom (joinPath path field.1) field.2 := by
  induction fields with
  | nil => rfl
  | cons field rest ih => rw [blocksOfFields, ih, List.flatMap_cons]

/-- The record that is made of a block in a value at a path. -/
def IsBlockFrom (path : String) (place : BlockPlace) (record : DynamicBlock) : Prop :=
  record = blockAt (place.names.foldl joinPath path) place.block

/-- What an object holds under a key that declares no blocks, or declares under it. -/
def InField (field : String × Value) (address : Address) (place : BlockPlace) : Prop :=
  if isDynamic field.1 field.2 then ∃ block, DeclaredAt field.2 address block ∧ ⟨[], block⟩ = place
  else ∃ inner, OutermostAt field.2 address inner ∧ inner.under field.1 = place

theorem inField_iff {fields : List (String × Value)} {address : Address} {place : BlockPlace} :
    InParts fields (fun _ => InField) address place ↔ OutermostAt (.object fields) address place := by
  constructor
  · intro hin
    rcases address with _ | ⟨position, address⟩
    · exact hin.elim
    · obtain ⟨⟨key, value⟩, hfield, hat⟩ := hin
      unfold InField at hat
      split at hat
      · next hdynamic =>
        obtain ⟨rfl, hcompound⟩ := isDynamic_iff.1 hdynamic
        obtain ⟨block, hat, rfl⟩ := hat
        exact .declared hfield hcompound hat
      · next hdynamic =>
        obtain ⟨inner, hat, rfl⟩ := hat
        refine .field hfield (fun hkey => ?_) hat
        by_contra hcompound
        exact hdynamic (isDynamic_iff.2 ⟨hkey, eq_true_of_ne_false hcompound⟩)
  · intro hat
    cases hat with
    | declared hfield hcompound hat =>
      exact ⟨_, hfield, (if_pos (isDynamic_iff.2 ⟨rfl, hcompound⟩)).mpr ⟨_, hat, rfl⟩⟩
    | @field _ _ key value _ _ hfield hkey hat =>
      have hplain : ¬ isDynamic key value = true := fun hdynamic =>
        Bool.false_ne_true ((hkey (isDynamic_iff.1 hdynamic).1).symm.trans (isDynamic_iff.1 hdynamic).2)
      exact ⟨_, hfield, (if_neg hplain).mpr ⟨_, hat, rfl⟩⟩

/-- **Discovery lists the outermost blocks** of a value, each with its place below a path. -/
theorem lists_blocksFrom (value : Value) :
    ∀ path, Lists (OutermostAt value) (IsBlockFrom path) (blocksFrom path value) := by
  induction value using parts_induction with
  | scalar value h =>
    intro path
    have hnone : blocksFrom path value = [] := by
      cases value <;> first | rfl | cases h
    rw [hnone]
    refine .none fun address place hat => ?_
    cases hat <;> cases h
  | array items ih =>
    intro path
    rw [blocksFrom, blocksOfItems_eq]
    refine (Lists.parts fun position item hitem =>
      (ih item (List.mem_of_getElem? hitem) (joinPath path (toString position))).map
        (BlockPlace.under (toString position)) fun _ _ h => h).congr
          fun address place => ⟨fun hin => ?_, fun hat => ?_⟩
    · rcases address with _ | ⟨position, address⟩
      · exact hin.elim
      · obtain ⟨item, hitem, inner, hat, rfl⟩ := hin
        exact .item hitem hat
    · cases hat with
      | item hitem hat => exact ⟨_, hitem, _, hat, rfl⟩
  | object fields ih =>
    intro path
    rw [blocksFrom, blocksOfFields_eq]
    have hfields (field : String × Value) (hfield : field ∈ fields) :
        Lists (InField field) (IsBlockFrom path)
          (if isDynamic field.1 field.2 then field.2.declaredBlocks.map (blockAt path)
            else blocksFrom (joinPath path field.1) field.2) := by
      unfold InField
      split
      · have hdeclared : Lists (DeclaredAt field.2) (fun block record => record = blockAt path block)
            (field.2.declaredBlocks.map (blockAt path)) :=
          (lists_declaredBlocks field.2).make (blockAt path) fun _ => rfl
        exact hdeclared.map (BlockPlace.mk []) fun _ _ h => h
      · exact (ih field hfield (joinPath path field.1)).map (BlockPlace.under field.1) fun _ _ h => h
    exact (Lists.items hfields).congr fun _ _ => inField_iff

/-! ### Paths and loop variables -/

theorem joinDots_cons_cons (part next : String) (rest : List String) :
    joinDots (part :: next :: rest) = joinDots ((part ++ "." ++ next) :: rest) := by
  rw [← String.toList_inj]
  cases rest with
  | nil => rw [joinDots_pair, joinDots_singleton]
  | cons other rest => simp only [toList_joinDots_cons_cons, String.toList_append]; simp

theorem foldl_joinPath_of_ne : ∀ (parts : List String) {path : String}, path.isEmpty = false →
    parts.foldl joinPath path = joinDots (path :: parts)
  | [], path, _ => (joinDots_singleton path).symm
  | part :: rest, path, h => by
    have hjoined : (path ++ "." ++ part).isEmpty = false := by simp [String.isEmpty_eq_false_iff]
    rw [List.foldl_cons, joinPath, if_neg (Bool.eq_false_iff.1 h), foldl_joinPath_of_ne rest hjoined,
      joinDots_cons_cons]

/-- **A path is joined by dots** from the first part that is not empty. -/
theorem foldl_joinPath (parts : List String) :
    parts.foldl joinPath "" = joinDots (parts.dropWhile String.isEmpty) := by
  induction parts with
  | nil => rfl
  | cons part rest ih =>
    rw [List.foldl_cons, joinPath, if_pos (by rfl)]
    cases h : part.isEmpty with
    | true => rw [List.dropWhile_cons_of_pos h, ← ih, String.isEmpty_iff.1 h]
    | false => rw [List.dropWhile_cons_of_neg (by simp [h]), foldl_joinPath_of_ne rest h]

/-- A text without the blanks around it. -/
structure IsTrimmed (text trimmed : List Char) : Prop where
  around : ∃ front back, text = front ++ trimmed ++ back ∧ ∀ c ∈ front ++ back, isBlank c = true
  head : ∀ c ∈ trimmed.head?, isBlank c = false
  last : ∀ c ∈ trimmed.getLast?, isBlank c = false

theorem isTrimmed (text : List Char) :
    IsTrimmed text ((text.dropWhile isBlank).reverse.dropWhile isBlank).reverse := by
  change IsTrimmed text ((text.dropWhile isBlank).rdropWhile isBlank)
  refine ⟨⟨text.takeWhile isBlank, (text.dropWhile isBlank).rtakeWhile isBlank, ?_, ?_⟩, ?_, ?_⟩
  · rw [List.append_assoc, List.rdropWhile_append_rtakeWhile, List.takeWhile_append_dropWhile]
  · intro c hc
    rcases List.mem_append.1 hc with hc | hc
    · exact List.mem_takeWhile_imp hc
    · exact List.mem_rtakeWhile_imp hc
  · intro c hc
    obtain ⟨back, hback⟩ := List.rdropWhile_prefix isBlank (l := text.dropWhile isBlank)
    have hhead : (text.dropWhile isBlank).head? = some c := by
      rw [← hback, List.head?_append, hc, Option.some_or]
    have hnot := List.head?_dropWhile_not isBlank text
    rwa [hhead] at hnot
  · intro c hc
    obtain ⟨hne, rfl⟩ := List.mem_getLast?_eq_getLast hc
    exact eq_false_of_ne_true (List.rdropWhile_last_not isBlank _ hne)

/-- The loop variable that the text of an iterator names: without the marks of an interpolation if both
stand around it, and without blanks. -/
inductive IsIteratorName (text name : List Char) : Prop where
  | marked {inner : List Char} : text = '$' :: '\x7b' :: inner ++ ['\x7d'] → IsTrimmed inner name →
    IsIteratorName text name
  | plain : (∀ inner, text ≠ '$' :: '\x7b' :: inner ++ ['\x7d']) → IsTrimmed text name →
    IsIteratorName text name

theorem isIteratorName (text : String) : IsIteratorName text.toList (iteratorName text).toList := by
  rw [iteratorName, String.toList_ofList]
  by_cases h : ∃ inner, text.toList = '$' :: '\x7b' :: inner ++ ['\x7d']
  · obtain ⟨inner, hinner⟩ := h
    refine .marked hinner ?_
    simp only [hinner, List.cons_append, List.getLast?_concat, List.dropLast_concat, if_true]
    exact isTrimmed inner
  · refine .plain (fun inner hinner => h ⟨inner, hinner⟩) ?_
    split
    · next rest hrest =>
      rw [if_neg fun hlast => h ⟨rest.dropLast, ?_⟩]
      · exact isTrimmed text.toList
      · rw [hrest, List.cons_append, List.cons_append, List.dropLast_append_getLast? _ hlast]
    · exact isTrimmed text.toList

/-! ### The records of discovery -/

/-- A value holds another one under a key: an object what stands in its first field with that key. Null
stands for a key that is missing, and for every key if the value is no object. -/
inductive Holds (key : String) : Value → Value → Prop where
  | field {front back : List (String × Value)} {held : Value} : (∀ field ∈ front, key ≠ field.1) →
    Holds key (.object (front ++ (key, held) :: back)) held
  | missing {fields : List (String × Value)} : (∀ field ∈ fields, key ≠ field.1) →
    Holds key (.object fields) .null
  | noObject {value : Value} : (∀ fields, value ≠ .object fields) → Holds key value .null

/-- **What a value holds under a key** is what is read there. -/
theorem holds_iff {key : String} {value held : Value} :
    Holds key value held ↔ value.field key = held := by
  constructor
  · intro h
    cases h with
    | @field front back held hfront =>
      have hlookup : (front ++ (key, held) :: back).lookup key = some held :=
        List.lookup_eq_some_iff.2
          ⟨front, back, rfl, fun field hfield => bne_iff_ne.2 (hfront field hfield)⟩
      rw [field, hlookup, Option.getD_some]
    | @missing fields hfields =>
      have hlookup : fields.lookup key = none :=
        List.lookup_eq_none_iff.2 fun field hfield => bne_iff_ne.2 (hfields field hfield)
      rw [field, hlookup, Option.getD_none]
    | noObject hvalue =>
      cases value with
      | object fields => exact absurd rfl (hvalue fields)
      | _ => rfl
  · rintro rfl
    cases value with
    | object fields =>
      rw [field]
      cases hlookup : fields.lookup key with
      | none =>
        exact .missing fun field hfield => bne_iff_ne.1 (List.lookup_eq_none_iff.1 hlookup field hfield)
      | some held =>
        obtain ⟨front, back, rfl, hfront⟩ := List.lookup_eq_some_iff.1 hlookup
        exact .field fun field hfield => bne_iff_ne.1 (hfront field hfield)
    | _ => exact .noObject fun fields hobject => by cases hobject

/-- The record of a block at its place. -/
structure IsRecordOf (place : BlockPlace) (record : DynamicBlock) : Prop where
  path : record.path = joinDots ((place.names ++ [place.block.label]).dropWhile String.isEmpty)
  forEach : Holds "for_each" place.block.body record.forEach
  content : Holds "content" place.block.body record.content
  iterator : ∀ text, Holds "iterator" place.block.body (.string text) →
    IsIteratorName text.toList record.loopVariable.toList
  label : (∀ text, ¬ Holds "iterator" place.block.body (.string text)) →
    record.loopVariable = place.block.label

theorem isRecordOf_blockAt (place : BlockPlace) :
    IsRecordOf place (blockAt (place.names.foldl joinPath "") place.block) where
  path := by rw [← foldl_joinPath, List.foldl_append]; rfl
  forEach := holds_iff.2 rfl
  content := holds_iff.2 rfl
  iterator := fun text h => by
    simp only [blockAt, DeclaredBlock.loopVariable, holds_iff.1 h]
    exact isIteratorName text
  label := fun h => by
    rw [blockAt, DeclaredBlock.loopVariable]
    split
    · next text htext => exact absurd (holds_iff.2 htext) (h text)
    · rfl

/-- **Discovery finds exactly the outermost blocks**, with their locations: it makes one record of each
block that stands in no other one, in document order, and no other record. -/
theorem dynamicBlocks_listed (value : Value) :
    Lists (OutermostAt value) IsRecordOf (dynamicBlocks value) := by
  obtain ⟨found, hlt, hmem, hrecords⟩ := lists_blocksFrom value ""
  refine ⟨found, hlt, hmem, hrecords.imp ?_⟩
  rintro entry _ rfl
  exact isRecordOf_blockAt entry.2

/-- A list of bodies behind an empty key, of which the first is no object and the second has a block in
itself, and a scalar `dynamic` key above a block with one body. -/
theorem dynamicBlocks_listed_bodies :
    let inner : Value := .object [("dynamic", .object [("inner", .object [])])]
    let second : Value := .object [("for_each", .string "$\x7bvar.x\x7d"),
      ("iterator", .string "$\x7b r \x7d"), ("content", inner)]
    let port : Value := .object [("iterator", .null), ("content", .string "p")]
    let value : Value := .object
      [("", .array [.object [("dynamic", .array [.object [("rule", .array [.null, second])]])]]),
        ("dynamic", .string "none"), ("net", .object [("dynamic", .object [("port", port)])])]
    let records : List DynamicBlock := [⟨"0.rule", .null, .null, "rule"⟩,
      ⟨"0.rule", .string "$\x7bvar.x\x7d", inner, "r"⟩, ⟨"net.port", .null, .string "p", "port"⟩]
    dynamicBlocks value = records ∧ Lists (OutermostAt value) IsRecordOf records ∧
      OutermostAt value [0, 0, 0, 0, 0, 1] ⟨["", "0"], ⟨"rule", second⟩⟩ := by
  intro inner second port value records
  have hrecords : dynamicBlocks value = records := rfl
  have hlisted := dynamicBlocks_listed value
  rw [hrecords] at hlisted
  have hrule : DeclaredAt (.array [.object [("rule", .array [.null, second])]]) [0, 0, 1]
      ⟨"rule", second⟩ := .item rfl (.label rfl (.listed rfl))
  have hempty : OutermostAt value [0, 0, 0, 0, 0, 1] _ :=
    .field rfl (fun h => absurd h (by decide)) (.item rfl (.declared rfl rfl hrule))
  exact ⟨hrecords, hlisted, hempty⟩

end ConfigRefs.Value
