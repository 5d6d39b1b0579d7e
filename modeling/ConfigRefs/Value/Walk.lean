import ConfigRefs.Value.DynamicBlock
import ConfigRefs.Reference.Resolution

/-!
# Value: walking the strings

`visitStrings` calls a visitor on every string of a value with the loop variables of the dynamic
blocks around it. `usedReferences` collects the references in all of them.
-/

namespace ConfigRefs

open ConfigRefs.Declaration

namespace Value

theorem sizeOf_le_of_mem_blocksOfLabel {label : String} {value : Value} {block : DeclaredBlock}
    (h : block ∈ blocksOfLabel label value) : sizeOf block.body ≤ sizeOf value := by
  cases value with
  | array bodies =>
    obtain ⟨body, hbody, rfl⟩ := List.mem_map.1 h
    have := List.sizeOf_lt_of_mem hbody
    simp only [array.sizeOf_spec]
    omega
  | _ =>
    obtain rfl := List.mem_singleton.1 h
    exact Nat.le_refl _

mutual

theorem sizeOf_lt_of_mem_declaredBlocks :
    ∀ (value : Value) (block : DeclaredBlock), block ∈ value.declaredBlocks →
      sizeOf block.body < sizeOf value
  | .array items, block, h => by
    simp only [declaredBlocks] at h
    have := sizeOf_lt_of_mem_declaredBlocksOfAll items block h
    simp only [array.sizeOf_spec]
    omega
  | .object labels, block, h => by
    simp only [declaredBlocks, List.mem_flatMap] at h
    obtain ⟨⟨label, body⟩, hmem, hblock⟩ := h
    have hlt := List.sizeOf_lt_of_mem hmem
    simp only [Prod.mk.sizeOf_spec, object.sizeOf_spec] at hlt ⊢
    have : sizeOf block.body ≤ sizeOf body := sizeOf_le_of_mem_blocksOfLabel hblock
    omega
  | .null, _, h | .bool _, _, h | .number _, _, h | .string _, _, h => by
    simp [declaredBlocks] at h

theorem sizeOf_lt_of_mem_declaredBlocksOfAll :
    ∀ (items : List Value) (block : DeclaredBlock), block ∈ declaredBlocksOfAll items →
      sizeOf block.body < sizeOf items
  | [], _, h => by simp [declaredBlocksOfAll] at h
  | item :: rest, block, h => by
    simp only [declaredBlocksOfAll, List.mem_append] at h
    simp only [List.cons.sizeOf_spec]
    rcases h with h | h
    · have := sizeOf_lt_of_mem_declaredBlocks item block h
      omega
    · have := sizeOf_lt_of_mem_declaredBlocksOfAll rest block h
      omega

end

/-- Visits the strings of a value in order, each with the scope at its place. A dynamic block extends
the scope of its body by its loop variable. -/
def visitStrings {m : Type → Type} [Monad m] (visit : String → Scope → m Unit) (scope : Scope) :
    Value → m Unit
  | .string text => visit text scope
  | .array items => items.attach.forM fun item => visitStrings visit scope item.1
  | .object fields => fields.attach.forM fun field =>
    if isDynamic field.1.1 field.1.2 then
      field.1.2.declaredBlocks.attach.forM fun block =>
        visitStrings visit (scope.extend block.1.loopVariable) block.1.body
    else visitStrings visit scope field.1.2
  | _ => pure ()
termination_by value => sizeOf value
decreasing_by
  · have := List.sizeOf_lt_of_mem item.2
    simp only [array.sizeOf_spec]
    omega
  · have hfield := List.sizeOf_lt_of_mem field.2
    have hblock := sizeOf_lt_of_mem_declaredBlocks _ _ block.2
    obtain ⟨⟨key, value⟩, _⟩ := field
    simp only [Prod.mk.sizeOf_spec, object.sizeOf_spec] at *
    omega
  · have hfield := List.sizeOf_lt_of_mem field.2
    obtain ⟨⟨key, value⟩, _⟩ := field
    simp only [Prod.mk.sizeOf_spec, object.sizeOf_spec] at *
    omega

/-- Running over the members of a list with their membership is running over the list. -/
theorem forM_attach {m : Type → Type} [Monad m] {α : Type} (items : List α) (act : α → m Unit) :
    (items.attach.forM fun item => act item.1) = items.forM act := by
  have h (members : List { item // item ∈ items }) :
      (members.forM fun item => act item.1) = (members.map (·.1)).forM act := by
    induction members with
    | nil => rfl
    | cons item rest ih =>
      simp only [List.forM_eq_forM, List.map_cons, List.forM_cons] at ih ⊢
      rw [ih]
  rw [h, List.attach_map_subtype_val]

section Equations

variable {m : Type → Type} [Monad m] (visit : String → Scope → m Unit) (scope : Scope)

theorem visitStrings_string (text : String) :
    visitStrings visit scope (.string text) = visit text scope := by
  rw [visitStrings]

theorem visitStrings_array (items : List Value) :
    visitStrings visit scope (.array items) = items.forM (visitStrings visit scope) := by
  rw [visitStrings, forM_attach]

theorem visitStrings_object (fields : List (String × Value)) :
    visitStrings visit scope (.object fields) = fields.forM fun field =>
      if isDynamic field.1 field.2 then
        field.2.declaredBlocks.forM fun block =>
          visitStrings visit (scope.extend block.loopVariable) block.body
      else visitStrings visit scope field.2 := by
  rw [visitStrings, ← forM_attach fields]
  congr 1
  funext field
  rw [forM_attach field.1.2.declaredBlocks fun block =>
    visitStrings visit (scope.extend block.loopVariable) block.body]

end Equations

/-- Adds the references of one string to those found so far. -/
def collectReferences (index : Index) (text : String) (scope : Scope) :
    StateT (List Reference) (Except ResolveError) Unit := do
  let found ← references text index scope
  modify (· ++ found)

/-- The references to declarations in all strings of a value. -/
def usedReferences (index : Index) (value : Value) : Except ResolveError (List Reference) :=
  (·.2) <$> (value.visitStrings (collectReferences index) .empty).run []

end Value

end ConfigRefs
