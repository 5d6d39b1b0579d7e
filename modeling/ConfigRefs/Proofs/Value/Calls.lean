import ConfigRefs.Value.Walk

/-!
# Value: the calls that a walk makes

A walk is determined by the calls of its visitor, each with a string and a scope. `calls` writes them
down by walking with a visitor that does nothing else, and `visitStrings_eq_forM_calls` says that
every walk makes exactly these calls in this order, whatever its visitor does. `walk_induction` is the
induction along the walk: into lists, into the fields of objects, and into the bodies of the blocks
that a `dynamic` key declares.
-/

namespace ConfigRefs.Value

open ConfigRefs.Declaration

/-- **Induction along a walk.** -/
theorem walk_induction {motive : Value → Prop}
    (null : motive .null) (bool : ∀ value, motive (.bool value))
    (number : ∀ value, motive (.number value)) (string : ∀ text, motive (.string text))
    (array : ∀ items, (∀ item ∈ items, motive item) → motive (.array items))
    (object : ∀ fields : List (String × Value),
      (∀ field ∈ fields, isDynamic field.1 field.2 = false → motive field.2) →
      (∀ field ∈ fields, isDynamic field.1 field.2 = true →
        ∀ block ∈ field.2.declaredBlocks, motive block.body) → motive (.object fields)) :
    ∀ value, motive value := by
  intro value
  induction h : sizeOf value using Nat.strongRecOn generalizing value with
  | ind size ih =>
    subst h
    cases value with
    | null => exact null
    | bool value => exact bool value
    | number value => exact number value
    | string text => exact string text
    | array items =>
      refine array items fun item hitem => ih _ ?_ item rfl
      have := List.sizeOf_lt_of_mem hitem
      simp only [Value.array.sizeOf_spec]
      omega
    | object fields =>
      have hsize : ∀ field ∈ fields, sizeOf field.2 < sizeOf (Value.object fields) := by
        intro field hfield
        have := List.sizeOf_lt_of_mem hfield
        obtain ⟨key, value⟩ := field
        simp only [Prod.mk.sizeOf_spec, Value.object.sizeOf_spec] at this ⊢
        omega
      refine object fields (fun field hfield _ => ih _ (hsize field hfield) _ rfl) ?_
      intro field hfield _ block hblock
      have := sizeOf_lt_of_mem_declaredBlocks _ _ hblock
      exact ih _ (Nat.lt_trans this (hsize field hfield)) _ rfl

section Scalars

variable {m : Type → Type} [Monad m] (visit : String → Scope → m Unit) (scope : Scope)

@[simp] theorem visitStrings_null : visitStrings visit scope .null = pure () := by
  rw [visitStrings] <;> (intros; contradiction)

@[simp] theorem visitStrings_bool (value : Bool) :
    visitStrings visit scope (.bool value) = pure () := by
  rw [visitStrings] <;> (intros; contradiction)

@[simp] theorem visitStrings_number (value : Number) :
    visitStrings visit scope (.number value) = pure () := by
  rw [visitStrings] <;> (intros; contradiction)

end Scalars

/-- The visitor that only writes down what it is called with. -/
def record (text : String) (scope : Scope) : StateM (List (String × Scope)) Unit :=
  modify (· ++ [(text, scope)])

/-- The calls that a walk makes, in order. -/
def calls (scope : Scope) (value : Value) : List (String × Scope) :=
  ((visitStrings record scope value).run []).2

theorem run_forM_append {α β : Type} (act : α → StateM (List β) Unit) (out : α → List β) :
    ∀ xs : List α, (∀ x ∈ xs, ∀ log, (act x).run log = ((), log ++ out x)) →
      ∀ log, (xs.forM act).run log = ((), log ++ xs.flatMap out)
  | [], _, log => by rw [List.forM_eq_forM, List.forM_nil, List.flatMap_nil, List.append_nil]; rfl
  | x :: xs, h, log => by
    have hx := h x List.mem_cons_self log
    have hxs := run_forM_append act out xs (fun y hy => h y (List.mem_cons_of_mem x hy))
    simp only [List.forM_eq_forM] at hxs
    rw [List.forM_eq_forM, List.forM_cons, StateT.run_bind, hx]
    simp only [bind, hxs, List.flatMap_cons, List.append_assoc]

/-- The recording visitor adds its calls behind those that were made before. -/
theorem run_visitStrings_record (value : Value) : ∀ (scope : Scope) (log : List (String × Scope)),
    (visitStrings record scope value).run log = ((), log ++ calls scope value) := by
  induction value using walk_induction with
  | null =>
    intro scope log
    rw [calls, visitStrings_null]
    exact congrArg (Prod.mk ()) (List.append_nil log).symm
  | bool _ =>
    intro scope log
    rw [calls, visitStrings_bool]
    exact congrArg (Prod.mk ()) (List.append_nil log).symm
  | number _ =>
    intro scope log
    rw [calls, visitStrings_number]
    exact congrArg (Prod.mk ()) (List.append_nil log).symm
  | string text => intro scope log; simp only [calls, visitStrings_string]; rfl
  | array items ih =>
    intro scope
    have hrun := run_forM_append (visitStrings record scope) (calls scope) items
      fun item hitem => ih item hitem scope
    intro log
    simp only [calls, visitStrings_array, hrun, List.nil_append]
  | object fields ihField ihBlock =>
    intro scope
    have hrun := run_forM_append
      (fun field : String × Value =>
        if isDynamic field.1 field.2 then
          field.2.declaredBlocks.forM fun block =>
            visitStrings record (scope.extend block.loopVariable) block.body
        else visitStrings record scope field.2)
      (fun field =>
        if isDynamic field.1 field.2 then
          field.2.declaredBlocks.flatMap fun block =>
            calls (scope.extend block.loopVariable) block.body
        else calls scope field.2) fields fun field hfield => by
        cases hdyn : isDynamic field.1 field.2 with
        | true =>
          simp only [if_true]
          exact run_forM_append _ _ _ fun block hblock => ihBlock field hfield hdyn block hblock _
        | false => simpa using ihField field hfield hdyn scope
    intro log
    simp only [calls, visitStrings_object, hrun, List.nil_append]

section Equations

variable (scope : Scope)

@[simp] theorem calls_null : calls scope .null = [] := by
  rw [calls]; simp; rfl

@[simp] theorem calls_bool (value : Bool) : calls scope (.bool value) = [] := by
  rw [calls]; simp; rfl

@[simp] theorem calls_number (value : Number) : calls scope (.number value) = [] := by
  rw [calls]; simp; rfl

@[simp] theorem calls_string (text : String) : calls scope (.string text) = [(text, scope)] := by
  rw [calls, visitStrings_string]; rfl

@[simp] theorem calls_array (items : List Value) :
    calls scope (.array items) = items.flatMap (calls scope) := by
  rw [calls, visitStrings_array, run_forM_append _ (calls scope) items
    fun item _ => run_visitStrings_record item scope]
  rfl

@[simp] theorem calls_object (fields : List (String × Value)) :
    calls scope (.object fields) = fields.flatMap fun field =>
      if isDynamic field.1 field.2 then
        field.2.declaredBlocks.flatMap fun block =>
          calls (scope.extend block.loopVariable) block.body
      else calls scope field.2 := by
  rw [calls, visitStrings_object, run_forM_append _ _ fields fun field _ => ?_]
  · rfl
  · split
    · exact run_forM_append _ _ _ fun block _ => run_visitStrings_record block.body _
    · exact run_visitStrings_record field.2 scope

end Equations

section Lists

variable {m : Type → Type} [Monad m] [LawfulMonad m] {α β : Type}

theorem forM_flatMap (act : β → m Unit) (out : α → List β) : ∀ xs : List α,
    (xs.flatMap out).forM act = xs.forM fun x => (out x).forM act
  | [] => rfl
  | x :: xs => by
    have ih := forM_flatMap act out xs
    simp only [List.forM_eq_forM] at ih ⊢
    simp only [List.flatMap_cons, List.forM_append, List.forM_cons, ih]

omit [LawfulMonad m] in
theorem forM_congr {act act' : α → m Unit} : ∀ xs : List α,
    (∀ x ∈ xs, act x = act' x) → xs.forM act = xs.forM act'
  | [], _ => rfl
  | x :: xs, h => by
    have ih := forM_congr xs fun y hy => h y (List.mem_cons_of_mem x hy)
    simp only [List.forM_eq_forM] at ih ⊢
    rw [List.forM_cons, List.forM_cons, h x List.mem_cons_self, ih]

end Lists

/-- **A walk is the calls of its visitor.** Nothing else happens, in any monad. -/
theorem visitStrings_eq_forM_calls {m : Type → Type} [Monad m] [LawfulMonad m]
    (visit : String → Scope → m Unit) (value : Value) : ∀ scope : Scope,
      visitStrings visit scope value = (calls scope value).forM fun call => visit call.1 call.2 := by
  induction value using walk_induction with
  | null => intro scope; rw [visitStrings_null, calls_null]; rfl
  | bool _ => intro scope; rw [visitStrings_bool, calls_bool]; rfl
  | number _ => intro scope; rw [visitStrings_number, calls_number]; rfl
  | string text =>
    intro scope
    rw [visitStrings_string, calls_string]
    simp only [List.forM_eq_forM, List.forM_cons, List.forM_nil]
    exact (bind_pure_unit).symm
  | array items ih =>
    intro scope
    rw [visitStrings_array, calls_array, forM_flatMap]
    exact forM_congr items fun item hitem => ih item hitem scope
  | object fields ihField ihBlock =>
    intro scope
    rw [visitStrings_object, calls_object, forM_flatMap]
    refine forM_congr fields fun field hfield => ?_
    cases hdyn : isDynamic field.1 field.2 with
    | true =>
      simp only [if_true]
      rw [forM_flatMap]
      exact forM_congr _ fun block hblock => ihBlock field hfield hdyn block hblock _
    | false => simpa using ihField field hfield hdyn scope

end ConfigRefs.Value
