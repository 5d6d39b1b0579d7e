import Mathlib.Data.List.Forall2

/-!
# Results: steps that may fail

A result that is made from others comes from results, and an error is the error of a step
(`bind_eq_ok_iff`, `map_eq_error_iff`). Running a step over a list gives the results of all members,
one for one (`mapM_eq_ok_iff`), or the error of the first step that fails (`mapM_eq_error_iff`).
-/

namespace ConfigRefs

variable {ε α β : Type} {e : ε}

theorem bind_eq_ok_iff {r : Except ε α} {f : α → Except ε β} {y : β} :
    r >>= f = .ok y ↔ ∃ x, r = .ok x ∧ f x = .ok y := by
  cases r with
  | error e => exact iff_of_false nofun fun ⟨_, hx, _⟩ => nomatch hx
  | ok x => exact ⟨fun h => ⟨x, rfl, h⟩, fun ⟨_, hx, h⟩ => by cases hx; exact h⟩

theorem map_eq_ok_iff {r : Except ε α} {f : α → β} {y : β} :
    f <$> r = .ok y ↔ ∃ x, r = .ok x ∧ f x = y := by
  cases r with
  | error e => exact iff_of_false nofun fun ⟨_, hx, _⟩ => nomatch hx
  | ok x => exact ⟨fun h => ⟨x, rfl, Except.ok.inj h⟩, fun ⟨_, hx, h⟩ => by cases hx; cases h; rfl⟩

theorem map_eq_error_iff {r : Except ε α} {f : α → β} : f <$> r = .error e ↔ r = .error e := by
  cases r with
  | error e' => exact ⟨fun h => congrArg _ (Except.error.inj h), fun h => by cases h; rfl⟩
  | ok x => exact iff_of_false nofun nofun

variable {f : α → Except ε β}

/-- **A run succeeds iff every step does**, with the results of the steps. -/
theorem mapM_eq_ok_iff : ∀ {xs : List α} {ys : List β},
    xs.mapM f = .ok ys ↔ List.Forall₂ (fun x y => f x = .ok y) xs ys
  | [], ys => by
    rw [List.mapM_nil, List.forall₂_nil_left_iff]
    exact ⟨fun h => (Except.ok.inj h).symm, fun h => by rw [h]; rfl⟩
  | x :: xs, ys => by
    rw [List.mapM_cons, List.forall₂_cons_left_iff]
    constructor
    · intro h
      obtain ⟨y, hy, h⟩ := bind_eq_ok_iff.1 h
      obtain ⟨others, hothers, h⟩ := bind_eq_ok_iff.1 h
      exact ⟨y, others, hy, mapM_eq_ok_iff.1 hothers, (Except.ok.inj h).symm⟩
    · rintro ⟨y, others, hy, hothers, rfl⟩
      exact bind_eq_ok_iff.2 ⟨y, hy, bind_eq_ok_iff.2 ⟨others, mapM_eq_ok_iff.2 hothers, rfl⟩⟩

/-- Every member has its result. -/
theorem exists_ok_of_mem {xs : List α} {ys : List β}
    (h : List.Forall₂ (fun x y => f x = .ok y) xs ys) {x : α} (hmem : x ∈ xs) :
    ∃ y ∈ ys, f x = .ok y := by
  induction h with
  | nil => cases hmem
  | @cons first y xs ys hfirst _ ih =>
    rcases List.mem_cons.1 hmem with rfl | hmem
    · exact ⟨y, List.mem_cons_self, hfirst⟩
    · obtain ⟨z, hz, hx⟩ := ih hmem
      exact ⟨z, List.mem_cons_of_mem y hz, hx⟩

/-- Every result is that of a member. -/
theorem exists_of_mem_results {xs : List α} {ys : List β}
    (h : List.Forall₂ (fun x y => f x = .ok y) xs ys) {y : β} (hmem : y ∈ ys) :
    ∃ x ∈ xs, f x = .ok y := by
  induction h with
  | nil => cases hmem
  | @cons first z xs ys hfirst _ ih =>
    rcases List.mem_cons.1 hmem with rfl | hmem
    · exact ⟨first, List.mem_cons_self, hfirst⟩
    · obtain ⟨x, hx, hy⟩ := ih hmem
      exact ⟨x, List.mem_cons_of_mem first hx, hy⟩

/-- A run fails in its first step, or later if that succeeds. -/
theorem mapM_cons_eq_error_iff {x : α} {xs : List α} : (x :: xs).mapM f = .error e ↔
    f x = .error e ∨ (∃ y, f x = .ok y) ∧ xs.mapM f = .error e := by
  rw [List.mapM_cons]
  cases hx : f x with
  | error e' =>
    refine ⟨fun h => Or.inl (congrArg _ (Except.error.inj h)), ?_⟩
    rintro (h | ⟨⟨y, hy⟩, -⟩)
    · exact congrArg _ (Except.error.inj h)
    · cases hy
  | ok y =>
    have hrest : (Except.ok y >>= fun y => xs.mapM f >>= fun ys => pure (y :: ys)) = .error e
        ↔ xs.mapM f = .error e := map_eq_error_iff (f := (y :: ·))
    rw [hrest]
    exact ⟨fun h => Or.inr ⟨⟨y, rfl⟩, h⟩, fun h => h.elim nofun And.right⟩

/-- **A run fails with the error of the first step that fails.** -/
theorem mapM_eq_error_iff : ∀ {xs : List α}, xs.mapM f = .error e ↔
    ∃ before x behind, xs = before ++ x :: behind ∧ (∀ y ∈ before, ∃ z, f y = .ok z) ∧
      f x = .error e
  | [] => iff_of_false nofun fun ⟨before, _, _, h, _⟩ => by cases before <;> cases h
  | x :: xs => by
    rw [mapM_cons_eq_error_iff, mapM_eq_error_iff]
    constructor
    · rintro (hx | ⟨hx, before, z, behind, rfl, hbefore, hz⟩)
      · exact ⟨[], x, xs, rfl, fun y hy => absurd hy List.not_mem_nil, hx⟩
      · exact ⟨x :: before, z, behind, rfl, List.forall_mem_cons.2 ⟨hx, hbefore⟩, hz⟩
    · rintro ⟨_ | ⟨y, before⟩, z, behind, hsplit, hbefore, hz⟩
      · obtain ⟨rfl, -⟩ := List.cons.inj hsplit
        exact Or.inl hz
      · obtain ⟨rfl, rfl⟩ := List.cons.inj hsplit
        obtain ⟨hx, hbefore⟩ := List.forall_mem_cons.1 hbefore
        exact Or.inr ⟨hx, before, z, behind, rfl, hbefore, hz⟩

theorem exists_of_mapM_eq_error {xs : List α} (h : xs.mapM f = .error e) :
    ∃ x ∈ xs, f x = .error e := by
  obtain ⟨before, x, behind, rfl, -, hx⟩ := mapM_eq_error_iff.1 h
  exact ⟨x, List.mem_append_right before List.mem_cons_self, hx⟩

/-- **Results that may be missing**: those that are there belong to the members that have one. -/
theorem forall₂_filterMap_id {xs : List α} {ys : List (Option β)} {R : α → Option β → Prop}
    {p : α → Bool} (h : List.Forall₂ R xs ys) (hp : ∀ x y, R x y → (y.isSome ↔ p x = true)) :
    List.Forall₂ (fun x y => R x (some y)) (xs.filter p) (ys.filterMap id) := by
  induction h with
  | nil => exact .nil
  | @cons x y xs ys hxy _ ih =>
    have hsome := hp x y hxy
    cases y with
    | none =>
      rw [List.filter_cons_of_neg (by simpa using hsome), List.filterMap_cons]
      exact ih
    | some y =>
      rw [List.filter_cons_of_pos (by simpa using hsome), List.filterMap_cons]
      exact .cons hxy ih

/-- **Two runs over one list**: if whatever a step of the first makes is related to something that the
step of the second makes, then what the first run makes is related to a part of what the second makes. -/
theorem exists_forall₂_sublist {xs : List α} {ys : List (Option β)} {R R' : α → Option β → Prop}
    {S : β → β → Prop} (h : List.Forall₂ R xs ys)
    (hstep : ∀ x ∈ xs, ∀ y, R x y → ∃ z, R' x z ∧ ∀ b ∈ y, ∃ c ∈ z, S b c) :
    ∃ zs, List.Forall₂ R' xs zs ∧
      ∃ kept, kept.Sublist (zs.filterMap id) ∧ List.Forall₂ S (ys.filterMap id) kept := by
  induction h with
  | nil => exact ⟨[], .nil, [], List.Sublist.refl _, .nil⟩
  | @cons x y xs ys hxy _ ih =>
    obtain ⟨zs, hzs, kept, hkept, hrelated⟩ := ih fun w hw => hstep w (List.mem_cons_of_mem x hw)
    obtain ⟨z, hz, hmade⟩ := hstep x List.mem_cons_self y hxy
    refine ⟨z :: zs, .cons hz hzs, ?_⟩
    cases y with
    | none =>
      refine ⟨kept, ?_, hrelated⟩
      cases z with
      | none => exact hkept
      | some c => exact hkept.cons c
    | some b =>
      obtain ⟨c, hc, hbc⟩ := hmade b rfl
      obtain rfl : z = some c := hc
      exact ⟨c :: kept, hkept.cons_cons c, .cons hbc hrelated⟩

end ConfigRefs
