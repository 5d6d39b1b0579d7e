import ConfigRefs.Proofs.Value.References

/-!
# Value: a visitor that fails

A visitor may keep a state and fail. A walk then makes its calls from the left up to the first one that
fails, and ends with the error of that call and the state in which it left the visitor
(`visitStrings_stops`). `watched` is a visitor that also writes down what it is called with, so it tells
which calls a walk has made when it ends.
-/

namespace ConfigRefs.Value

open ConfigRefs.Declaration

/-- A visitor with a state of its own, which it keeps when it fails. -/
abbrev Visitor (σ ε : Type) := String → Scope → ExceptT ε (StateM σ) Unit

variable {σ ε : Type}

/-- What visiting ends with, and the state that it leaves behind. -/
def ending (visiting : ExceptT ε (StateM σ) Unit) (state : σ) : Except ε Unit × σ :=
  Id.run (visiting.run.run state)

/-- A visitor that also writes down what it is called with. -/
def watched (visit : Visitor σ ε) : Visitor (σ × List (String × Scope)) ε := fun text scope =>
  ExceptT.mk fun (state, log) =>
    let (result, after) := ending (visit text scope) state
    pure (result, (after, log ++ [(text, scope)]))

/-- Calls of a visitor succeed one after the other, and take it from one state to another. -/
inductive Passes (visit : Visitor σ ε) : σ → List (String × Scope) → σ → Prop where
  | nil {state : σ} : Passes visit state [] state
  | cons {state next after : σ} {call : String × Scope} {rest : List (String × Scope)} :
    ending (visit call.1 call.2) state = (.ok (), next) → Passes visit next rest after →
      Passes visit state (call :: rest) after

/-- Calls of a visitor succeed up to one that fails: the calls made, the error, and the state in which
the last of them leaves the visitor. -/
inductive Fails (visit : Visitor σ ε) (state : σ) (calls : List (String × Scope)) :
    List (String × Scope) → ε → σ → Prop where
  | intro {front back : List (String × Scope)} {call : String × Scope} {before after : σ} {error : ε} :
    calls = front ++ call :: back → Passes visit state front before →
      ending (visit call.1 call.2) before = (.error error, after) →
        Fails visit state calls (front ++ [call]) error after

/-! ### Calls in turn -/

section Calls

variable {visit : Visitor σ ε} {state after : σ} {call : String × Scope}
  {made rest : List (String × Scope)}

/-- Behind a call that succeeds the walk goes on. -/
theorem ending_forM_cons_of_ok (h : ending (visit call.1 call.2) state = (.ok (), after)) :
    ending ((call :: rest).forM fun call => visit call.1 call.2) state
      = ending (rest.forM fun call => visit call.1 call.2) after := by
  unfold ending at h ⊢
  rw [List.forM_eq_forM, List.forM_cons, ExceptT.run_bind, StateT.run_bind,
    Id.run_bind, h]

/-- **A call that fails is the last one.** -/
theorem ending_forM_cons_of_error {error : ε}
    (h : ending (visit call.1 call.2) state = (.error error, after)) :
    ending ((call :: rest).forM fun call => visit call.1 call.2) state = (.error error, after) := by
  unfold ending at h ⊢
  rw [List.forM_eq_forM, List.forM_cons, ExceptT.run_bind, StateT.run_bind, Id.run_bind, h]
  rfl

/-- A watched visitor does what it does unwatched. -/
theorem ending_watched (visit : Visitor σ ε) (call : String × Scope) (state : σ)
    (log : List (String × Scope)) :
    ending (watched visit call.1 call.2) (state, log)
      = ((ending (visit call.1 call.2) state).1,
          ((ending (visit call.1 call.2) state).2, log ++ [call])) := rfl

/-- **Calls in turn** all succeed, or they stop at the first one that fails. -/
theorem ending_forM_cases (visit : Visitor σ ε) (made : List (String × Scope)) :
    ∀ (state : σ) (log : List (String × Scope)),
      (∃ after, Passes visit state made after ∧
        ending (made.forM fun call => visit call.1 call.2) state = (.ok (), after) ∧
        ending (made.forM fun call => watched visit call.1 call.2) (state, log)
          = (.ok (), (after, log ++ made))) ∨
      ∃ front error after, Fails visit state made front error after ∧
        ending (made.forM fun call => visit call.1 call.2) state = (.error error, after) ∧
        ending (made.forM fun call => watched visit call.1 call.2) (state, log)
          = (.error error, (after, log ++ front)) := by
  induction made with
  | nil =>
    intro state log
    exact Or.inl ⟨state, .nil, rfl, by rw [List.append_nil]; rfl⟩
  | cons call rest ih =>
    intro state log
    have hwatched := ending_watched visit call state log
    rcases hcall : ending (visit call.1 call.2) state with ⟨_ | _, next⟩
    · next error =>
      rw [hcall] at hwatched
      exact Or.inr ⟨[] ++ [call], error, next, .intro rfl .nil hcall, ending_forM_cons_of_error hcall,
        ending_forM_cons_of_error hwatched⟩
    · rw [hcall] at hwatched
      rw [ending_forM_cons_of_ok hcall, ending_forM_cons_of_ok hwatched]
      rcases ih next (log ++ [call]) with ⟨after, hpasses, hend, hlog⟩ |
        ⟨_, error, after, ⟨hsplit, hfront, hlast⟩, hend, hlog⟩
      · rw [List.append_assoc] at hlog
        exact Or.inl ⟨after, .cons hcall hpasses, hend, hlog⟩
      · rw [List.append_assoc] at hlog
        exact Or.inr ⟨_, error, after, .intro (congrArg (call :: ·) hsplit) (.cons hcall hfront) hlast,
          hend, hlog⟩

theorem Passes.ending_forM (h : Passes visit state made after) :
    ending (made.forM fun call => visit call.1 call.2) state = (.ok (), after) := by
  induction h with
  | nil => rfl
  | cons hcall _ ih => rw [ending_forM_cons_of_ok hcall, ih]

end Calls

/-- **A visitor that fails ends the walk at once.** A visitor which only records its calls receives the
reported strings, each with the scope at its address. Over these calls, either all succeed, and then the
walk does, or the walk makes those up to and with the first one that fails, and ends with its error and
the state in which it leaves the visitor. So the references of a value are those of its calls in turn, or
the error of the first call that has one. -/
theorem visitStrings_stops (visit : Visitor σ ε) (scope : Scope) (value : Value) (state : σ)
    (index : Index) :
    (∀ start, calls start value
      = value.whole.reported.map fun found => (found.2, scopeAt start value found.1)) ∧
    ((∃ after, Passes visit state (calls scope value) after ∧
        ending (visitStrings visit scope value) state = (.ok (), after) ∧
        ending (visitStrings (watched visit) scope value) (state, [])
          = (.ok (), (after, calls scope value))) ∨
      ∃ front error after, Fails visit state (calls scope value) front error after ∧
        ending (visitStrings visit scope value) state = (.error error, after) ∧
        ending (visitStrings (watched visit) scope value) (state, [])
          = (.error error, (after, front))) ∧
    ((ending (visitStrings visit scope value) state).1 = .ok ()
      ↔ ∃ after, Passes visit state (calls scope value) after) ∧
    ((∃ found, List.Forall₂ (fun call made => references call.1 index call.2 = .ok made)
        (calls .empty value) found ∧ value.usedReferences index = .ok found.flatten) ∨
      ∃ front call back error, calls .empty value = front ++ call :: back ∧
        (∀ earlier ∈ front, ∃ made, references earlier.1 index earlier.2 = .ok made) ∧
        references call.1 index call.2 = .error error ∧ value.usedReferences index = .error error) := by
  have hcases := ending_forM_cases visit (calls scope value) state []
  rw [visitStrings_eq_forM_calls, visitStrings_eq_forM_calls]
  refine ⟨fun start => calls_eq_reported start value, hcases, ?_, ?_⟩
  · constructor
    · intro hok
      rcases hcases with ⟨after, hpasses, -⟩ | ⟨_, error, after, -, hend, -⟩
      · exact ⟨after, hpasses⟩
      · rw [hend] at hok
        cases hok
    · rintro ⟨after, hpasses⟩
      rw [hpasses.ending_forM]
  · rw [usedReferences_eq]
    cases hmade : (calls .empty value).mapM fun call => references call.1 index call.2 with
    | ok found => exact Or.inl ⟨found, mapM_eq_ok_iff.1 hmade, rfl⟩
    | error error =>
      obtain ⟨front, call, back, hsplit, hfront, hcall⟩ := mapM_eq_error_iff.1 hmade
      exact Or.inr ⟨front, call, back, error, hsplit, hfront, hcall, rfl⟩

/-- A counting visitor fails in the second of two bodies of one label, with a string behind them. -/
theorem visitStrings_stops_second :
    let value : Value := .object [
      ("dynamic", .array [.object [("rule", .array [.string "a", .string "$\x7bvar.x\x7d"])]]),
      ("after", .string "$\x7bvar.y\x7d")]
    let visit : Visitor Nat String := fun text _ => do
      modify (· + 1)
      if text = "$\x7bvar.x\x7d" then throw text
    let front : List (String × Scope) := [("a", ⟨["rule"]⟩), ("$\x7bvar.x\x7d", ⟨["rule"]⟩)]
    calls .empty value = front ++ [("$\x7bvar.y\x7d", ⟨[]⟩)] ∧
      Fails visit 0 (calls .empty value) front "$\x7bvar.x\x7d" 2 ∧
      ending (visitStrings visit .empty value) 0 = (.error "$\x7bvar.x\x7d", 2) ∧
      ending (visitStrings (watched visit) .empty value) (0, [])
        = (.error "$\x7bvar.x\x7d", (2, front)) ∧
      value.usedReferences .empty
        = .error (.unresolvable "var.x" "$\x7bvar.x\x7d" ["rule"]) := by
  intro value visit front
  have hwatched : ending (visitStrings (watched visit) .empty value) (0, [])
      = (.error "$\x7bvar.x\x7d", (2, front)) := by
    unfold value visit front
    decide +kernel
  obtain ⟨hcalls, hstops, -, -⟩ := visitStrings_stops visit .empty value 0 .empty
  refine ⟨(hcalls .empty).trans (by decide +kernel), ?_⟩
  rcases hstops with ⟨after, -, -, hend⟩ | ⟨made, error, after, hfails, hend, hlog⟩
  · rw [hwatched] at hend
    cases hend
  · rw [hwatched] at hlog
    cases hlog
    exact ⟨hfails, hend, hwatched, by unfold value; decide +kernel⟩

end ConfigRefs.Value
