/-! Steps that can fail. Those that keep the state that they reached end with an outcome and a
state, put together from the outcomes of the parts. -/

namespace SwapDesk

variable {ε ε' σ α β : Type}

theorem ok_bind (value : α) (next : α → Except ε β) : Except.ok value >>= next = next value := rfl

theorem mapError_eq_ok_iff {outcome : Except ε α} {change : ε → ε'} {value : α} :
    outcome.mapError change = .ok value ↔ outcome = .ok value := by
  cases outcome with
  | error fault =>
    constructor
    · intro same
      cases same
    · intro same
      cases same
  | ok other =>
    constructor
    · intro same
      cases same
      rfl
    · intro same
      cases same
      rfl

theorem mapError_eq_error_iff {outcome : Except ε α} {change : ε → ε'} {fault : ε'} :
    outcome.mapError change = .error fault ↔ ∃ cause, outcome = .error cause ∧ change cause = fault := by
  cases outcome with
  | error cause =>
    constructor
    · intro same
      cases same
      exact ⟨cause, rfl, rfl⟩
    · rintro ⟨_, same, rfl⟩
      cases same
      rfl
  | ok value =>
    constructor
    · intro same
      cases same
    · rintro ⟨_, same, _⟩
      cases same

/-- The outcome of a step and the state after it. -/
def settled (step : ExceptT ε (StateM σ) α) (state : σ) : Except ε α × σ := step.run.run state

theorem settled_lift (action : StateM σ α) (state : σ) :
    settled (liftM action : ExceptT ε (StateM σ) α) state =
      (.ok (action.run state).1, (action.run state).2) := rfl

private theorem settled_bind (step : ExceptT ε (StateM σ) α)
    (next : α → ExceptT ε (StateM σ) β) (state : σ) :
    settled (step >>= next) state = match settled step state with
      | (.ok value, after) => settled (next value) after
      | (.error error, after) => (.error error, after) := by
  unfold settled ExceptT.run StateT.run
  simp only [bind, ExceptT.bind, ExceptT.mk, StateT.bind, ExceptT.bindCont]
  cases step state with
  | mk outcome after => cases outcome <;> rfl

variable {step : ExceptT ε (StateM σ) α} {next : α → ExceptT ε (StateM σ) β} {state after : σ}

theorem settled_bind_ok {value : α} (done : settled step state = (.ok value, after)) :
    settled (step >>= next) state = settled (next value) after := by
  rw [settled_bind, done]

theorem settled_bind_error {error : ε} (failed : settled step state = (.error error, after)) :
    settled (step >>= next) state = (.error error, after) := by
  rw [settled_bind, failed]

theorem settled_adapt (step : ExceptT ε (StateM σ) α) (change : ε → ε') (state : σ) :
    settled (step.adapt change) state =
      ((settled step state).1.mapError change, (settled step state).2) := rfl

end SwapDesk
