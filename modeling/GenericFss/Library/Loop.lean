/-! A `while` loop whose body may have no defined outcome, run for a limited number
of rounds. What holds of it at the end is proved by an invariant. -/

universe u

inductive Loop.Outcome (σ : Type u) where
  | ended (state : σ)
  | running (state : σ)
  | undefined

namespace Loop
variable {σ : Type u}

/-- What stands behind the loop is done only once the loop has ended. -/
def Outcome.finish (after : σ → σ) : Outcome σ → Outcome σ
  | .ended state => .ended (after state)
  | .running state => .running state
  | .undefined => .undefined

/-- What holds of the state that a run has come to, on the way and at the end. -/
def Outcome.Satisfies (onTheWay atTheEnd : σ → Prop) : Outcome σ → Prop
  | .ended state => atTheEnd state
  | .running state => onTheWay state
  | .undefined => True

section Finish
variable {after : σ → σ} {outcome : Outcome σ}

theorem Outcome.finish_ended {final : σ} :
    outcome.finish after = .ended final ↔ ∃ stopped, outcome = .ended stopped ∧ final = after stopped := by
  cases outcome with
  | ended stopped => simp [Outcome.finish, eq_comm]
  | running state | undefined => simp [Outcome.finish]

theorem Outcome.Satisfies.finish {onTheWay stopped atTheEnd : σ → Prop} (reached : outcome.Satisfies onTheWay stopped)
    (finished : ∀ state, stopped state → atTheEnd (after state)) : (outcome.finish after).Satisfies onTheWay atTheEnd := by
  cases outcome with
  | ended state => exact finished state reached
  | running state => exact reached
  | undefined => trivial

end Finish

def run (condition : σ → Bool) (body : σ → Option σ) : Nat → σ → Outcome σ
  | 0, state => if condition state then .running state else .ended state
  | rounds + 1, state =>
    if condition state then
      match body state with
      | none => .undefined
      | some next => run condition body rounds next
    else .ended state

section Rounds
variable {condition : σ → Bool} {body : σ → Option σ} {state next : σ}

theorem run_done (rounds : Nat) (done : condition state = false) : run condition body rounds state = .ended state := by
  cases rounds <;> simp [run, done]

theorem run_succ (rounds : Nat) (goes : condition state = true) (stepped : body state = some next) :
    run condition body (rounds + 1) state = run condition body rounds next := by
  rw [run, if_pos goes]
  simp only [stepped]

theorem run_undefined (rounds : Nat) (goes : condition state = true) (stuck : body state = none) :
    run condition body (rounds + 1) state = .undefined := by
  rw [run, if_pos goes]
  simp only [stuck]

/-- The rule of invariants: they hold throughout, and at the end the condition does not. -/
theorem run_satisfies {invariant : σ → Prop}
    (kept : ∀ state next, invariant state → condition state = true → body state = some next → invariant next)
    (initial : invariant state) (rounds : Nat) :
    (run condition body rounds state).Satisfies invariant fun final => invariant final ∧ condition final = false := by
  induction rounds generalizing state with
  | zero =>
    cases goes : condition state with
    | true => rw [run, if_pos goes]; exact initial
    | false => rw [run_done _ goes]; exact ⟨initial, goes⟩
  | succ rounds ih =>
    cases goes : condition state with
    | true =>
      cases stepped : body state with
      | none => rw [run_undefined rounds goes stepped]; trivial
      | some next => rw [run_succ rounds goes stepped]; exact ih (kept state next initial goes stepped)
    | false => rw [run_done _ goes]; exact ⟨initial, goes⟩

/-- An invariant under which the body is defined and the condition holds keeps the loop
running. It may speak about the number of rounds. -/
theorem run_forever {invariant : Nat → σ → Prop} (goes : ∀ count state, invariant count state → condition state = true)
    (kept : ∀ count state, invariant count state → ∃ next, body state = some next ∧ invariant (count + 1) next)
    {count : Nat} (initial : invariant count state) (rounds : Nat) :
    ∃ later, run condition body rounds state = .running later ∧ invariant (count + rounds) later := by
  induction rounds generalizing state count with
  | zero => exact ⟨state, by rw [run, if_pos (goes count state initial)], initial⟩
  | succ rounds ih =>
    obtain ⟨next, stepped, preserved⟩ := kept count state initial
    rw [run_succ rounds (goes count state initial) stepped, Nat.add_comm rounds, ← Nat.add_assoc]
    exact ih preserved

end Rounds

end Loop
