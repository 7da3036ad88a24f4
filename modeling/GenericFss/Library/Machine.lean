/-! Finite runs of a deterministic state machine. A law speaks about single steps;
`Always` says that every step of a run obeys it. Invariants, simulations and the
removal of unobservable events are each proved here once, by induction on the run. -/

universe u v w

namespace Machine

variable {σ : Type u} {τ : Type v} {ε : Type w}

def run (step : σ → ε → σ) (start : σ) (events : List ε) : σ := events.foldl step start

/-- Every step of the run obeys `law before event after`. -/
def Always (step : σ → ε → σ) (law : σ → ε → σ → Prop) : σ → List ε → Prop
  | _, [] => True
  | state, event :: rest => law state event (step state event) ∧ Always step law (step state event) rest

instance decidableAlways (step : σ → ε → σ) (law : σ → ε → σ → Prop)
    [decideLaw : ∀ before event after, Decidable (law before event after)] :
    ∀ start events, Decidable (Always step law start events)
  | _, [] => isTrue trivial
  | state, event :: rest =>
    @instDecidableAnd _ _ (decideLaw state event (step state event)) (decidableAlways step law (step state event) rest)

section Runs
variable {step : σ → ε → σ}

@[simp] theorem run_nil (start : σ) : run step start [] = start := rfl

@[simp] theorem run_cons (start : σ) (event : ε) (rest : List ε) :
    run step start (event :: rest) = run step (step start event) rest := rfl

theorem run_append (start : σ) (first rest : List ε) :
    run step start (first ++ rest) = run step (run step start first) rest :=
  List.foldl_append

@[simp] theorem run_concat (start : σ) (first : List ε) (event : ε) :
    run step start (first ++ [event]) = step (run step start first) event := by
  rw [run_append, run_cons, run_nil]

theorem run_preserves {invariant : σ → Prop} (kept : ∀ state event, invariant state → invariant (step state event))
    {start : σ} (initial : invariant start) (events : List ε) : invariant (run step start events) := by
  induction events generalizing start with
  | nil => exact initial
  | cons event rest ih => exact ih (kept start event initial)

/-- The recursive definition reads as intended: the law is checked at each
position of the run, between the states before and after that event. -/
theorem always_iff {law : σ → ε → σ → Prop} {start : σ} {events : List ε} :
    Always step law start events ↔ ∀ before event after, events = before ++ event :: after →
      law (run step start before) event (run step start (before ++ [event])) := by
  induction events generalizing start with
  | nil => simp [Always]
  | cons head rest ih =>
    constructor
    · intro ⟨first, later⟩ before event after same
      cases before with
      | nil =>
        obtain ⟨rfl, rfl⟩ := List.cons.inj same
        exact first
      | cons other before =>
        obtain ⟨rfl, rest⟩ := List.cons.inj (List.cons_append ▸ same)
        exact ih.mp later before event after rest
    · intro positions
      refine ⟨positions [] head rest rfl, ih.mpr ?_⟩
      intro before event after same
      exact positions (head :: before) event after (by rw [same]; rfl)

theorem always_append {law : σ → ε → σ → Prop} {start : σ} {first rest : List ε} :
    Always step law start (first ++ rest) ↔ Always step law start first ∧ Always step law (run step start first) rest := by
  induction first generalizing start with
  | nil => simp [Always]
  | cons event first ih => rw [List.cons_append, Always, Always, ih, run_cons, and_assoc]

theorem Always.intro {law : σ → ε → σ → Prop} {invariant : σ → Prop}
    (kept : ∀ state event, invariant state → invariant (step state event))
    (holds : ∀ state event, invariant state → law state event (step state event))
    {start : σ} (initial : invariant start) (events : List ε) : Always step law start events := by
  induction events generalizing start with
  | nil => trivial
  | cons event rest ih => exact ⟨holds start event initial, ih (kept start event initial)⟩

theorem Always.intro' {law : σ → ε → σ → Prop} (holds : ∀ state event, law state event (step state event))
    (start : σ) (events : List ε) : Always step law start events :=
  @Always.intro σ ε step law (fun _ => True) (fun _ _ _ => trivial) (fun state event _ => holds state event) start trivial
    events

theorem Always.imp {first second : σ → ε → σ → Prop}
    (implies : ∀ state event, first state event (step state event) → second state event (step state event))
    {start : σ} {events : List ε} (holds : Always step first start events) : Always step second start events := by
  induction events generalizing start with
  | nil => trivial
  | cons event rest ih => exact ⟨implies start event holds.1, ih holds.2⟩

/-- Two laws that agree on single steps from states of the invariant agree on
runs. This turns the exact condition of one step into that of a whole run. -/
theorem always_congr {first second : σ → ε → σ → Prop} {invariant : σ → Prop}
    (kept : ∀ state event, invariant state → invariant (step state event))
    (agree : ∀ state event, invariant state →
      (first state event (step state event) ↔ second state event (step state event)))
    {start : σ} (initial : invariant start) (events : List ε) :
    Always step first start events ↔ Always step second start events := by
  induction events generalizing start with
  | nil => exact Iff.rfl
  | cons event rest ih =>
    exact and_congr (agree start event initial) (ih (kept start event initial))

theorem always_congr' {first second : σ → ε → σ → Prop}
    (agree : ∀ state event, first state event (step state event) ↔ second state event (step state event))
    (start : σ) (events : List ε) : Always step first start events ↔ Always step second start events :=
  @always_congr σ ε step first second (fun _ => True) (fun _ _ _ => trivial) (fun state event _ => agree state event)
    start trivial events

end Runs

section Simulation
variable {step : σ → ε → σ} {other : τ → ε → τ} {related : σ → τ → Prop}

/-- Lock-step simulation. The relation only has to survive the events that the
first machine's guard admits; the run is assumed to respect the guard. -/
theorem simulation {guard : σ → ε → Prop}
    (kept : ∀ state image event, related state image → guard state event →
      related (step state event) (other image event))
    {start : σ} {image : τ} (initial : related start image) {events : List ε}
    (guarded : Always step (fun state event _ => guard state event) start events) :
    related (run step start events) (run other image events) := by
  induction events generalizing start image with
  | nil => exact initial
  | cons event rest ih => exact ih (kept start image event initial guarded.1) guarded.2

end Simulation

section Purge
variable {step : σ → ε → σ} {related : σ → σ → Prop}

def purge (step : σ → ε → σ) (rejects : σ → ε → Bool) : σ → List ε → List ε
  | _, [] => []
  | state, event :: rest =>
    if rejects state event then purge step rejects (step state event) rest
    else event :: purge step rejects (step state event) rest

/-- If a rejected event cannot be seen through the relation, and accepted events
respect it, then neither can the absence of all rejected events. -/
theorem purge_related {rejects : σ → ε → Bool}
    (accepted : ∀ state image event, related state image → rejects state event = false →
      related (step state event) (step image event))
    (rejected : ∀ state image event, related state image → rejects state event = true →
      related (step state event) image)
    {start image : σ} (initial : related start image) (events : List ε) :
    related (run step start events) (run step image (purge step rejects start events)) := by
  induction events generalizing start image with
  | nil => exact initial
  | cons event rest ih =>
    simp only [run_cons, purge]
    cases seen : rejects start event with
    | true => exact ih (rejected start image event initial seen)
    | false => exact ih (accepted start image event initial seen)

end Purge

end Machine
