/-! Procedures that read and change a state and are stopped by the first check that fails.
They are judged exactly: from the states of a precondition, a procedure passes if and only
if a condition holds, and if it passes it ends in the postcondition. -/

universe u

/-- The value is missing if a check has failed. -/
def Procedure (σ : Type u) (α : Type) := σ → Option α × σ

namespace Procedure
variable {σ : Type u} {α β : Type}

instance : Monad (Procedure σ) where
  pure value := fun state => (some value, state)
  bind first next := fun state =>
    match (first state).1 with
    | some value => next value (first state).2
    | none => (none, (first state).2)

def act (change : σ → σ) : Procedure σ Unit := fun state => (some (), change state)

def read (value : σ → α) : Procedure σ α := fun state => (some (value state), state)

def check (condition : σ → Bool) : Procedure σ Unit := fun state => (if condition state then some () else none, state)

/-- `for n in range(start, start + count)`. -/
def forRange (body : Nat → Procedure σ Unit) : (start count : Nat) → Procedure σ Unit
  | _, 0 => pure ()
  | start, count + 1 => do
    body start
    forRange body (start + 1) count

def Passes (procedure : Procedure σ α) (state : σ) : Prop := (procedure state).1.isSome = true

instance (procedure : Procedure σ α) (state : σ) : Decidable (procedure.Passes state) := inferInstanceAs (Decidable (_ = _))

/-- The exact judgement. -/
structure Exactly (pre : σ → Prop) (procedure : Procedure σ α) (condition : Prop) (post : α → σ → Prop) : Prop where
  passes_iff : ∀ state, pre state → (procedure.Passes state ↔ condition)
  ends : ∀ state value, pre state → (procedure state).1 = some value → post value (procedure state).2

section Rules
variable {pre pre' : σ → Prop} {procedure : Procedure σ α} {condition condition' : Prop} {post post' : α → σ → Prop}

theorem Exactly.weaken (exactly : Exactly pre procedure condition post) (stronger : ∀ state, pre' state → pre state)
    (weaker : ∀ value state, post value state → post' value state) : Exactly pre' procedure condition post' where
  passes_iff state holds := exactly.passes_iff state (stronger state holds)
  ends state value holds passed := weaker value _ (exactly.ends state value (stronger state holds) passed)

theorem Exactly.congr (exactly : Exactly pre procedure condition post) (same : condition ↔ condition') :
    Exactly pre procedure condition' post := by
  rwa [← propext same]

/-- Where a procedure has passed, its condition holds. -/
theorem Exactly.passed (exactly : Exactly pre procedure condition post) :
    Exactly pre procedure condition fun value state => condition ∧ post value state where
  passes_iff := exactly.passes_iff
  ends state value start passed :=
    ⟨(exactly.passes_iff state start).mp (Option.isSome_iff_exists.mpr ⟨value, passed⟩), exactly.ends state value start passed⟩

theorem Exactly.pure {value : α} (holds : ∀ state, pre state → post value state) :
    Exactly pre (Pure.pure value) True post where
  passes_iff _ _ := iff_true_intro rfl
  ends state _ start passed := Option.some.inj passed ▸ holds state start

theorem Exactly.act {change : σ → σ} {post : Unit → σ → Prop} (holds : ∀ state, pre state → post () (change state)) :
    Exactly pre (Procedure.act change) True post where
  passes_iff _ _ := iff_true_intro rfl
  ends state _ start _ := holds state start

/-- What is known of one state, said of it. -/
theorem Exactly.judged {procedure : Procedure σ Unit} {state : σ} {post : σ → Prop}
    (exactly : Exactly (· = state) procedure condition fun _ => post) :
    (procedure.Passes state ↔ condition) ∧ (procedure.Passes state → post (procedure state).2) := by
  refine ⟨exactly.passes_iff state rfl, fun passes => ?_⟩
  obtain ⟨value, passed⟩ := Option.isSome_iff_exists.mp passes
  exact exactly.ends state value rfl passed

theorem Exactly.read {value : σ → α} {next : α → Procedure σ β} {last : β → σ → Prop}
    (rest : ∀ found, Exactly (fun state => pre state ∧ value state = found) (next found) condition last) :
    Exactly pre (Procedure.read value >>= next) condition last where
  passes_iff state start := (rest (value state)).passes_iff state ⟨start, rfl⟩
  ends state found start := (rest (value state)).ends state found ⟨start, rfl⟩

/-- What is read may be replaced by what is known of it. -/
theorem Exactly.readKnown {value : σ → α} {known : α} {next : α → Procedure σ β} {last : β → σ → Prop}
    (reads : ∀ state, pre state → value state = known) (rest : Exactly pre (next known) condition last) :
    Exactly pre (Procedure.read value >>= next) condition last :=
  .read fun found => by
    constructor
    · rintro state ⟨start, rfl⟩
      exact reads state start ▸ rest.passes_iff state start
    · rintro state last ⟨start, rfl⟩
      exact reads state start ▸ rest.ends state last start

theorem Exactly.check {test : σ → Bool} (decides : ∀ state, pre state → (test state = true ↔ condition)) :
    Exactly pre (Procedure.check test) condition fun _ => pre where
  passes_iff state start := by
    rw [← decides state start, Passes, Procedure.check]
    cases test state <;> simp
  ends _ _ start _ := start

/-- The second procedure is judged only where the first can pass. -/
theorem Exactly.bind {next : α → Procedure σ β} {last : β → σ → Prop} (first : Exactly pre procedure condition post)
    (rest : condition → ∀ value, Exactly (post value) (next value) condition' last) :
    Exactly pre (procedure >>= next) (condition ∧ condition') last := by
  have unfolded (state : σ) : (procedure >>= next) state =
      match (procedure state).1 with
      | some value => next value (procedure state).2
      | none => (none, (procedure state).2) := rfl
  constructor
  · intro state start
    have passes := first.passes_iff state start
    have ends := first.ends state
    rw [Passes, unfolded]
    rw [Passes] at passes
    cases result : (procedure state).1 with
    | none =>
      rw [result] at passes
      simp [← passes]
    | some value =>
      rw [result] at passes
      have now : condition := passes.mp rfl
      rw [and_iff_right now]
      exact (rest now value).passes_iff _ (ends value start result)
  · intro state value start
    have passes := first.passes_iff state start
    rw [unfolded]
    rw [Passes] at passes
    cases result : (procedure state).1 with
    | none => exact nofun
    | some found =>
      rw [result] at passes
      exact (rest (passes.mp rfl) found).ends _ value (first.ends state found start result)

/-- A first procedure that always passes adds nothing to the condition. -/
theorem Exactly.andThen {next : α → Procedure σ β} {last : β → σ → Prop} (first : Exactly pre procedure True post)
    (rest : ∀ value, Exactly (post value) (next value) condition' last) : Exactly pre (procedure >>= next) condition' last :=
  (first.bind fun _ => rest).congr (by rw [true_and])

theorem Exactly.once {body : Nat → Procedure σ Unit} {start : Nat} {post : Unit → σ → Prop}
    (round : Exactly pre (body start) condition post) : Exactly pre (Procedure.forRange body start 1) condition post :=
  (round.bind fun _ _ => .pure fun _ holds => holds).congr (and_iff_left trivial)

/-- The precondition, and with it the condition of a round, may depend on the number of the round. -/
theorem Exactly.forRange {body : Nat → Procedure σ Unit} {invariant : Nat → σ → Prop} {rounds : Nat → Prop}
    (round : ∀ n, Exactly (invariant n) (body n) (rounds n) fun _ => invariant (n + 1)) (start count : Nat) :
    Exactly (invariant start) (Procedure.forRange body start count) (∀ n, start ≤ n → n < start + count → rounds n)
      fun _ => invariant (start + count) := by
  induction count generalizing start with
  | zero =>
    have done : Exactly (invariant start) (Procedure.forRange body start 0) True fun _ => invariant (start + 0) :=
      .pure fun _ holds => holds
    refine done.congr (iff_of_true trivial ?_)
    intro n inside below
    exact absurd below (Nat.not_lt_of_le inside)
  | succ count ih =>
    have later := ih (start + 1)
    rw [Nat.add_right_comm, Nat.add_assoc] at later
    refine ((round start).bind fun _ _ => later).congr ?_
    constructor
    · intro ⟨first, rest⟩ n inside below
      rcases Nat.eq_or_lt_of_le inside with rfl | beyond
      · exact first
      · exact rest n beyond below
    · intro all
      exact ⟨all start (Nat.le_refl start) (by omega), fun n beyond => all n (by omega)⟩

end Rules

end Procedure
