/-! A value that is computed when it is first needed. Some queries force it before they
look; the others show it as it stands. Forcing twice is forcing once, so only the queries
before the first that forces can tell a lazy value from one computed up front. -/

universe u v w

namespace Lazy

variable {σ : Type u} {ι : Type v} {β : Type w} (force : σ → σ) (forces : ι → Bool) (shown : σ → ι → β)

def look (state : σ) (query : ι) : σ := if forces query then force state else state

def answers : σ → List ι → List β
  | _, [] => []
  | state, query :: rest => shown (look force forces state query) query :: answers (look force forces state query) rest

variable {force}

theorem answers_forced {state : σ} (forced : force state = state) (queries : List ι) :
    answers force forces shown state queries = queries.map (shown state) := by
  have still (query : ι) : look force forces state query = state := by
    rw [look, forced, ite_self]
  induction queries with
  | nil => rfl
  | cons query rest ih => rw [answers, still, ih, List.map_cons]

/-- The unforced value shows until the first query that forces it. -/
theorem answers_eq (idempotent : ∀ state, force (force state) = force state) (state : σ) (queries : List ι) :
    answers force forces shown state queries =
      (queries.takeWhile fun query => !forces query).map (shown state) ++
        (queries.dropWhile fun query => !forces query).map (shown (force state)) := by
  induction queries with
  | nil => rfl
  | cons query rest ih =>
    cases forcing : forces query with
    | true => simp [answers, look, forcing, answers_forced forces shown (idempotent state)]
    | false => simp [answers, look, forcing, ih]

/-- Laziness goes unnoticed exactly if the queries that come too early cannot see a difference. -/
theorem answers_eager_iff (idempotent : ∀ state, force (force state) = force state) (state : σ) (queries : List ι) :
    answers force forces shown state queries = queries.map (shown (force state)) ↔
      ∀ query ∈ queries.takeWhile fun query => !forces query, shown state query = shown (force state) query := by
  have split : queries.map (shown (force state)) =
      (queries.takeWhile fun query => !forces query).map (shown (force state)) ++
        (queries.dropWhile fun query => !forces query).map (shown (force state)) := by
    rw [← List.map_append, List.takeWhile_append_dropWhile]
  rw [answers_eq forces shown idempotent, split, List.append_left_inj, List.map_inj_left]

end Lazy
