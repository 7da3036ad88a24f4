import GenericFss.Library.Machine

/-! A machine that answers some of its inputs, and what it means that another machine, which
keeps a log of its answers and has inputs of its own, implements it. -/

universe u v w x y

namespace Transducer

variable {σ : Type u} {ε : Type v} {β : Type w} {τ : Type x} {ι : Type y}

/-- The answers that the machine gives to these inputs. -/
def transcript (step : σ → ε → σ) (answer : σ → ε → Option β) : σ → List ε → List β
  | _, [] => []
  | state, input :: rest => (answer state input).toList ++ transcript step answer (step state input) rest

/-- In related states both machines answer alike and go on to related states. -/
structure Implements (step : σ → ε → σ) (answer : σ → ε → Option β) (other : τ → ι → τ) (log : τ → List β)
    (meaning : ι → ε) (related : τ → σ → Prop) : Prop where
  kept : ∀ image state input, related image state → related (other image input) (step state (meaning input))
  logged : ∀ image state input, related image state →
    log (other image input) = log image ++ (answer state (meaning input)).toList

section Runs
variable {step : σ → ε → σ} {answer : σ → ε → Option β} {other : τ → ι → τ} {log : τ → List β}
  {meaning : ι → ε} {related : τ → σ → Prop}

theorem Implements.run (implements : Implements step answer other log meaning related) (image : τ) (state : σ)
    (initial : related image state) (inputs : List ι) :
    log (Machine.run other image inputs) = log image ++ transcript step answer state (inputs.map meaning) := by
  induction inputs generalizing image state with
  | nil => exact (List.append_nil _).symm
  | cons input rest ih =>
    rw [Machine.run_cons, ih _ _ (implements.kept image state input initial), implements.logged image state input initial,
      List.append_assoc, List.map_cons, transcript]

end Runs

end Transducer
