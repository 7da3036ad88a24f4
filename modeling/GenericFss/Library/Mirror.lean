import GenericFss.Library.Machine
import Mathlib.Data.List.Induction

/-! A register whose value is reported to an observer now and then. If every event
reports the new value, or leaves the register alone, or is exempt, then the last report
is out of date only because of an exempt event after it. -/

universe u v w

namespace Mirror

variable {σ : Type u} {ε : Type v} {β : Type w} (step : σ → ε → σ) (value : σ → β) (reports : σ → List β)
  (exempt : ε → Prop)

/-- What one event may do: report the value it leaves behind last, or report nothing
and keep the value unless it is exempt. -/
def Reporting (before : σ) (event : ε) (after : σ) : Prop :=
  ∃ more, reports after = reports before ++ more ∧
    (more.getLast? = some (value after) ∨ more = [] ∧ (value after = value before ∨ exempt event))

/-- What an observer knows after a run: the value, or that it has never been told and
the value is the initial one, or that an exempt event has come after the last report. -/
inductive Known (start : σ) (events : List ε) : Prop where
  | told : (reports (Machine.run step start events)).getLast? = some (value (Machine.run step start events)) →
      Known start events
  | untouched : reports (Machine.run step start events) = [] →
      value (Machine.run step start events) = value start → Known start events
  | outdated (before : List ε) (event : ε) (after : List ε) : events = before ++ event :: after → exempt event →
      reports (Machine.run step start events) = reports (Machine.run step start before) → Known start events

variable {step value reports exempt}

theorem known (disciplined : ∀ state event, Reporting value reports exempt state event (step state event)) {start : σ}
    (silent : reports start = []) (events : List ε) : Known step value reports exempt start events := by
  induction events using List.reverseRecOn with
  | nil => exact .untouched silent rfl
  | append_singleton events event ih =>
    obtain ⟨more, grown, report⟩ := disciplined (Machine.run step start events) event
    rw [← @Machine.run_concat σ ε step] at grown report
    rcases report with told | ⟨rfl, report⟩
    · apply Known.told
      rw [grown, List.getLast?_append, told]
      rfl
    · rw [List.append_nil] at grown
      rcases report with same | exempted
      · cases ih with
        | told last => exact .told (by rw [grown, same, last])
        | untouched none initial => exact .untouched (grown.trans none) (same.trans initial)
        | outdated before other after split exempted quiet =>
          refine .outdated before other (after ++ [event]) ?_ exempted (grown.trans quiet)
          rw [split, List.append_assoc]
          rfl
      · exact .outdated events event [] rfl exempted grown

end Mirror
