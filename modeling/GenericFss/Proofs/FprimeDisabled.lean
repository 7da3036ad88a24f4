import GenericFss.Library.Machine
import GenericFss.Proofs.FprimeStep
import GenericFss.Script

/-! What a disabled F' component still does. Every handler but one keeps away from
the device; the periodic poll does not look at the flag. -/

namespace GenericFss.Proofs.FprimeDisabled
open GenericFss Device Fprime FprimeStep

variable {σ : Type} (plat : Platform σ)

def movesCounters : Invocation → Bool
  | .command .enable _ _ | .command .resetCounters _ _ => true
  | _ => false

/-- Found disabled, the component makes no call on the bus, keeps its sun data to
itself and leaves its device counters alone. -/
def SilentWhileDisabled (before : Component σ) (invocation : Invocation) (after : Component σ) : Prop :=
  before.hkTelemetryPkt.deviceEnabled = deviceDisabled →
    (∀ call ∈ after.fssSpi.calls.drop before.fssSpi.calls.length, call.busOutcome = none) ∧
      after.fssData = before.fssData ∧
      fssOutputs after = fssOutputs before ∧
      (movesCounters invocation = false →
        after.hkTelemetryPkt.deviceCount = before.hkTelemetryPkt.deviceCount ∧
          after.hkTelemetryPkt.deviceErrorCount = before.hkTelemetryPkt.deviceErrorCount)

def PolledWhileNotDisabled (before : Component σ) (invocation : Invocation) (_ : Component σ) : Prop :=
  invocation = .updateData → before.hkTelemetryPkt.deviceEnabled ≠ deviceDisabled

section Steps
variable {plat} {component component' : Component σ} {invocation : Invocation}

theorem poll_calls (step : Step plat component .updateData component') :
    ∃ call ∈ component'.fssSpi.calls.drop component.fssSpi.calls.length, call.busOutcome ≠ none := by
  obtain ⟨calls, response, log, request, _⟩ := Requests.requestData_request plat component.fssData component.fssSpi
  obtain ⟨call, member, onBus⟩ := request.selects
  cases step with
  | polled | pollFailed => exact ⟨call, by simpa [log] using member, onBus⟩

theorem Step.silentWhileDisabled (step : Step plat component invocation component') (notPoll : invocation ≠ .updateData) :
    SilentWhileDisabled component invocation component' := by
  intro disabled
  have silent := step.silent plat notPoll
  have unequal := deviceEnabled_ne.symm
  cases step with
  | polled | pollFailed => exact absurd rfl notPoll
  | reported | housekeepingRefused => exact ⟨by simp, rfl, silent, fun _ => ⟨rfl, rfl⟩⟩
  | noop _ same | enableRefused _ _ same | disableRefused _ _ same | dataRefused _ _ same =>
    subst same
    exact ⟨by simp, rfl, silent, fun _ => ⟨rfl, rfl⟩⟩
  | resetCounters => exact ⟨by simp, rfl, silent, nofun⟩
  | enabled | enableFailed => exact ⟨by simp [spiInitDev, Call.busOutcome], rfl, silent, nofun⟩
  | disabled _ enabled | disableFailed _ enabled | housekeeping _ enabled | dataRead _ enabled | dataFailed _ enabled =>
    exact absurd (disabled.symm.trans enabled) unequal

theorem Step.silent_iff (step : Step plat component invocation component') :
    SilentWhileDisabled component invocation component' ↔ PolledWhileNotDisabled component invocation component' := by
  constructor
  · rintro law rfl disabled
    obtain ⟨call, member, onBus⟩ := poll_calls step
    exact onBus ((law disabled).1 call member)
  · intro guarded
    by_cases poll : invocation = .updateData
    · intro disabled
      exact absurd disabled (guarded poll)
    · exact Step.silentWhileDisabled step poll

end Steps

/-- A run keeps silent while disabled exactly if no poll arrives while disabled. -/
theorem silentWhileDisabled_iff (component : Component σ) (invocations : List Invocation) :
    Machine.Always (dispatch plat) SilentWhileDisabled component invocations ↔
      Machine.Always (dispatch plat) PolledWhileNotDisabled component invocations :=
  Machine.always_congr' (fun component invocation => Step.silent_iff (dispatch_step plat component invocation))
    component invocations

instance (before : Component σ) (invocation : Invocation) (after : Component σ) :
    Decidable (SilentWhileDisabled before invocation after) :=
  inferInstanceAs (Decidable (_ → _ ∧ _ ∧ _ ∧ (_ → _ ∧ _)))

/-- Construction, DISABLE, poll: the poll talks to the device all the same. -/
theorem silentWhileDisabled_fails :
    ¬ Machine.Always (dispatch scripted) SilentWhileDisabled (construct scripted ⟨0, 0, 0⟩ .zero [])
      [.command .disable 0 0, .updateData] := by
  decide

end GenericFss.Proofs.FprimeDisabled
