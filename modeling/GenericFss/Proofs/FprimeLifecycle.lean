import GenericFss.Library.Machine
import GenericFss.Proofs.DeviceLifecycle
import GenericFss.Proofs.FprimeStep
import GenericFss.Script

/-! The device over a whole life of the F' component. The commands keep the flag and
the device together; construction and destruction do not look at what they find. -/

namespace GenericFss.Proofs.FprimeLifecycle
open GenericFss Device Fprime FprimeStep DeviceLifecycle

variable {σ : Type} (plat : Platform σ)

def FlagTells (component : Component σ) : Prop :=
  component.hkTelemetryPkt.deviceEnabled = deviceEnabled ↔ isOpen component.fssSpi.calls = true

section Life
variable (uninitialized : DeviceData) (device : SpiInfo) (world : σ) (invocations : List Invocation) (destroyed : Bool)

def live : Component σ := Machine.run (dispatch plat) (construct plat uninitialized device world) invocations

def final : Component σ :=
  if destroyed then destroy plat (live plat uninitialized device world invocations)
  else live plat uninitialized device world invocations

/-- From its construction on the flag tells the state of the device, and up to and
including its destruction the device was opened and closed in turn. -/
def Respected : Prop :=
  FlagTells (construct plat uninitialized device world) ∧
    Machine.Always (dispatch plat) (fun _ _ after => FlagTells after) (construct plat uninitialized device world)
      invocations ∧
    LegalOwnership (final plat uninitialized device world invocations destroyed).fssSpi.calls

end Life

abbrev TracksDevice (component : Component σ) : Prop :=
  Tracked Call.ownership component.hkTelemetryPkt component.fssSpi.calls

theorem TracksDevice.flagTells {component : Component σ} (tracked : TracksDevice component) : FlagTells component := by
  rw [FlagTells, ← held_ownership]
  exact tracked.enabled_iff

section Steps
variable {plat} {component component' : Component σ} {invocation : Invocation}

private theorem request_ownership {calls : List Call} {status : Status} {response}
    (request : Requests.Request calls status response) : ∀ call ∈ calls, call.ownership = .other := by
  intro call member
  have action := request.uses call member
  cases call <;> first | rfl | simp [Call.action] at action

theorem Step.tracked (step : Step plat component invocation component') (tracked : TracksDevice component) :
    TracksDevice component' := by
  obtain ⟨calls, response, log, request, _⟩ := Requests.requestData_request plat component.fssData component.fssSpi
  have passes := request_ownership request
  cases step with
  | polled | pollFailed =>
    simp only [TracksDevice, log]
    exact tracked.passing passes rfl
  | dataRead _ _ _ same | dataFailed _ _ _ same =>
    simp only [TracksDevice, log]
    exact tracked.passing passes (by rw [same]; rfl)
  | reported | housekeepingRefused => exact tracked
  | noop _ same | resetCounters _ same => exact tracked.frame (by rw [same]; rfl)
  | enableRefused _ _ same | disableRefused _ _ same | housekeeping _ _ same | dataRefused _ _ same =>
    exact tracked.frame (by rw [same]; rfl)
  | enabled _ closed succeeded same => exact tracked.opening closed rfl (by rw [same]; exact (if_pos succeeded).symm)
  | enableFailed _ closed failed same =>
    exact tracked.opening closed rfl (by rw [same]; exact closed.trans (if_neg failed).symm)
  | disabled _ opened succeeded same => exact tracked.closing opened rfl (by rw [same]; exact (if_pos succeeded).symm)
  | disableFailed _ opened failed same =>
    exact tracked.closing opened rfl (by rw [same]; exact opened.trans (if_neg failed).symm)

end Steps

theorem dispatch_tracked (component : Component σ) (invocation : Invocation) (tracked : TracksDevice component) :
    TracksDevice (dispatch plat component invocation) :=
  Step.tracked (dispatch_step plat component invocation) tracked

section Life
variable (uninitialized : DeviceData) (device : SpiInfo) (world : σ) (invocations : List Invocation) (destroyed : Bool)

/-- The flag is set and the device initialized, in this order and independently. -/
theorem construct_state :
    (construct plat uninitialized device world).hkTelemetryPkt.deviceEnabled = deviceEnabled ∧
      (construct plat uninitialized device world).fssSpi.calls =
        [.initDev device.configure (spiInitDev plat ⟨world, device.configure, []⟩).1] := by
  simp only [construct]
  split <;> exact ⟨rfl, rfl⟩

theorem construct_flagTells_iff :
    FlagTells (construct plat uninitialized device world) ↔
      (spiInitDev plat ⟨world, device.configure, []⟩).1 = osSuccess := by
  obtain ⟨flag, log⟩ := construct_state plat uninitialized device world
  simp [FlagTells, flag, log, isOpen, Lifecycle.held, Call.action, Lifecycle.Action.apply]

theorem construct_tracked (opened : (spiInitDev plat ⟨world, device.configure, []⟩).1 = osSuccess) :
    TracksDevice (construct plat uninitialized device world) := by
  obtain ⟨flag, log⟩ := construct_state plat uninitialized device world
  refine ⟨Or.inl flag, ?_⟩
  rw [log, opened, flag]
  exact Lifecycle.Guarded.initial.acquire true

/-- The destructor closes the device whatever the flag says. -/
theorem destroy_legal_iff {component : Component σ} (tracked : TracksDevice component) :
    LegalOwnership (destroy plat component).fssSpi.calls ↔ component.hkTelemetryPkt.deviceEnabled = deviceEnabled := by
  have log : (destroy plat component).fssSpi.calls =
      component.fssSpi.calls ++ [.closeDevice component.fssSpi.device (spiCloseDevice plat component.fssSpi).1] := rfl
  rw [LegalOwnership, log, List.map_append, List.map_singleton, Lifecycle.legal_concat, tracked.enabled_iff]
  exact and_iff_right tracked.guarded.legal

/-- A life respects the device exactly if the constructor managed to open it and the
destructor, if it runs, finds the component enabled. -/
theorem respected_iff :
    Respected plat uninitialized device world invocations destroyed ↔
      (spiInitDev plat ⟨world, device.configure, []⟩).1 = osSuccess ∧
        (destroyed = true →
          (live plat uninitialized device world invocations).hkTelemetryPkt.deviceEnabled = deviceEnabled) := by
  rw [Respected, construct_flagTells_iff]
  apply and_congr_right
  intro opened
  have start := construct_tracked plat uninitialized device world opened
  have told : Machine.Always (dispatch plat) (fun _ _ after => FlagTells after)
      (construct plat uninitialized device world) invocations := by
    apply Machine.Always.intro (dispatch_tracked plat) _ start
    intro component invocation tracked
    exact (dispatch_tracked plat component invocation tracked).flagTells
  have tracked : TracksDevice (live plat uninitialized device world invocations) :=
    Machine.run_preserves (dispatch_tracked plat) start invocations
  rw [and_iff_right told]
  cases destroyed with
  | false => simpa [final, LegalOwnership] using tracked.guarded.legal
  | true => simpa [final] using destroy_legal_iff plat tracked

end Life

/-- `spi_init_dev` fails in the constructor: the component is enabled, the device is not open. -/
theorem respected_fails : ¬ Respected scripted ⟨0, 0, 0⟩ .zero [.error] [] false := by
  intro respected
  have opened := (construct_flagTells_iff ..).mp respected.1
  exact absurd opened (by decide)

end GenericFss.Proofs.FprimeLifecycle
