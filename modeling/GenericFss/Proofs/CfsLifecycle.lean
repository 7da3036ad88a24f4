import GenericFss.Library.Machine
import GenericFss.Proofs.CfsStep
import GenericFss.Proofs.DeviceLifecycle

/-! The device over a whole life of the cFS application, from its first
initialization call to its exit. The run loop of the executive is not trusted:
the results hold whatever `CFE_ES_RunLoop` answers. -/

namespace GenericFss.Proofs.CfsLifecycle
open GenericFss Device Cfs CfsStep DeviceLifecycle

variable {σ : Type} (plat : Platform σ)

abbrev TracksDevice (app : AppData σ) : Prop := Tracked Call.action app.hkTelemetryPkt app.spi.calls

theorem Step.tracked {app app' : AppData σ} {asked : Directive} (step : Step plat app asked app')
    (tracked : TracksDevice app) : TracksDevice app' := by
  cases step with
  | noop | resetCounters | enableRefused | disableRefused | rejected => exact tracked.frame rfl
  | enabled _ closed succeeded => exact tracked.opening closed rfl (if_pos succeeded).symm
  | enableFailed _ closed failed => exact tracked.opening closed rfl (closed.trans (if_neg failed).symm)
  | disabled _ opened succeeded => exact tracked.closing opened rfl (if_pos succeeded).symm
  | disableFailed _ opened failed => exact tracked.closing opened rfl (opened.trans (if_neg failed).symm)
  | housekeeping | dataIgnored => exact tracked
  | dataSent opened | dataFailed _ opened =>
    obtain ⟨calls, response, log, request, _⟩ := Requests.requestData_request plat app.devicePkt app.spi
    simp only [TracksDevice, log]
    exact tracked.working opened request.uses rfl

/-- Initialization touches neither the record nor the device, whichever step of it fails. -/
theorem appInit_idle (cfe : InitStatus) (world : σ) :
    (appInit cfe (.zero world)).2.hkTelemetryPkt = .zero ∧ (appInit cfe (.zero world)).2.spi = ⟨world, .zero, []⟩ := by
  simp only [appInit]
  split
  · exact ⟨rfl, rfl⟩
  · split
    · exact ⟨rfl, rfl⟩
    · split
      · exact ⟨rfl, rfl⟩
      · split
        · exact ⟨rfl, rfl⟩
        · split <;> exact ⟨rfl, rfl⟩

theorem appInit_tracked (cfe : InitStatus) (world : σ) : TracksDevice (appInit cfe (.zero world)).2 := by
  obtain ⟨record, idle⟩ := appInit_idle cfe world
  rw [TracksDevice, record, idle]
  exact .initial rfl

theorem startMain_tracked (cfe : InitStatus) (world : σ) : TracksDevice (startMain cfe (.zero world)).app := by
  simp only [startMain]
  split <;> exact appInit_tracked cfe world

theorem disable_tracked (app : AppData σ) (tracked : TracksDevice app) : TracksDevice (disable plat app) :=
  -- The event that follows the DISABLE command does not concern the device.
  have after : TracksDevice ((disable plat app).sendEvent cmdDisableInfEid .information "") :=
    Step.tracked plat (disable_step plat app) tracked
  after

theorem turn_tracked (main : Main σ) (input : Turn) (tracked : TracksDevice main.app) :
    TracksDevice (turn plat main input).app := by
  simp only [turn]
  split
  next exited => exact tracked
  next running =>
    split
    next keepRunning =>
      split
      next received => exact Step.tracked plat (processCommandPacket_step plat _ _) tracked
      next receiveError => exact tracked
    next stopped => exact disable_tracked plat _ tracked

/-- What one turn of the loop must do if it ends the application: leave the device
closed, unless the close it attempted failed. -/
def ClosesOnExit (before after : Main σ) : Prop :=
  before.exited = false → after.exited = true →
    isOpen after.app.spi.calls = false ∨
      ∃ device status, status ≠ osSuccess ∧ after.app.spi.calls = before.app.spi.calls ++ [.closeDevice device status]

theorem disable_closes (app : AppData σ) (tracked : TracksDevice app) :
    isOpen (disable plat app).spi.calls = false ∨
      ∃ device status, status ≠ osSuccess ∧ (disable plat app).spi.calls = app.spi.calls ++ [.closeDevice device status] := by
  have after := disable_tracked plat app tracked
  by_cases closed : (disable plat app).hkTelemetryPkt.deviceEnabled = deviceEnabled
  · refine Or.inr ⟨app.spi.device, (closing plat app).1, ?_⟩
    simp only [disable] at closed ⊢
    split at closed
    next opened =>
      split at closed
      next succeeded => exact absurd closed.symm deviceEnabled_ne
      next failed => exact ⟨failed, by rw [if_pos opened, if_neg failed]; rfl⟩
    next refused => exact absurd closed refused
  · exact Or.inl (Bool.eq_false_iff.mpr (mt after.enabled_iff.mpr closed))

theorem turn_closesOnExit (main : Main σ) (input : Turn) (tracked : TracksDevice main.app) :
    ClosesOnExit main (turn plat main input) := by
  intro running exited
  simp only [turn, running, Bool.false_eq_true, if_false] at exited ⊢
  split at exited
  next keepRunning => split at exited <;> exact absurd exited Bool.false_ne_true
  next stopped =>
    rw [if_neg stopped]
    exact disable_closes plat _ tracked

theorem appMain_tracked (cfe : InitStatus) (world : σ) (turns : List Turn) :
    TracksDevice (appMain plat cfe world turns).app :=
  Machine.run_preserves (fun main input => turn_tracked plat main input) (startMain_tracked cfe world) turns

/-- The device lifecycle: at every point of every run the flag is one of its two
values and agrees with the device, every call so far was legal, and a turn that
exits leaves the device closed unless its close failed. -/
theorem appMain_lifecycle (cfe : InitStatus) (world : σ) (turns : List Turn) :
    let app := (appMain plat cfe world turns).app
    (app.hkTelemetryPkt.deviceEnabled = deviceEnabled ∨ app.hkTelemetryPkt.deviceEnabled = deviceDisabled) ∧
      (app.hkTelemetryPkt.deviceEnabled = deviceEnabled ↔ isOpen app.spi.calls = true) ∧
      LegalCalls app.spi.calls ∧
      ∀ earlier last later, turns = earlier ++ last :: later →
        ClosesOnExit (appMain plat cfe world earlier) (appMain plat cfe world (earlier ++ [last])) := by
  have tracked := appMain_tracked plat cfe world turns
  have closes : Machine.Always (turn plat) (fun before _ after => ClosesOnExit before after)
      (startMain cfe (.zero world)) turns := by
    apply Machine.Always.intro (turn_tracked plat) _ (startMain_tracked cfe world)
    intro main input tracked
    exact turn_closesOnExit plat main input tracked
  refine ⟨tracked.flag, tracked.enabled_iff, tracked.guarded.legal, ?_⟩
  intro earlier last later same
  exact Machine.always_iff.mp closes earlier last later same

end GenericFss.Proofs.CfsLifecycle
