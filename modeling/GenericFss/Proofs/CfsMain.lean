import GenericFss.Library.Machine
import GenericFss.Proofs.CfsLifecycle

/-! The main loop of the cFS application. An invariant of the messages that does not
depend on the run status or the events is an invariant of the whole program. -/

namespace GenericFss.Proofs.CfsMain
open GenericFss Device Cfs CfsStep

variable {σ : Type} (plat : Platform σ)

/-- Before the first message nothing has been counted, requested or sent. -/
theorem startMain_idle (cfe : InitStatus) (world : σ) :
    (startMain cfe (.zero world)).app.hkTelemetryPkt = .zero ∧ (startMain cfe (.zero world)).app.devicePkt = ⟨0, 0, 0⟩ ∧
      (startMain cfe (.zero world)).app.spi = ⟨world, .zero, []⟩ ∧ (startMain cfe (.zero world)).app.published = [] := by
  have initialized : (appInit cfe (.zero world)).2.devicePkt = ⟨0, 0, 0⟩ ∧ (appInit cfe (.zero world)).2.published = [] := by
    simp only [appInit]
    (repeat' split) <;> exact ⟨rfl, rfl⟩
  obtain ⟨record, idle⟩ := CfsLifecycle.appInit_idle cfe world
  simp only [startMain]
  split <;> exact ⟨record, initialized.1, idle, initialized.2⟩

section Invariants
variable {invariant : AppData σ → Prop}
  (quiet : ∀ app runStatus events, invariant { app with runStatus, events } ↔ invariant app)
  (kept : ∀ app asked app', Step plat app asked app' → invariant app → invariant app')
include quiet kept

theorem disable_preserves {app : AppData σ} (holds : invariant app) : invariant (disable plat app) := by
  have after := kept app .disable _ (@disable_step σ plat app cmdDisableInfEid "") holds
  exact (quiet (disable plat app) _ _).mp after

theorem turn_preserves (main : Main σ) (input : Turn) (holds : invariant main.app) :
    invariant (turn plat main input).app := by
  have held : invariant { main.app with runStatus := (input.runLoop main.app.runStatus).2 } := (quiet _ _ _).mpr holds
  simp only [turn]
  split
  next exited => exact holds
  next running =>
    split
    next keepRunning =>
      split
      next received => exact kept _ _ _ (processCommandPacket_step plat _ input.message) held
      next receiveError => exact (quiet main.app _ _).mpr holds
    next stopped => exact disable_preserves plat quiet kept held

theorem appMain_preserves {cfe : InitStatus} {world : σ} (initial : invariant (startMain cfe (.zero world)).app)
    (turns : List Turn) : invariant (appMain plat cfe world turns).app := by
  have main := @Machine.run_preserves _ _ (turn plat) (fun main => invariant main.app) (turn_preserves plat quiet kept) _ initial
    turns
  exact main

end Invariants

end GenericFss.Proofs.CfsMain
