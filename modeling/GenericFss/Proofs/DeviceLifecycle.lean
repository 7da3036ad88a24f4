import GenericFss.Proofs.Requests
import GenericFss.Housekeeping

/-! The enable flag against the SPI device it stands for. Both applications keep
the flag next to a log of calls; the rules here say which updates of the two keep
them together, whoever makes the calls. -/

namespace GenericFss.Proofs.DeviceLifecycle
open GenericFss Device Requests

/-- Open from a successful `spi_init_dev` until a successful `spi_close_device`. -/
def isOpen (calls : List Call) : Bool := Lifecycle.held (calls.map Call.action)

/-- Every `spi_init_dev` found the device closed, and every other call found it open. -/
def LegalCalls (calls : List Call) : Prop := Lifecycle.Legal (calls.map Call.action)

/-- `spi_init_dev` found the device closed and `spi_close_device` found it open; the other calls are free. -/
def LegalOwnership (calls : List Call) : Prop := Lifecycle.Legal (calls.map Call.ownership)

theorem held_ownership (calls : List Call) : Lifecycle.held (calls.map Call.ownership) = isOpen calls :=
  Lifecycle.held_map_congr (fun _ call => by cases call <;> rfl) calls

/-- The flag holds one of its two values and has always told the truth; the calls,
read by `view`, have followed the protocol. -/
structure Tracked (view : Call → Lifecycle.Action) (hk : HkTlm) (calls : List Call) : Prop where
  flag : hk.deviceEnabled = deviceEnabled ∨ hk.deviceEnabled = deviceDisabled
  guarded : Lifecycle.Guarded (hk.deviceEnabled = deviceEnabled) (calls.map view)

namespace Tracked
variable {view : Call → Lifecycle.Action} {hk hk' : HkTlm} {calls : List Call}

theorem initial (closed : hk.deviceEnabled = deviceDisabled) : Tracked view hk [] where
  flag := Or.inr closed
  guarded := by
    rw [closed]
    exact .initial

theorem enabled_iff (tracked : Tracked view hk calls) :
    hk.deviceEnabled = deviceEnabled ↔ Lifecycle.held (calls.map view) = true := by
  rw [tracked.guarded.flag_iff, decide_eq_true_eq]

theorem frame (tracked : Tracked view hk calls) (same : hk'.deviceEnabled = hk.deviceEnabled) : Tracked view hk' calls where
  flag := same ▸ tracked.flag
  guarded := same ▸ tracked.guarded

theorem guarded_of_disabled (tracked : Tracked view hk calls) (closed : hk.deviceEnabled = deviceDisabled) :
    Lifecycle.Guarded false (calls.map view) := by
  have free := tracked.guarded
  rwa [closed] at free

theorem guarded_of_enabled (tracked : Tracked view hk calls) (opened : hk.deviceEnabled = deviceEnabled) :
    Lifecycle.Guarded true (calls.map view) := by
  have busy := tracked.guarded
  rwa [opened] at busy

theorem opening (tracked : Tracked view hk calls) {call : Call} {status : Status}
    (closed : hk.deviceEnabled = deviceDisabled) (opens : view call = .acquire (status = osSuccess))
    (result : hk'.deviceEnabled = if status = osSuccess then deviceEnabled else deviceDisabled) :
    Tracked view hk' (calls ++ [call]) := by
  have after := (tracked.guarded_of_disabled closed).acquire (decide (status = osSuccess))
  by_cases succeeded : status = osSuccess
  · rw [if_pos succeeded] at result
    exact ⟨Or.inl result, by simpa [result, succeeded, opens] using after⟩
  · rw [if_neg succeeded] at result
    exact ⟨Or.inr result, by simpa [result, succeeded, opens, deviceEnabled_ne.symm] using after⟩

theorem closing (tracked : Tracked view hk calls) {call : Call} {status : Status}
    (opened : hk.deviceEnabled = deviceEnabled) (closes : view call = .release (status = osSuccess))
    (result : hk'.deviceEnabled = if status = osSuccess then deviceDisabled else deviceEnabled) :
    Tracked view hk' (calls ++ [call]) := by
  have after := (tracked.guarded_of_enabled opened).release (decide (status = osSuccess))
  by_cases succeeded : status = osSuccess
  · rw [if_pos succeeded] at result
    exact ⟨Or.inr result, by simpa [result, succeeded, closes, deviceEnabled_ne.symm] using after⟩
  · rw [if_neg succeeded] at result
    exact ⟨Or.inl result, by simpa [result, succeeded, closes] using after⟩

theorem working (tracked : Tracked view hk calls) {more : List Call} (opened : hk.deviceEnabled = deviceEnabled)
    (only : ∀ call ∈ more, view call = .use ∨ view call = .other) (same : hk'.deviceEnabled = hk.deviceEnabled) :
    Tracked view hk' (calls ++ more) := by
  have uses : ∀ action ∈ more.map view, action = .use ∨ action = .other := by
    intro action member
    obtain ⟨call, inside, rfl⟩ := List.mem_map.mp member
    exact only call inside
  refine ⟨Or.inl (same.trans opened), ?_⟩
  simpa [same, opened] using (tracked.guarded_of_enabled opened).uses uses

theorem passing (tracked : Tracked view hk calls) {more : List Call} (only : ∀ call ∈ more, view call = .other)
    (same : hk'.deviceEnabled = hk.deviceEnabled) : Tracked view hk' (calls ++ more) := by
  refine ⟨same ▸ tracked.flag, ?_⟩
  have others : ∀ action ∈ more.map view, action = .other := by
    intro action member
    obtain ⟨call, inside, rfl⟩ := List.mem_map.mp member
    exact only call inside
  rw [List.map_append, same]
  exact tracked.guarded.others others

end Tracked

end GenericFss.Proofs.DeviceLifecycle
