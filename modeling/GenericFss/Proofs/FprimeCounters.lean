import GenericFss.Library.Machine
import GenericFss.Library.Tally
import GenericFss.Proofs.FprimeStep
import GenericFss.Script

/-! The command counters of the F' component. Five commands count themselves, as an
error if the device's state refuses them; a housekeeping request that is refused
leaves no trace in either counter. -/

namespace GenericFss.Proofs.FprimeCounters
open GenericFss Device Fprime FprimeStep

variable {σ : Type} (plat : Platform σ)

/-- ENABLE is refused while enabled, the others that depend on the device while disabled. -/
def refuses (hk : HkTlm) : Command → Bool
  | .noop | .resetCounters => false
  | .enable => hk.deviceEnabled = deviceEnabled
  | .disable | .requestHousekeeping | .requestData => hk.deviceEnabled = deviceDisabled

/-- A command other than a reset moves one of the two counters by one, and the ports move neither. -/
def Accounted (before : Component σ) (invocation : Invocation) (after : Component σ) : Prop :=
  let hk := before.hkTelemetryPkt
  let hk' := after.hkTelemetryPkt
  match invocation with
  | .command .resetCounters _ _ => hk'.commandCount = 0 ∧ hk'.commandErrorCount = 0
  | .command command _ _ =>
    if refuses hk command then
      hk'.commandErrorCount = hk.commandErrorCount + 1 ∧ hk'.commandCount = hk.commandCount
    else hk'.commandCount = hk.commandCount + 1 ∧ hk'.commandErrorCount = hk.commandErrorCount
  | .updateData | .updateTlm => hk'.commandCount = hk.commandCount ∧ hk'.commandErrorCount = hk.commandErrorCount

def HousekeepingWhileEnabled (before : Component σ) (invocation : Invocation) (_ : Component σ) : Prop :=
  ∀ opCode cmdSeq, invocation = .command .requestHousekeeping opCode cmdSeq →
    before.hkTelemetryPkt.deviceEnabled ≠ deviceDisabled

def FlagValid (component : Component σ) : Prop :=
  component.hkTelemetryPkt.deviceEnabled = deviceEnabled ∨ component.hkTelemetryPkt.deviceEnabled = deviceDisabled

section Steps
variable {plat} {component component' : Component σ} {invocation : Invocation}

theorem Step.flagValid (step : Step plat component invocation component') (valid : FlagValid component) :
    FlagValid component' := by
  cases step with
  | polled | pollFailed | reported | housekeepingRefused => exact valid
  | noop _ same | resetCounters _ same => exact same ▸ valid
  | enableRefused _ _ same | disableRefused _ _ same | housekeeping _ _ same | dataRefused _ _ same => exact same ▸ valid
  | enableFailed _ _ _ same | disableFailed _ _ _ same | dataRead _ _ _ same | dataFailed _ _ _ same => exact same ▸ valid
  | enabled _ _ _ same => exact Or.inl (by rw [same]; rfl)
  | disabled _ _ _ same => exact Or.inr (by rw [same]; rfl)

theorem Step.counted_iff (step : Step plat component invocation component') (valid : FlagValid component) :
    Accounted component invocation component' ↔ HousekeepingWhileEnabled component invocation component' := by
  have unequal := deviceEnabled_ne
  cases step with
  | housekeepingRefused _ notEnabled =>
    have disabled := valid.resolve_left notEnabled
    apply iff_of_false
    · simp [Accounted, refuses, disabled]
    · intro enabled
      exact enabled _ _ rfl disabled
  | polled | pollFailed | reported => exact iff_of_true ⟨rfl, rfl⟩ nofun
  | noop _ same | resetCounters _ same =>
    subst same
    exact iff_of_true ⟨rfl, rfl⟩ nofun
  | enabled _ flag _ same | enableFailed _ flag _ same | disabled _ flag _ same | disableFailed _ flag _ same
  | dataRead _ flag _ same | dataFailed _ flag _ same =>
    subst same
    exact iff_of_true (by simp [Accounted, refuses, flag, unequal, unequal.symm]) nofun
  | enableRefused _ flag same =>
    subst same
    have enabled := valid.resolve_right flag
    exact iff_of_true (by simp [Accounted, refuses, enabled]) nofun
  | disableRefused _ flag same | dataRefused _ flag same =>
    subst same
    have disabled := valid.resolve_left flag
    exact iff_of_true (by simp [Accounted, refuses, disabled]) nofun
  | housekeeping _ flag same =>
    subst same
    apply iff_of_true
    · simp [Accounted, refuses, flag, unequal]
    · intro _ _ _
      rw [flag]
      exact unequal

end Steps

section Totals

def resets : Invocation → Bool
  | .command .resetCounters _ _ => true
  | _ => false

def isCommand : Invocation → Bool
  | .command .. => true
  | .updateData | .updateTlm => false

/-- The two counters together show the commands handled since the last reset. -/
def CountsCommands (component : Component σ) (handled : List Invocation) : Prop :=
  Tally.Shows (component.hkTelemetryPkt.commandCount + component.hkTelemetryPkt.commandErrorCount)
    ((Tally.sinceLast resets handled).countP isCommand)

theorem Accounted.total {before after : Component σ} {invocation : Invocation} {handled : List Invocation}
    (accounted : Accounted before invocation after) (counts : CountsCommands before handled) :
    CountsCommands after (handled ++ [invocation]) := by
  have counted (moved : after.hkTelemetryPkt.commandCount + after.hkTelemetryPkt.commandErrorCount =
        if isCommand invocation then
          before.hkTelemetryPkt.commandCount + before.hkTelemetryPkt.commandErrorCount + 1
        else before.hkTelemetryPkt.commandCount + before.hkTelemetryPkt.commandErrorCount)
      (kept : resets invocation = false) : CountsCommands after (handled ++ [invocation]) := by
    rw [CountsCommands, Tally.sinceLast_kept kept]
    exact Tally.Shows.record counts invocation moved
  cases invocation with
  | updateData | updateTlm => exact counted (by rw [accounted.1, accounted.2]; rfl) rfl
  | command command opCode cmdSeq =>
    cases command with
    | resetCounters =>
      rw [CountsCommands, Tally.sinceLast_cleared rfl, accounted.1, accounted.2]
      exact .zero
    | noop | enable | disable | requestHousekeeping | requestData =>
      refine counted ?_ rfl
      simp only [Accounted] at accounted
      split at accounted
      next refused => rw [accounted.1, accounted.2, ← UInt8.add_assoc]; rfl
      next carriedOut => rw [accounted.1, accounted.2, UInt8.add_assoc, UInt8.add_comm 1, ← UInt8.add_assoc]; rfl

theorem always_total {start : Component σ} {past : List Invocation} (counts : CountsCommands start past)
    {invocations : List Invocation} (accounted : Machine.Always (dispatch plat) Accounted start invocations) :
    CountsCommands (Machine.run (dispatch plat) start invocations) (past ++ invocations) := by
  induction invocations generalizing start past with
  | nil => simpa using counts
  | cons invocation rest ih =>
    have later := ih (accounted.1.total counts) accounted.2
    rwa [List.append_assoc] at later

end Totals

theorem construct_counters (uninitialized : DeviceData) (device : SpiInfo) (world : σ) :
    (construct plat uninitialized device world).hkTelemetryPkt = ⟨0, 0, 0, 0, deviceEnabled⟩ := by
  simp only [construct]
  split <;> rfl

/-- After construction every command is counted once and the totals add up, exactly if no
housekeeping request finds the component disabled. -/
theorem accounted_iff (uninitialized : DeviceData) (device : SpiInfo) (world : σ) (invocations : List Invocation) :
    let start := construct plat uninitialized device world
    (Machine.Always (dispatch plat) Accounted start invocations ∧
        ∀ handled rest, invocations = handled ++ rest → CountsCommands (Machine.run (dispatch plat) start handled) handled) ↔
      Machine.Always (dispatch plat) HousekeepingWhileEnabled start invocations := by
  intro start
  have counters := construct_counters plat uninitialized device world
  have valid : FlagValid start := Or.inl (by rw [counters])
  have nothing : CountsCommands start [] := by
    rw [CountsCommands, counters]
    exact .zero
  have laws : Machine.Always (dispatch plat) Accounted start invocations ↔
      Machine.Always (dispatch plat) HousekeepingWhileEnabled start invocations :=
    Machine.always_congr
      (fun component invocation valid => Step.flagValid (dispatch_step plat component invocation) valid)
      (fun component invocation valid => Step.counted_iff (dispatch_step plat component invocation) valid)
      valid invocations
  rw [← laws]
  apply and_iff_left_of_imp
  rintro accounted handled rest rfl
  exact always_total plat nothing (Machine.always_append.mp accounted).1

/-- Disabled, the component handles a housekeeping request and counts it nowhere. -/
theorem accounted_fails :
    let start := construct scripted ⟨0, 0, 0⟩ .zero []
    let asked : List Invocation := [.command .disable 0 0, .command .requestHousekeeping 0 1]
    ¬ Machine.Always (dispatch scripted) Accounted start asked ∧
      ¬ CountsCommands (Machine.run (dispatch scripted) start asked) asked := by
  constructor
  · intro ⟨_, accounted, _⟩
    exact absurd accounted.1 (by decide)
  · exact show ¬ (_ = _) by decide

end GenericFss.Proofs.FprimeCounters
