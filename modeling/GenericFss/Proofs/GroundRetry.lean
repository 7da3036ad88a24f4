import GenericFss.Procedures
import GenericFss.Script
import GenericFss.Proofs.CfsCounters

/-! The retry loop of the ground library against the application. A session that
has not been heard leaves the housekeeping packet alone; the first delivered
uplink is counted, and the loop stops there. Only the final check can be wrong:
it compares a wrapped count with `>=`. -/

namespace GenericFss.Proofs.GroundRetry
open GenericFss Device Cfs Ground CfsStep CfsCounters

section Sessions
variable {σ : Type} (plat : Platform σ)

/-- The application would accept and count this command in this state. -/
def Accepts (app : AppData σ) (command : Message) : Prop :=
  (observe app (directive plat command) (processCommandPacket plat app command)).accepted = true

instance (app : AppData σ) (command : Message) : Decidable (Accepts plat app command) :=
  inferInstanceAs (Decidable (_ = _))

/-- How often the application accepted one of the messages that reached it. -/
def acceptances (app : AppData σ) (session : Session σ) : Nat :=
  (history plat app session.delivered).countP Observation.accepted

structure Sound (app : AppData σ) (command : Message) (lost : Fin 3 → Bool) : Prop where
  atMostOnce : acceptances plat app (fssCmd plat command lost (.start app)).2 ≤ 1
  checked : (fssCmd plat command lost (.start app)).1 = true ↔
    acceptances plat app (fssCmd plat command lost (.start app)).2 = 1
  advanced : acceptances plat app (fssCmd plat command lost (.start app)).2 = 1 ↔
    (fssCmd plat command lost (.start app)).2.app.hkTelemetryPkt.commandCount = app.hkTelemetryPkt.commandCount + 1

/-- Where a session that began at `app` stands after the application accepted the
command `tally` times. Nothing else moves the packet, the flag included. -/
structure Progress (app : AppData σ) (tally : Nat) (session : Session σ) : Prop where
  reached : session.app = Machine.run (processCommandPacket plat) app session.delivered
  accepted : acceptances plat app session = tally
  counted : session.app.hkTelemetryPkt.commandCount = app.hkTelemetryPkt.commandCount + UInt8.ofNat tally
  untouched : tally = 0 → session.app.hkTelemetryPkt = app.hkTelemetryPkt

def Current (session : Session σ) : Prop := session.hkTlm = session.app.hkTelemetryPkt

abbrev attempt (command : Message) (lost : Bool) (session : Session σ) : Session σ :=
  getFssHk plat (cmd plat lost command session)

/-- The loop without its bound of three uplinks. -/
def retry (command : Message) (count : Nat) : List Bool → Session σ → Session σ
  | [], session => session
  | lost :: rest, session =>
    if session.cmdCount ≠ count then retry command count rest (attempt plat command lost session) else session

/-- The count that `fssCmd` waits for. -/
def expected (app : AppData σ) : Nat :=
  if app.hkTelemetryPkt.commandCount.toNat + 1 = 256 then 0 else app.hkTelemetryPkt.commandCount.toNat + 1

variable {plat} {app : AppData σ} {session : Session σ} {command : Message} {tally : Nat}

theorem expected_eq : expected app = (app.hkTelemetryPkt.commandCount + 1).toNat := by
  have sum := UInt8.toNat_add app.hkTelemetryPkt.commandCount 1
  have bound := app.hkTelemetryPkt.commandCount.toNat_lt
  rw [expected, sum, UInt8.toNat_one]
  split <;> omega

theorem expected_le_iff :
    expected app ≤ app.hkTelemetryPkt.commandCount.toNat ↔ app.hkTelemetryPkt.commandCount = 255 := by
  have bound := app.hkTelemetryPkt.commandCount.toNat_lt
  rw [← UInt8.toNat_inj, expected, UInt8.toNat_ofNat]
  split <;> omega

theorem Accepts.congr {app' : AppData σ} (accepts : Accepts plat app command)
    (same : app'.hkTelemetryPkt = app.hkTelemetryPkt) : Accepts plat app' command := by
  simp only [Accepts, observe] at accepts ⊢
  rw [Observation.accepted, same]
  exact accepts

theorem Accepts.commandCount (accepts : Accepts plat app command) :
    (processCommandPacket plat app command).hkTelemetryPkt.commandCount = app.hkTelemetryPkt.commandCount + 1 := by
  have keeps : directive plat command ≠ .resetCounters := by
    intro clearing
    simp [Accepts, observe, Observation.accepted, clearing] at accepts
  exact (Step.commandCount (processCommandPacket_step plat app command) keeps).trans (if_pos accepts)

theorem Progress.start : Progress plat app 0 (.start app) :=
  ⟨rfl, rfl, by simp [Session.start], fun _ => rfl⟩

theorem Progress.acceptances_deliver (progress : Progress plat app tally session) (msg : Message) :
    acceptances plat app (session.deliver plat msg) =
      tally + if (observe session.app (directive plat msg) (processCommandPacket plat session.app msg)).accepted then 1 else 0 := by
  rw [← progress.accepted]
  simp only [acceptances, Session.deliver, history_append, ← progress.reached, history, List.countP_append,
    List.countP_singleton]

theorem Progress.reached_deliver (progress : Progress plat app tally session) (msg : Message) :
    (session.deliver plat msg).app = Machine.run (processCommandPacket plat) app (session.deliver plat msg).delivered := by
  simp only [Session.deliver, Machine.run_concat, ← progress.reached]

theorem deliver_reqHk : session.deliver plat reqHk =
    { session with
      app := { session.app with published := session.app.published ++ [.housekeeping session.app.hkTelemetryPkt] }
      delivered := session.delivered ++ [reqHk] } := by
  simp [Session.deliver, processCommandPacket, processTelemetryRequest, reportHousekeeping, AppData.transmitMsg, reqHk,
    reqHkMid, cmdMid]

theorem getFssHk_eq :
    getFssHk plat session = { session.deliver plat reqHk with hkTlm := session.app.hkTelemetryPkt } := by
  simp [getFssHk, deliver_reqHk]

theorem getFssHk_current : Current (getFssHk plat session) := by
  simp [Current, getFssHk_eq, deliver_reqHk]

/-- A housekeeping request is not counted. -/
theorem Progress.getFssHk (progress : Progress plat app tally session) :
    Progress plat app tally (getFssHk plat session) := by
  have accepted := progress.acceptances_deliver reqHk
  have silent : directive plat reqHk = .housekeeping := by simp [directive, reqHk, reqHkMid, cmdMid]
  have reached := progress.reached_deliver reqHk
  rw [silent] at accepted
  rw [getFssHk_eq]
  refine ⟨reached, accepted, ?_, ?_⟩
  · rw [deliver_reqHk]
    exact progress.counted
  · rw [deliver_reqHk]
    exact progress.untouched

theorem Progress.cmd (progress : Progress plat app 0 session) (accepts : Accepts plat app command) :
    Progress plat app 1 (session.deliver plat command) := by
  have accepts := accepts.congr (progress.untouched rfl)
  refine ⟨progress.reached_deliver command, ?_, ?_, Nat.noConfusion⟩
  · rw [progress.acceptances_deliver, if_pos]
    exact accepts
  · rw [Session.deliver, accepts.commandCount, progress.untouched rfl]
    rfl

theorem Progress.attempt (progress : Progress plat app 0 session) (accepts : Accepts plat app command) (lost : Bool) :
    Progress plat app (if lost then 0 else 1) (attempt plat command lost session) := by
  cases lost with
  | true => exact progress.getFssHk
  | false => exact (progress.cmd accepts).getFssHk

theorem Progress.behind (progress : Progress plat app 0 session) (current : Current session) :
    session.cmdCount ≠ expected app := by
  have bound := app.hkTelemetryPkt.commandCount.toNat_lt
  rw [Session.cmdCount, current, progress.untouched rfl, expected]
  split <;> omega

theorem Progress.arrived (progress : Progress plat app 1 session) (current : Current session) :
    session.cmdCount = expected app := by
  rw [Session.cmdCount, current, progress.counted, expected_eq]
  rfl

theorem Progress.retry_arrived (progress : Progress plat app 1 session) (current : Current session) (losses : List Bool) :
    retry plat command (expected app) losses session = session := by
  have arrived := progress.arrived current
  cases losses <;> simp [retry, arrived]

/-- The loop stops after the first delivered uplink. -/
theorem Progress.retry (progress : Progress plat app 0 session) (current : Current session)
    (accepts : Accepts plat app command) (losses : List Bool) :
    Progress plat app (if false ∈ losses then 1 else 0) (retry plat command (expected app) losses session) ∧
      Current (GroundRetry.retry plat command (expected app) losses session) := by
  induction losses generalizing session with
  | nil => exact ⟨by simpa [GroundRetry.retry] using progress, current⟩
  | cons lost rest ih =>
    have behind := progress.behind current
    have attempted := progress.attempt accepts lost
    have heard : Current (GroundRetry.attempt plat command lost session) := getFssHk_current
    rw [GroundRetry.retry, if_pos behind]
    cases lost with
    | true => simpa using ih attempted heard
    | false =>
      rw [attempted.retry_arrived heard rest]
      exact ⟨by simpa using attempted, heard⟩

theorem fssCmd_retry (command : Message) (lost : Fin 3 → Bool) :
    fssCmd plat command lost (.start app) =
      (decide ((retry plat command (expected app) [lost 0, lost 1, lost 2] (.start app)).cmdCount ≥ expected app),
        retry plat command (expected app) [lost 0, lost 1, lost 2] (.start app)) := by
  have started : Progress plat app 0 (.start app) := .start
  have behind := started.behind rfl
  simp only [retry, if_pos behind]
  rfl

theorem fssCmd_progress (accepts : Accepts plat app command) (lost : Fin 3 → Bool) :
    Progress plat app (if ∃ i, lost i = false then 1 else 0) (fssCmd plat command lost (.start app)).2 ∧
      Current (fssCmd plat command lost (.start app)).2 := by
  have retried := Progress.start.retry rfl accepts [lost 0, lost 1, lost 2]
  have heard : false ∈ [lost 0, lost 1, lost 2] ↔ ∃ i, lost i = false := @List.mem_ofFn _ 3 lost false
  rw [fssCmd_retry]
  simpa only [heard] using retried

theorem delivered_sound (accepts : Accepts plat app command) {lost : Fin 3 → Bool} (delivered : ∃ i, lost i = false) :
    Sound plat app command lost := by
  obtain ⟨progress, current⟩ := fssCmd_progress accepts lost
  rw [if_pos delivered] at progress
  have arrived := progress.arrived current
  have passed : (fssCmd plat command lost (.start app)).1 = true := decide_eq_true (Nat.le_of_eq arrived.symm)
  exact ⟨Nat.le_of_eq progress.accepted, iff_of_true passed progress.accepted, iff_of_true progress.accepted progress.counted⟩

/-- With every uplink lost the check has to fail, which a wrapped count prevents. -/
theorem lost_sound_iff (accepts : Accepts plat app command) {lost : Fin 3 → Bool} (silent : ¬∃ i, lost i = false) :
    Sound plat app command lost ↔ app.hkTelemetryPkt.commandCount ≠ 255 := by
  obtain ⟨progress, current⟩ := fssCmd_progress accepts lost
  rw [if_neg silent] at progress
  have unheard : acceptances plat app (fssCmd plat command lost (.start app)).2 ≠ 1 := by
    rw [progress.accepted]
    exact Nat.zero_ne_one
  have still : (fssCmd plat command lost (.start app)).2.cmdCount = app.hkTelemetryPkt.commandCount.toNat := by
    rw [Session.cmdCount, current, progress.untouched rfl]
  have passed : (fssCmd plat command lost (.start app)).1 = true ↔ app.hkTelemetryPkt.commandCount = 255 := by
    rw [← expected_le_iff, ← still]
    exact decide_eq_true_iff
  constructor
  · intro sound wrapped
    exact unheard (sound.checked.mp (passed.mpr wrapped))
  · intro unwrapped
    have unmoved : (fssCmd plat command lost (.start app)).2.app.hkTelemetryPkt.commandCount ≠
        app.hkTelemetryPkt.commandCount + 1 := by
      rw [progress.untouched rfl]
      simp
    refine ⟨?_, iff_of_false (mt passed.mp unwrapped) unheard, iff_of_false unheard unmoved⟩
    rw [progress.accepted]
    exact Nat.zero_le 1

/-- The retry loop is sound unless the count is about to wrap and every uplink is lost. -/
theorem sound_iff (accepts : Accepts plat app command) (lost : Fin 3 → Bool) :
    Sound plat app command lost ↔ app.hkTelemetryPkt.commandCount ≠ 255 ∨ ∃ i, lost i = false := by
  by_cases delivered : ∃ i, lost i = false
  · exact iff_of_true (delivered_sound accepts delivered) (Or.inr delivered)
  · rw [lost_sound_iff accepts delivered, or_iff_left delivered]

theorem noop_accepts (app : AppData σ) (asked : directive plat command = .noop) : Accepts plat app command := by
  simp [Accepts, observe, Observation.accepted, asked]

theorem run_noops (app : AppData σ) (asked : directive plat command = .noop) (times : Nat) :
    (Machine.run (processCommandPacket plat) app (List.replicate times command)).hkTelemetryPkt.commandCount =
      app.hkTelemetryPkt.commandCount + UInt8.ofNat times := by
  induction times generalizing app with
  | zero => simp
  | succ times ih =>
    have moved := (noop_accepts app asked).commandCount
    rw [List.replicate_succ, Machine.run_cons, ih, moved, UInt8.ofNat_add, UInt8.add_assoc, UInt8.add_comm 1]
    rfl

end Sessions

theorem sound_iff_third_time : Sound scripted (appInit .success (.zero [])).2 Procedures.noop (fun attempt => decide (attempt ≠ 2)) :=
  (sound_iff (by decide) _).mpr (Or.inr ⟨2, rfl⟩)

/-- After 255 accepted commands the ground waits for zero, which any count passes. -/
theorem sound_fails :
    let app := Machine.run (processCommandPacket scripted) (appInit .success (.zero [])).2 (List.replicate 255 Procedures.noop)
    Accepts scripted app Procedures.noop ∧ ¬Sound scripted app Procedures.noop (fun _ => true) := by
  intro app
  have accepts : Accepts scripted app Procedures.noop := noop_accepts app rfl
  have full : app.hkTelemetryPkt.commandCount = 255 := run_noops _ rfl 255
  have silent : ¬∃ i : Fin 3, (fun _ => true) i = false := by simp
  exact ⟨accepts, fun sound => (lost_sound_iff accepts silent).mp sound full⟩

end GenericFss.Proofs.GroundRetry
