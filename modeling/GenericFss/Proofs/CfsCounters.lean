import GenericFss.Library.Tally
import GenericFss.Proofs.CfsLifecycle

/-! The four counters against a history of what happened. The history is kept
outside the program: for each message, the flag it found, what it asked for and
the calls it caused. The counters are its statistics, modulo 256. -/

namespace GenericFss.Proofs.CfsCounters
open GenericFss Device Cfs CfsStep CfsLifecycle

structure Observation where
  enabled : UInt8
  directive : Directive
  calls : List Call
deriving DecidableEq, Repr

namespace Observation
variable (seen : Observation)

def clears : Bool := seen.directive = .resetCounters

/-- A NOOP, an ENABLE that found the device disabled or a DISABLE that found it enabled. -/
def accepted : Bool :=
  match seen.directive with
  | .noop => true
  | .enable => seen.enabled = deviceDisabled
  | .disable => seen.enabled = deviceEnabled
  | _ => false

/-- A message no state accepts, an ENABLE that found the device enabled or a
DISABLE that found it disabled. -/
def refused : Bool :=
  match seen.directive with
  | .rejected => true
  | .enable => seen.enabled = deviceEnabled
  | .disable => seen.enabled = deviceDisabled
  | _ => false

def outcomes : List Status := seen.calls.filterMap Call.deviceOutcome

end Observation

/-- The history since the counters were last cleared explains all four of them. -/
structure Accounts (history : List Observation) (hk : HkTlm) : Prop where
  commandCount : Tally.Shows hk.commandCount ((Tally.sinceLast Observation.clears history).countP Observation.accepted)
  commandErrorCount :
    Tally.Shows hk.commandErrorCount ((Tally.sinceLast Observation.clears history).countP Observation.refused)
  deviceCount :
    Tally.Shows hk.deviceCount
      (((Tally.sinceLast Observation.clears history).flatMap Observation.outcomes).countP (· = osSuccess))
  deviceErrorCount :
    Tally.Shows hk.deviceErrorCount
      (((Tally.sinceLast Observation.clears history).flatMap Observation.outcomes).countP (· ≠ osSuccess))

section Rules
variable {history : List Observation} {hk hk' : HkTlm} {seen : Observation}

theorem Accounts.initial : Accounts [] .zero := ⟨.zero, .zero, .zero, .zero⟩

theorem Accounts.cleared (clears : seen.clears = true) : Accounts (history ++ [seen]) hk.resetCounters := by
  constructor <;> rw [Tally.sinceLast_cleared clears] <;> exact .zero

/-- An entry that clears nothing moves the command counters by what it is and the
device counters by the outcomes it has. -/
theorem Accounts.kept (accounts : Accounts history hk) (keeps : seen.clears = false)
    (command : hk'.commandCount = if seen.accepted then hk.commandCount + 1 else hk.commandCount)
    (error : hk'.commandErrorCount = if seen.refused then hk.commandErrorCount + 1 else hk.commandErrorCount)
    (device : seen.outcomes = [] ∧ hk'.deviceCount = hk.deviceCount ∧ hk'.deviceErrorCount = hk.deviceErrorCount ∨
      ∃ status, seen.outcomes = [status] ∧
        (hk'.deviceCount = if status = osSuccess then hk.deviceCount + 1 else hk.deviceCount) ∧
        (hk'.deviceErrorCount = if status ≠ osSuccess then hk.deviceErrorCount + 1 else hk.deviceErrorCount)) :
    Accounts (history ++ [seen]) hk' := by
  refine ⟨?_, ?_, ?_, ?_⟩ <;> rw [Tally.sinceLast_kept keeps]
  · exact accounts.commandCount.record seen command
  · exact accounts.commandErrorCount.record seen error
  · rw [List.flatMap_append, List.flatMap_singleton]
    rcases device with ⟨silent, same, _⟩ | ⟨status, single, moved, _⟩
    · rw [silent, List.append_nil, same]
      exact accounts.deviceCount
    · rw [single]
      exact accounts.deviceCount.record status (by simpa using moved)
  · rw [List.flatMap_append, List.flatMap_singleton]
    rcases device with ⟨silent, _, same⟩ | ⟨status, single, _, moved⟩
    · rw [silent, List.append_nil, same]
      exact accounts.deviceErrorCount
    · rw [single]
      exact accounts.deviceErrorCount.record status (by simpa using moved)

end Rules

section Runs
variable {σ : Type} (plat : Platform σ)

def observe (before : AppData σ) (asked : Directive) (after : AppData σ) : Observation where
  enabled := before.hkTelemetryPkt.deviceEnabled
  directive := asked
  calls := after.spi.calls.drop before.spi.calls.length

def history (app : AppData σ) : List Message → List Observation
  | [] => []
  | msg :: rest =>
    observe app (directive plat msg) (processCommandPacket plat app msg) :: history (processCommandPacket plat app msg) rest

theorem history_append (app : AppData σ) (first rest : List Message) :
    history plat app (first ++ rest) =
      history plat app first ++ history plat (Machine.run (processCommandPacket plat) app first) rest := by
  induction first generalizing app with
  | nil => rfl
  | cons msg first ih => simp [history, ih]

section Steps
variable {plat} {app app' : AppData σ} {asked : Directive}

theorem Step.commandCount (step : Step plat app asked app') (keeps : asked ≠ .resetCounters) :
    app'.hkTelemetryPkt.commandCount =
      if (observe app asked app').accepted then app.hkTelemetryPkt.commandCount + 1 else app.hkTelemetryPkt.commandCount := by
  cases step with
  | resetCounters => exact absurd rfl keeps
  | enabled _ flag | enableFailed _ flag | enableRefused _ flag | disabled _ flag | disableFailed _ flag
  | disableRefused _ flag => simp [observe, Observation.accepted, flag]
  | noop | housekeeping | dataSent | dataFailed | dataIgnored | rejected => simp [observe, Observation.accepted]

theorem Step.commandErrorCount (step : Step plat app asked app') (keeps : asked ≠ .resetCounters)
    (tracked : TracksDevice app) :
    app'.hkTelemetryPkt.commandErrorCount =
      if (observe app asked app').refused then app.hkTelemetryPkt.commandErrorCount + 1
      else app.hkTelemetryPkt.commandErrorCount := by
  have unequal := deviceEnabled_ne
  cases step with
  | resetCounters => exact absurd rfl keeps
  | enabled _ flag | enableFailed _ flag | disabled _ flag | disableFailed _ flag =>
    simp [observe, Observation.refused, flag, unequal, unequal.symm]
  | enableRefused _ opened =>
    have enabled := tracked.flag.resolve_right opened
    simp [observe, Observation.refused, enabled]
  | disableRefused _ closed =>
    have disabled := tracked.flag.resolve_left closed
    simp [observe, Observation.refused, disabled]
  | noop | housekeeping | dataSent | dataFailed | dataIgnored | rejected => simp [observe, Observation.refused]

/-- At most one outcome, and the device counter it belongs to. -/
theorem Step.deviceCounts (step : Step plat app asked app') (keeps : asked ≠ .resetCounters) :
    (observe app asked app').outcomes = [] ∧ app'.hkTelemetryPkt.deviceCount = app.hkTelemetryPkt.deviceCount ∧
        app'.hkTelemetryPkt.deviceErrorCount = app.hkTelemetryPkt.deviceErrorCount ∨
      ∃ status, (observe app asked app').outcomes = [status] ∧
        (app'.hkTelemetryPkt.deviceCount =
          if status = osSuccess then app.hkTelemetryPkt.deviceCount + 1 else app.hkTelemetryPkt.deviceCount) ∧
        (app'.hkTelemetryPkt.deviceErrorCount =
          if status ≠ osSuccess then app.hkTelemetryPkt.deviceErrorCount + 1 else app.hkTelemetryPkt.deviceErrorCount) := by
  cases step with
  | resetCounters => exact absurd rfl keeps
  | noop | enableRefused | disableRefused | housekeeping | dataIgnored | rejected =>
    exact Or.inl ⟨by simp [Observation.outcomes, observe], rfl, rfl⟩
  | enabled _ _ result | enableFailed _ _ result =>
    refine Or.inr ⟨(opening plat app).1, ?_, ?_⟩
    · simp [Observation.outcomes, observe, spiInitDev, Call.deviceOutcome]
    · simp [result]
  | disabled _ _ result | disableFailed _ _ result =>
    refine Or.inr ⟨(closing plat app).1, ?_, ?_⟩
    · simp [Observation.outcomes, observe, spiCloseDevice, Call.deviceOutcome]
    · simp [result]
  | dataSent _ result | dataFailed _ _ result =>
    obtain ⟨calls, response, log, work, _⟩ := Requests.requestData_request plat app.devicePkt app.spi
    refine Or.inr ⟨(request plat app).1, ?_, ?_⟩
    · simp [Observation.outcomes, observe, log, work.outcomes]
    · simp [result]

theorem Step.accounts {past : List Observation} (step : Step plat app asked app') (tracked : TracksDevice app)
    (accounts : Accounts past app.hkTelemetryPkt) : Accounts (past ++ [observe app asked app']) app'.hkTelemetryPkt := by
  by_cases clearing : asked = .resetCounters
  · subst clearing
    cases step
    exact .cleared rfl
  · exact accounts.kept (decide_eq_false clearing) (Step.commandCount step clearing)
      (Step.commandErrorCount step clearing tracked) (Step.deviceCounts step clearing)

end Steps

/-- What a message on the command MID does to the two command counters, unless it
is an accepted reset: it changes one of them and not the other. -/
def ChangesOneCounter (before : AppData σ) (msg : Message) (after : AppData σ) : Prop :=
  msg.msgId = cmdMid → directive plat msg ≠ .resetCounters →
    (after.hkTelemetryPkt.commandCount ≠ before.hkTelemetryPkt.commandCount ∧
        after.hkTelemetryPkt.commandErrorCount = before.hkTelemetryPkt.commandErrorCount ∨
      after.hkTelemetryPkt.commandCount = before.hkTelemetryPkt.commandCount ∧
        after.hkTelemetryPkt.commandErrorCount ≠ before.hkTelemetryPkt.commandErrorCount)

theorem changesOneCounter (app : AppData σ) (msg : Message) :
    ChangesOneCounter plat app msg (processCommandPacket plat app msg) := by
  intro command notReset
  have ground : directive plat msg ≠ .housekeeping ∧ directive plat msg ≠ .data := by
    simp only [directive, if_pos command]
    (repeat' split) <;> exact ⟨Directive.noConfusion, Directive.noConfusion⟩
  have step := processCommandPacket_step plat app msg
  generalize processCommandPacket plat app msg = app' at step ⊢
  generalize directive plat msg = asked at *
  cases step with
  | resetCounters => exact absurd rfl notReset
  | housekeeping => exact absurd rfl ground.1
  | dataSent | dataFailed | dataIgnored => exact absurd rfl ground.2
  | noop | enabled | enableFailed | disabled | disableFailed => exact Or.inl (by simp)
  | enableRefused | disableRefused | rejected => exact Or.inr (by simp)

theorem history_accounts {past : List Observation} {app : AppData σ} (msgs : List Message)
    (tracked : TracksDevice app) (accounts : Accounts past app.hkTelemetryPkt) :
    Accounts (past ++ history plat app msgs) (Machine.run (processCommandPacket plat) app msgs).hkTelemetryPkt := by
  induction msgs generalizing past app with
  | nil => simpa [history] using accounts
  | cons msg rest ih =>
    have step := processCommandPacket_step plat app msg
    have later := ih (Step.tracked plat step tracked) (Step.accounts step tracked accounts)
    simpa [history] using later

/-- Counter accounting: after any messages that follow an initialization, the
history explains the counters, and no ground command but a reset left both
command counters alone or changed both. -/
theorem counters_account (cfe : InitStatus) (world : σ) (msgs : List Message) :
    let app := (appInit cfe (.zero world)).2
    Accounts (history plat app msgs) (Machine.run (processCommandPacket plat) app msgs).hkTelemetryPkt ∧
      Machine.Always (processCommandPacket plat) (ChangesOneCounter plat) app msgs := by
  have tracked := appInit_tracked cfe world
  have accounts : Accounts [] (appInit cfe (.zero world)).2.hkTelemetryPkt := by
    rw [(appInit_idle cfe world).1]
    exact .initial
  refine ⟨history_accounts plat msgs tracked accounts, ?_⟩
  exact .intro' (changesOneCounter plat) _ msgs

end Runs

end GenericFss.Proofs.CfsCounters
