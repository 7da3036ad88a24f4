import GenericFss.Procedures
import GenericFss.Proofs.GroundRetry

/-! Switching the device from the ground. The retry loop alone cannot be believed when the
command count is about to wrap; the scripts also look at the flag, and that is enough. -/

namespace GenericFss.Proofs.GroundSwitch
open GenericFss Device Cfs Ground CfsStep GroundRetry

section Sessions
variable {σ : Type} {plat : Platform σ}

/-- All that the application looks at when it is commanded. -/
def core (app : AppData σ) : HkTlm × DeviceData × Bus σ := (app.hkTelemetryPkt, app.devicePkt, app.spi)

theorem Step.core_congr {app app' after after' : AppData σ} {asked : Directive} (alike : core app' = core app)
    (step : Step plat app asked after) (step' : Step plat app' asked after') : core after' = core after := by
  obtain ⟨_, _, _, _, _, _, _⟩ := app'
  cases alike
  cases step <;> cases step' <;> first | rfl | contradiction

theorem processCommandPacket_core {app app' : AppData σ} (alike : core app' = core app) (msg : Message) :
    core (processCommandPacket plat app' msg) = core (processCommandPacket plat app msg) :=
  Step.core_congr alike (processCommandPacket_step plat app msg) (processCommandPacket_step plat app' msg)

variable {session : Session σ} {command : Message}

theorem attempt_current (lost : Bool) : Current (attempt plat command lost session) := getFssHk_current

@[simp] theorem attempt_lost : core (attempt plat command true session).app = core session.app := by
  rw [attempt, cmd, if_pos rfl, getFssHk_eq, deliver_reqHk]
  rfl

@[simp] theorem attempt_delivered :
    core (attempt plat command false session).app = core (processCommandPacket plat session.app command) := by
  rw [attempt, cmd, if_neg Bool.false_ne_true, getFssHk_eq, deliver_reqHk]
  rfl

theorem cmdCount_current (current : Current session) : session.cmdCount = session.app.hkTelemetryPkt.commandCount.toNat := by
  rw [Session.cmdCount, current]

/-- What the command keeps, the loop keeps; and so it does if the command never arrives. -/
theorem retry_preserves {kept : AppData σ → Prop} {count : Nat} {losses : List Bool}
    (alike : ∀ app app', core app' = core app → kept app → kept app')
    (step : false ∈ losses → ∀ app, kept app → kept (processCommandPacket plat app command))
    (current : Current session) (holds : kept session.app) :
    Current (retry plat command count losses session) ∧ kept (retry plat command count losses session).app := by
  induction losses generalizing session with
  | nil => exact ⟨current, holds⟩
  | cons lost rest ih =>
    rw [retry]
    split
    · refine ih (fun heard => step (List.mem_cons_of_mem _ heard)) (attempt_current lost) ?_
      cases lost with
      | true => exact alike _ _ attempt_lost holds
      | false => exact alike _ _ attempt_delivered (step List.mem_cons_self _ holds)
    · exact ⟨current, holds⟩

/-- A command that is accepted is carried out once, if any uplink is delivered at all. -/
theorem retry_accepted {app : AppData σ} (alike : core session.app = core app) (accepts : Accepts plat app command)
    (current : Current session) (losses : List Bool) :
    Current (retry plat command (expected app) losses session) ∧
      core (retry plat command (expected app) losses session).app =
        if false ∈ losses then core (processCommandPacket plat app command) else core app := by
  induction losses generalizing session with
  | nil => exact ⟨current, alike⟩
  | cons lost rest ih =>
    have behind : session.cmdCount ≠ expected app := by
      rw [cmdCount_current current, (Prod.mk.inj alike).1, expected]
      have bound := app.hkTelemetryPkt.commandCount.toNat_lt
      split <;> omega
    rw [retry, if_pos behind]
    cases lost with
    | true => simpa using ih (attempt_lost.trans alike) (attempt_current true)
    | false =>
      have carried : core (attempt plat command false session).app = core (processCommandPacket plat app command) :=
        attempt_delivered.trans (processCommandPacket_core alike command)
      have heard : Current (attempt plat command false session) := attempt_current false
      have arrived : (attempt plat command false session).cmdCount = expected app := by
        rw [cmdCount_current heard, (Prod.mk.inj carried).1, accepts.commandCount, expected_eq]
      have stopped : retry plat command (expected app) rest (attempt plat command false session) =
          attempt plat command false session := by
        cases rest <;> simp [retry, arrived]
      rw [stopped]
      exact ⟨heard, by simpa using carried⟩

theorem fssCmd_eq (current : Current session) (command : Message) (lost : Fin 3 → Bool) :
    fssCmd plat command lost session =
      (decide ((retry plat command (expected session.app) [lost 0, lost 1, lost 2] session).cmdCount ≥ expected session.app),
        retry plat command (expected session.app) [lost 0, lost 1, lost 2] session) := by
  have behind : session.cmdCount ≠ expected session.app := by
    rw [cmdCount_current current, expected]
    have bound := session.app.hkTelemetryPkt.commandCount.toNat_lt
    split <;> omega
  have target : (if session.cmdCount + 1 = 256 then 0 else session.cmdCount + 1) = expected session.app := by
    rw [cmdCount_current current, expected]
  rw [fssCmd, target]
  simp only [retry, if_pos behind]

end Sessions

section Switches
open Procedures
variable {σ : Type} {site : Site σ}

/-- `enable` sets the configuration before it opens the device. -/
def configureInit (plat : Platform σ) (bus : Bus σ) : Status × Bus σ := spiInitDev plat { bus with device := bus.device.configure }

/-- What `enable` and `disable` have in common. -/
structure Switches (plat : Platform σ) (command : Message) (source target : UInt8) (driver : Bus σ → Status × Bus σ) : Prop where
  carried (app : AppData σ) : app.hkTelemetryPkt.deviceEnabled = source →
    Accepts plat app command ∧ (processCommandPacket plat app command).spi = (driver app.spi).2 ∧
      (processCommandPacket plat app command).hkTelemetryPkt.deviceEnabled =
        if (driver app.spi).1 = osSuccess then target else source
  refused (app : AppData σ) : app.hkTelemetryPkt.deviceEnabled ≠ source →
    (processCommandPacket plat app command).spi = app.spi ∧
      (processCommandPacket plat app command).hkTelemetryPkt = app.hkTelemetryPkt.countCommandError

variable {plat : Platform σ} {app after : AppData σ}

theorem Step.enable_carried (step : Step plat app .enable after) (closed : app.hkTelemetryPkt.deviceEnabled = deviceDisabled) :
    after.spi = (configureInit plat app.spi).2 ∧
      after.hkTelemetryPkt.deviceEnabled =
        if (configureInit plat app.spi).1 = osSuccess then deviceEnabled else deviceDisabled := by
  cases step with
  | enabled _ _ opened => exact ⟨rfl, (if_pos opened).symm⟩
  | enableFailed _ _ failed => exact ⟨rfl, (if_neg failed).symm ▸ closed⟩
  | enableRefused _ opened => exact absurd closed opened

theorem Step.disable_carried (step : Step plat app .disable after) (opened : app.hkTelemetryPkt.deviceEnabled = deviceEnabled) :
    after.spi = (spiCloseDevice plat app.spi).2 ∧
      after.hkTelemetryPkt.deviceEnabled =
        if (spiCloseDevice plat app.spi).1 = osSuccess then deviceDisabled else deviceEnabled := by
  cases step with
  | disabled _ _ closed => exact ⟨rfl, (if_pos closed).symm⟩
  | disableFailed _ _ failed => exact ⟨rfl, (if_neg failed).symm ▸ opened⟩
  | disableRefused _ closed => exact absurd opened closed

theorem Step.enable_refused (step : Step plat app .enable after) (opened : app.hkTelemetryPkt.deviceEnabled ≠ deviceDisabled) :
    after.spi = app.spi ∧ after.hkTelemetryPkt = app.hkTelemetryPkt.countCommandError := by
  cases step with
  | enabled _ closed | enableFailed _ closed => exact absurd closed opened
  | enableRefused => exact ⟨rfl, rfl⟩

theorem Step.disable_refused (step : Step plat app .disable after) (closed : app.hkTelemetryPkt.deviceEnabled ≠ deviceEnabled) :
    after.spi = app.spi ∧ after.hkTelemetryPkt = app.hkTelemetryPkt.countCommandError := by
  cases step with
  | disabled _ opened | disableFailed _ opened => exact absurd opened closed
  | disableRefused => exact ⟨rfl, rfl⟩

theorem enable_switches (sized : plat.sizeofNoArgsCmd = 8) :
    Switches plat Procedures.enable deviceDisabled deviceEnabled (configureInit plat) := by
  have asked : directive plat Procedures.enable = .enable := by
    simp [directive, Procedures.enable, ccsdsCommand, cmdMid, sized, noopCc, resetCountersCc, enableCc]
  have step (app : AppData σ) : Step plat app .enable (processCommandPacket plat app Procedures.enable) :=
    asked ▸ processCommandPacket_step plat app Procedures.enable
  refine ⟨fun app closed => ⟨?_, Step.enable_carried (step app) closed⟩, fun app opened => Step.enable_refused (step app) opened⟩
  simp [Accepts, CfsCounters.observe, CfsCounters.Observation.accepted, asked, closed]

theorem disable_switches (sized : plat.sizeofNoArgsCmd = 8) :
    Switches plat Procedures.disable deviceEnabled deviceDisabled (spiCloseDevice plat) := by
  have asked : directive plat Procedures.disable = .disable := by
    simp [directive, Procedures.disable, ccsdsCommand, cmdMid, sized, noopCc, resetCountersCc, enableCc, disableCc]
  have step (app : AppData σ) : Step plat app .disable (processCommandPacket plat app Procedures.disable) :=
    asked ▸ processCommandPacket_step plat app Procedures.disable
  refine ⟨fun app opened => ⟨?_, Step.disable_carried (step app) opened⟩, fun app closed => Step.disable_refused (step app) closed⟩
  simp [Accepts, CfsCounters.observe, CfsCounters.Observation.accepted, asked, opened]

end Switches

section Commands
variable {σ : Type} {plat : Platform σ} {session : Session σ} {command : Message} {source target : UInt8}
  {driver : Bus σ → Status × Bus σ}

theorem mem_uplinks (lost : Fin 3 → Bool) : false ∈ [lost 0, lost 1, lost 2] ↔ ∃ uplink, lost uplink = false :=
  @List.mem_ofFn _ 3 lost false

theorem fssCmd_delivered (accepts : Accepts plat session.app command) (current : Current session) {lost : Fin 3 → Bool}
    (delivered : ∃ uplink, lost uplink = false) :
    let after := (fssCmd plat command lost session).2
    (fssCmd plat command lost session).1 = true ∧ Current after ∧
      core after.app = core (processCommandPacket plat session.app command) := by
  obtain ⟨heard, carried⟩ := retry_accepted rfl accepts current [lost 0, lost 1, lost 2]
  rw [if_pos ((mem_uplinks lost).mpr delivered)] at carried
  rw [fssCmd_eq current]
  refine ⟨decide_eq_true (Nat.le_of_eq ?_), heard, carried⟩
  rw [cmdCount_current heard, (Prod.mk.inj carried).1, accepts.commandCount, expected_eq]

theorem fssCmd_carried (switches : Switches plat command source target driver) (current : Current session)
    (flag : session.app.hkTelemetryPkt.deviceEnabled = source) {lost : Fin 3 → Bool} (delivered : ∃ uplink, lost uplink = false) :
    let after := (fssCmd plat command lost session).2
    (fssCmd plat command lost session).1 = true ∧ Current after ∧ after.app.spi = (driver session.app.spi).2 ∧
      after.app.hkTelemetryPkt.deviceEnabled = if (driver session.app.spi).1 = osSuccess then target else source := by
  obtain ⟨accepts, bus, switched⟩ := switches.carried session.app flag
  obtain ⟨passed, heard, carried⟩ := fssCmd_delivered accepts current delivered
  exact ⟨passed, heard, (Prod.mk.inj (Prod.mk.inj carried).2).2.trans bus, (Prod.mk.inj carried).1 ▸ switched⟩

/-- The count stands still, and only a target of zero is no more than it. -/
theorem fssCmd_unheard (current : Current session) {lost : Fin 3 → Bool}
    (silent : (retry plat command (expected session.app) [lost 0, lost 1, lost 2] session).cmdCount =
      session.app.hkTelemetryPkt.commandCount.toNat) :
    (fssCmd plat command lost session).1 = true ↔ session.app.hkTelemetryPkt.commandCount = 255 := by
  rw [fssCmd_eq current, decide_eq_true_iff, silent]
  exact expected_le_iff

theorem fssCmd_lost (current : Current session) {lost : Fin 3 → Bool} (silent : ¬∃ uplink, lost uplink = false) :
    let after := (fssCmd plat command lost session).2
    ((fssCmd plat command lost session).1 = true ↔ session.app.hkTelemetryPkt.commandCount = 255) ∧
      Current after ∧ core after.app = core session.app := by
  have never : false ∉ [lost 0, lost 1, lost 2] := mt (mem_uplinks lost).mp silent
  obtain ⟨heard, same⟩ := @retry_preserves σ plat session command (core · = core session.app) (expected session.app) _
    (fun _ _ same => same.trans) (fun arrived => absurd arrived never) current rfl
  refine ⟨fssCmd_unheard current ?_, ?_⟩
  · rw [cmdCount_current heard, (Prod.mk.inj same).1]
  · rw [fssCmd_eq current]
    exact ⟨heard, same⟩

/-- What a command that is refused leaves alone. -/
structure Unswitched (app app' : AppData σ) : Prop where
  bus : app'.spi = app.spi
  flag : app'.hkTelemetryPkt.deviceEnabled = app.hkTelemetryPkt.deviceEnabled
  count : app'.hkTelemetryPkt.commandCount = app.hkTelemetryPkt.commandCount

theorem Unswitched.congr {app app' app'' : AppData σ} (alike : core app'' = core app') (unswitched : Unswitched app app') :
    Unswitched app app'' := by
  obtain ⟨record, rest⟩ := Prod.mk.inj alike
  obtain ⟨bus, flag, count⟩ := unswitched
  exact ⟨(Prod.mk.inj rest).2.trans bus, record ▸ flag, record ▸ count⟩

/-- Only the error counter sees a command that the flag forbids, once for each uplink. -/
theorem fssCmd_refused (switches : Switches plat command source target driver) (current : Current session)
    (forbidden : session.app.hkTelemetryPkt.deviceEnabled ≠ source) (lost : Fin 3 → Bool) :
    let after := (fssCmd plat command lost session).2
    ((fssCmd plat command lost session).1 = true ↔ session.app.hkTelemetryPkt.commandCount = 255) ∧
      Current after ∧ Unswitched session.app after.app := by
  have step (app : AppData σ) (unswitched : Unswitched session.app app) :
      Unswitched session.app (processCommandPacket plat app command) := by
    obtain ⟨bus, flag, count⟩ := unswitched
    obtain ⟨untouched, record⟩ := switches.refused app (flag ▸ forbidden)
    exact ⟨untouched.trans bus, by rwa [record], by rwa [record]⟩
  obtain ⟨heard, unswitched⟩ := @retry_preserves σ plat session command (Unswitched session.app) (expected session.app)
    [lost 0, lost 1, lost 2] (fun _ _ => Unswitched.congr) (fun _ => step) current ⟨rfl, rfl, rfl⟩
  refine ⟨fssCmd_unheard current ?_, ?_⟩
  · rw [cmdCount_current heard, unswitched.count]
  · rw [fssCmd_eq current]
    exact ⟨heard, unswitched⟩

end Commands

section Scripts
open Procedures Procedure
variable {σ : Type} {site : Site σ} {station : Station σ} {command : Message} {source target : UInt8}
  {driver : Bus σ → Status × Bus σ}

theorem fssCmd_exactly (station : Station σ) (command : Message) :
    Exactly (· = station) (Procedures.fssCmd site command)
      ((Ground.fssCmd site.plat command (site.lost station.commands) station.session).1 = true)
      fun _ after => after.session = (Ground.fssCmd site.plat command (site.lost station.commands) station.session).2 := by
  constructor
  · rintro _ rfl
    rw [Procedure.Passes, Procedures.fssCmd]
    simp
  · rintro _ _ rfl _
    rfl

/-- Where a switch ends that could be confirmed. -/
structure Switched (app : AppData σ) (source target : UInt8) (driver : Bus σ → Status × Bus σ) (after : Session σ) : Prop where
  current : Current after
  flag : after.app.hkTelemetryPkt.deviceEnabled = target
  bus : after.app.spi = if app.hkTelemetryPkt.deviceEnabled = source then (driver app.spi).2 else app.spi

/-- When a switch can be confirmed. -/
def Confirms (app : AppData σ) (lost : Fin 3 → Bool) (source target : UInt8) (driver : Bus σ → Status × Bus σ) : Prop :=
  app.hkTelemetryPkt.deviceEnabled = source ∧ (∃ uplink, lost uplink = false) ∧ (driver app.spi).1 = osSuccess ∨
    app.hkTelemetryPkt.deviceEnabled = target ∧ app.hkTelemetryPkt.commandCount = 255

theorem Confirms.congr {app app' : AppData σ} (alike : core app' = core app) (lost : Fin 3 → Bool) :
    Confirms app' lost source target driver = Confirms app lost source target driver := by
  obtain ⟨_, _, _, _, _, _, _⟩ := app'
  cases alike
  rfl

theorem Switched.congr {app app' : AppData σ} (alike : core app' = core app) {after : Session σ}
    (switched : Switched app' source target driver after) : Switched app source target driver after := by
  obtain ⟨_, _, _, _, _, _, _⟩ := app'
  cases alike
  exact ⟨switched.current, switched.flag, switched.bus⟩

/-- The check of the count and then of the flag confirm exactly what happened. -/
structure Decides (app : AppData σ) (lost : Fin 3 → Bool) (source target : UInt8) (driver : Bus σ → Status × Bus σ)
    (checked : Bool × Session σ) : Prop where
  confirmed : checked.1 = true ∧ checked.2.hkTlm.deviceEnabled = target ↔ Confirms app lost source target driver
  switched : Confirms app lost source target driver → Switched app source target driver checked.2

/-- The count alone would confirm a command that was never delivered. -/
theorem fssCmd_decides (switches : Switches site.plat command source target driver) (different : target ≠ source)
    {session : Session σ} (current : Current session)
    (flag : session.app.hkTelemetryPkt.deviceEnabled = source ∨ session.app.hkTelemetryPkt.deviceEnabled = target)
    (lost : Fin 3 → Bool) :
    Decides session.app lost source target driver (Ground.fssCmd site.plat command lost session) := by
  rcases flag with carried | refused
  · by_cases delivered : ∃ uplink, lost uplink = false
    · obtain ⟨passed, heard, bus, switched⟩ := fssCmd_carried switches current carried delivered
      have confirms : Confirms session.app lost source target driver ↔ (driver session.app.spi).1 = osSuccess := by
        simp [Confirms, carried, delivered, different.symm]
      constructor
      · rw [confirms, heard, switched, and_iff_right passed]
        split
        next succeeded => exact iff_of_true rfl succeeded
        next failed => exact iff_of_false different.symm failed
      · intro holds
        rw [if_pos (confirms.mp holds)] at switched
        exact ⟨heard, switched, by rw [bus, if_pos carried]⟩
    · obtain ⟨_, heard, same⟩ := fssCmd_lost current delivered
      have never : ¬Confirms session.app lost source target driver := by simp [Confirms, carried, delivered, different.symm]
      refine ⟨iff_of_false ?_ never, fun holds => absurd holds never⟩
      rw [heard, (Prod.mk.inj same).1, carried]
      exact fun passed => different.symm passed.2
  · have forbidden : session.app.hkTelemetryPkt.deviceEnabled ≠ source := refused ▸ different
    obtain ⟨passed, heard, unswitched⟩ := fssCmd_refused switches current forbidden lost
    have still := unswitched.flag.trans refused
    constructor
    · rw [heard, passed, Confirms, and_iff_left still, and_iff_right refused]
      exact (or_iff_right (fun carried => forbidden carried.1)).symm
    · intro _
      exact ⟨heard, still, by rw [unswitched.bus, if_neg forbidden]⟩

/-- Switching the device: the retried command, then the check of the flag. -/
theorem switch_exactly (switches : Switches site.plat command source target driver) (different : target ≠ source)
    (current : Current station.session)
    (flag : station.session.app.hkTelemetryPkt.deviceEnabled = source ∨ station.session.app.hkTelemetryPkt.deviceEnabled = target) :
    Exactly (· = station)
      (do Procedures.fssCmd site command; Procedure.check fun station => station.hkTlm.deviceEnabled = target)
      (Confirms station.session.app (site.lost station.commands) source target driver)
      fun _ after => Switched station.session.app source target driver after.session := by
  obtain ⟨confirms, switched⟩ := fssCmd_decides switches different current flag (site.lost station.commands)
  refine ((fssCmd_exactly station command).bind fun _ _ => Exactly.check fun after ended => ?_).congr confirms
    |>.passed.weaken (fun _ same => same) fun _ after ⟨holds, ended⟩ => ?_
  · simp only [Station.hkTlm, ended, decide_eq_true_iff]
  · rw [ended]
    exact switched holds

theorem enableFss_exactly (sized : site.plat.sizeofNoArgsCmd = 8) (current : Current station.session)
    (flag : station.session.app.hkTelemetryPkt.deviceEnabled = deviceDisabled ∨
      station.session.app.hkTelemetryPkt.deviceEnabled = deviceEnabled) :
    Exactly (· = station) (enableFss site)
      (Confirms station.session.app (site.lost station.commands) deviceDisabled deviceEnabled (configureInit site.plat))
      fun _ after => Switched station.session.app deviceDisabled deviceEnabled (configureInit site.plat) after.session :=
  switch_exactly (enable_switches sized) deviceEnabled_ne current flag

theorem disableFss_exactly (sized : site.plat.sizeofNoArgsCmd = 8) (current : Current station.session)
    (flag : station.session.app.hkTelemetryPkt.deviceEnabled = deviceEnabled ∨
      station.session.app.hkTelemetryPkt.deviceEnabled = deviceDisabled) :
    Exactly (· = station) (disableFss site)
      (Confirms station.session.app (site.lost station.commands) deviceEnabled deviceDisabled (spiCloseDevice site.plat))
      fun _ after => Switched station.session.app deviceEnabled deviceDisabled (spiCloseDevice site.plat) after.session :=
  switch_exactly (disable_switches sized) deviceEnabled_ne.symm current flag

theorem getFssHk_core {plat : Platform σ} {session : Session σ} : core (Ground.getFssHk plat session).app = core session.app := by
  rw [getFssHk_eq, deliver_reqHk]
  rfl

/-- `safe_fss` reads the flag first, so a device that is disabled already is left alone. -/
theorem safeFss_exactly (sized : site.plat.sizeofNoArgsCmd = 8)
    (flag : station.session.app.hkTelemetryPkt.deviceEnabled = deviceEnabled ∨
      station.session.app.hkTelemetryPkt.deviceEnabled = deviceDisabled) :
    Exactly (· = station) (safeFss site)
      (station.session.app.hkTelemetryPkt.deviceEnabled = deviceDisabled ∨
        (∃ uplink, site.lost station.commands uplink = false) ∧ (spiCloseDevice site.plat station.session.app.spi).1 = osSuccess)
      fun _ after => Switched station.session.app deviceEnabled deviceDisabled (spiCloseDevice site.plat) after.session := by
  let asked : Station σ := { station with session := Ground.getFssHk site.plat station.session }
  have heard : Current asked.session := getFssHk_current
  have same : core asked.session.app = core station.session.app := getFssHk_core
  have state : asked.hkTlm.deviceEnabled = station.session.app.hkTelemetryPkt.deviceEnabled := by
    rw [Station.hkTlm, heard, (Prod.mk.inj same).1]
  have requested : Exactly (· = station) (Procedures.getFssHk site) True fun _ after => after = asked := .act (by rintro _ rfl; rfl)
  refine requested.andThen fun _ => Exactly.readKnown (by rintro _ rfl; exact state) ?_
  rcases flag with opened | closed
  · have sent := disableFss_exactly sized heard (.inl ((Prod.mk.inj same).1 ▸ opened))
    rw [Confirms.congr same] at sent
    rw [opened, if_neg deviceEnabled_ne]
    refine (sent.congr ?_).weaken (fun _ start => start) fun _ _ => Switched.congr same
    simp [Confirms, opened, deviceEnabled_ne, asked]
  · rw [if_pos closed]
    refine (Exactly.pure ?_).congr (iff_of_true trivial (.inl closed))
    rintro _ rfl
    refine Switched.congr same ⟨heard, (Prod.mk.inj same).1 ▸ closed, (if_neg ?_).symm⟩
    exact (Prod.mk.inj same).1 ▸ closed ▸ deviceEnabled_ne.symm

/-- Whatever is lost, `enable_fss` passes only over an enabled device, which it opened at most once.
The count that is about to wrap makes it accept a device that was enabled before, nothing else. -/
theorem enableFss_passes_iff (sized : site.plat.sizeofNoArgsCmd = 8) (current : Current station.session)
    (flag : station.session.app.hkTelemetryPkt.deviceEnabled = deviceDisabled ∨
      station.session.app.hkTelemetryPkt.deviceEnabled = deviceEnabled) :
    ((enableFss site).Passes station ↔
      station.session.app.hkTelemetryPkt.deviceEnabled = deviceDisabled ∧
          (∃ uplink, site.lost station.commands uplink = false) ∧
          (configureInit site.plat station.session.app.spi).1 = osSuccess ∨
        station.session.app.hkTelemetryPkt.deviceEnabled = deviceEnabled ∧
          station.session.app.hkTelemetryPkt.commandCount = 255) ∧
    ((enableFss site).Passes station →
      Switched station.session.app deviceDisabled deviceEnabled (configureInit site.plat) (enableFss site station).2.session) :=
  Exactly.judged (enableFss_exactly sized current flag)

/-- `safe_fss` passes exactly if the device is disabled or can be. It ends over a disabled
device, which it closed at most once. -/
theorem safeFss_passes_iff (sized : site.plat.sizeofNoArgsCmd = 8)
    (flag : station.session.app.hkTelemetryPkt.deviceEnabled = deviceEnabled ∨
      station.session.app.hkTelemetryPkt.deviceEnabled = deviceDisabled) :
    ((safeFss site).Passes station ↔
      station.session.app.hkTelemetryPkt.deviceEnabled = deviceDisabled ∨
        (∃ uplink, site.lost station.commands uplink = false) ∧
          (spiCloseDevice site.plat station.session.app.spi).1 = osSuccess) ∧
    ((safeFss site).Passes station →
      Switched station.session.app deviceEnabled deviceDisabled (spiCloseDevice site.plat) (safeFss site station).2.session) :=
  Exactly.judged (safeFss_exactly sized flag)

end Scripts

section Witnesses
open Procedures

/-- Of each command only the third uplink arrives. -/
def thirdTime : Site (List Answer) where
  plat := scripted
  lost _ uplink := decide (uplink.val ≠ 2)
  alphaWithin _ _ := true
  betaWithin _ _ := true
  simCmdbusBridge _ _ world := world

def fresh : Station (List Answer) := ⟨.start (appInit .success (.zero [])).2, 0⟩

theorem enableFss_passes_third_time : (enableFss thirdTime).Passes fresh :=
  (@enableFss_passes_iff _ thirdTime fresh rfl rfl (.inl rfl)).1.mpr (.inl ⟨rfl, ⟨2, rfl⟩, rfl⟩)

theorem safeFss_passes_enabled : (safeFss thirdTime).Passes (enableFss thirdTime fresh).2 :=
  (@safeFss_passes_iff _ thirdTime (enableFss thirdTime fresh).2 rfl (.inl (by decide))).1.mpr (.inr ⟨⟨2, rfl⟩, by decide⟩)

end Witnesses

end GenericFss.Proofs.GroundSwitch
