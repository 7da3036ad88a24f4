import GenericFss.Proofs.GroundSwitch
import GenericFss.Proofs.Nominal

/-! The test procedures against a working sensor: no SPI call fails and no uplink is lost. The
application then only counts, so a procedure's verdict is a condition on the counters it finds. -/

namespace GenericFss.Proofs.GroundTests
open GenericFss Device Cfs Ground CfsStep ClosedLoop Simulator GroundRetry GroundSwitch Nominal

variable {ρ : Type} {setup : Setup ρ}

/-- What is left of the application where no SPI call fails. -/
def respond (hk : HkTlm) : Directive → HkTlm
  | .noop => hk.countCommand
  | .resetCounters => hk.resetCounters
  | .enable =>
    if hk.deviceEnabled = deviceDisabled then hk.countCommand.countDevice.setEnabled deviceEnabled else hk.countCommandError
  | .disable =>
    if hk.deviceEnabled = deviceEnabled then hk.countCommand.countDevice.setEnabled deviceDisabled else hk.countCommandError
  | .housekeeping => hk
  | .data => if hk.deviceEnabled = deviceEnabled then hk.countDevice else hk
  | .rejected => hk.countCommandError

theorem respond_data {hk : HkTlm} (opened : hk.deviceEnabled = deviceEnabled) : respond hk .data = hk.countDevice := if_pos opened

section Application
variable {app app' : AppData Loop} {asked : Directive}

theorem Step.respond (step : Step (platform setup) app asked app') : app'.hkTelemetryPkt = respond app.hkTelemetryPkt asked := by
  cases step with
  | noop | resetCounters | housekeeping | rejected => rfl
  | enabled _ closed | enableRefused _ closed | disabled _ closed | disableRefused _ closed => simp [GroundTests.respond, closed]
  | dataSent enabled | dataIgnored enabled => simp [GroundTests.respond, enabled]
  | enableFailed _ _ failed | disableFailed _ _ failed => exact absurd rfl failed
  | dataFailed _ _ failed => exact absurd (EndToEnd.requestData_closedLoop setup app.spi app.devicePkt).1 failed

theorem Step.serves (undisturbed : Undisturbed setup) (step : Step (platform setup) app asked app')
    (serves : Serves app.spi.world) :
    Serves app'.spi.world := by
  cases step with
  | noop | resetCounters | enableRefused | disableRefused | housekeeping | dataIgnored | rejected => exact serves
  | enabled | enableFailed | disabled | disableFailed => exact serves
  | dataSent | dataFailed =>
    obtain ⟨after, answer, still, _⟩ := requestData_serves undisturbed app.devicePkt serves
    rw [request, answer]
    exact still

theorem Step.measured (undisturbed : Undisturbed setup) (step : Step (platform setup) app .data app')
    (serves : Serves app.spi.world) (opened : app.hkTelemetryPkt.deviceEnabled = deviceEnabled) :
    app'.published = app.published ++
        [.device (SimulatorFrame.measurement setup.sim (setup.sim.dataPoint app.spi.world.slave.fss.samples))] ∧
      app'.spi.world.slave.fss.samples = app.spi.world.slave.fss.samples + 1 := by
  cases step with
  | dataIgnored closed => exact absurd opened closed
  | dataFailed _ _ failed => exact absurd (EndToEnd.requestData_closedLoop setup app.spi app.devicePkt).1 failed
  | dataSent =>
    obtain ⟨after, answer, _, taken⟩ := requestData_serves undisturbed app.devicePkt serves
    rw [request, answer]
    exact ⟨rfl, taken⟩

end Application

/-- A bench with a working sensor: nothing disables the simulator but the bridge, the first uplink of
every command arrives, and what the sensor measures is within the tolerance of the comparison. -/
structure Bench (ρ : Type) where
  setup : Setup ρ
  commandNode : String
  lost : Nat → Fin 3 → Bool
  alphaWithin : Loop → UInt32 → Bool
  betaWithin : Loop → UInt32 → Bool
  undisturbed : Undisturbed setup
  sized : setup.sizeofNoArgsCmd = 8
  arrives : ∀ command, lost command 0 = false
  calibrated : ∀ world sample, world.slave.fss.samples = sample + 1 →
    let data := SimulatorFrame.measurement setup.sim (setup.sim.dataPoint sample)
    data.errorCode = 0 → alphaWithin world data.alpha = true ∧ betaWithin world data.beta = true

section Scripts
open Procedures Procedure

def Bench.site (bench : Bench ρ) : Site Loop :=
  closedLoopSite bench.setup bench.commandNode bench.lost bench.alphaWithin bench.betaWithin

/-- What the ground was told last and what the flight software counts. Where `serving` holds, the
simulator works. -/
structure At (serving : Prop) (ground flight : HkTlm) (station : Station Loop) : Prop where
  ground : station.hkTlm = ground
  flight : station.session.app.hkTelemetryPkt = flight
  serves : serving → Serves station.world

variable (bench : Bench ρ) {serving : Prop} {ground flight hk : HkTlm} {station : Station Loop}

theorem At.deliver (stands : At serving ground flight station) (msg : Message) (commands : Nat) :
    At serving ground (respond flight (directive bench.site.plat msg))
      ⟨station.session.deliver bench.site.plat msg, commands⟩ := by
  have step := processCommandPacket_step (platform bench.setup) station.session.app msg
  refine ⟨stands.ground, ?_, fun working => Step.serves bench.undisturbed step (stands.serves working)⟩
  rw [← stands.flight]
  exact Step.respond step

theorem request_exactly (msg : Message) :
    Exactly (At serving ground flight) (request bench.site msg) True
      fun _ => At serving ground (respond flight (directive bench.site.plat msg)) :=
  .act fun _ stands => stands.deliver bench msg _

theorem cmd_exactly (command : Message) :
    Exactly (At serving ground flight) (Procedures.cmd bench.site command) True
      fun _ => At serving ground (respond flight (directive bench.site.plat command)) := by
  refine .act fun station stands => ?_
  have arrives : bench.site.lost station.commands onlyUplink = false := bench.arrives station.commands
  rw [Ground.cmd, arrives, if_neg Bool.false_ne_true]
  exact stands.deliver bench command _

theorem getFssHk_exactly :
    Exactly (At serving ground flight) (Procedures.getFssHk bench.site) True fun _ => At serving flight flight := by
  refine .act fun station stands => ?_
  rw [getFssHk_eq, deliver_reqHk]
  exact ⟨stands.flight, stands.flight, stands.serves⟩

/-- A command that is accepted is confirmed and acted on once. -/
theorem fssCmd_accepted {command : Message} {asked : Directive} (directs : directive bench.site.plat command = asked)
    (accepts : ∀ app : AppData Loop, app.hkTelemetryPkt = hk → Accepts bench.site.plat app command) :
    Exactly (At serving hk hk) (Procedures.fssCmd bench.site command) True
      fun _ => At serving (respond hk asked) (respond hk asked) := by
  subst directs
  have carried (station : Station Loop) (stands : At serving hk hk station) :=
    @fssCmd_delivered _ _ _ _ (accepts _ stands.flight) (stands.ground.trans stands.flight.symm)
      (bench.site.lost station.commands) ⟨0, bench.arrives station.commands⟩
  constructor
  · intro station stands
    rw [(fssCmd_exactly station command).passes_iff station rfl]
    exact iff_true_intro (carried station stands).1
  · intro station value stands passed
    have ended := (fssCmd_exactly station command).ends station value rfl passed
    obtain ⟨_, heard, same⟩ := carried station stands
    have acted := stands.deliver bench command 0
    have record := (Prod.mk.inj same).1.trans acted.flight
    have bus := (Prod.mk.inj (Prod.mk.inj same).2).2
    constructor
    · rw [Station.hkTlm, ended]
      exact heard.trans record
    · rw [ended]
      exact record
    · intro working
      rw [Station.world, ended, bus]
      exact acted.serves working

theorem directive_command (fcnCode : Nat) :
    directive bench.site.plat (ccsdsCommand 0x1920 fcnCode) =
      if fcnCode = noopCc then .noop else if fcnCode = resetCountersCc then .resetCounters
      else if fcnCode = enableCc then .enable else if fcnCode = disableCc then .disable else .rejected := by
  have sized : bench.site.plat.sizeofNoArgsCmd.toNat = 8 := congrArg UInt16.toNat bench.sized
  simp only [directive, ccsdsCommand, cmdMid, sized, if_true]
  rfl

theorem directive_missized (fcnCode excess : Nat) :
    directive bench.site.plat (ccsdsCommand 0x1920 fcnCode (excess + 2)) = .rejected := by
  have sized : bench.site.plat.sizeofNoArgsCmd.toNat = 8 := congrArg UInt16.toNat bench.sized
  simp [directive, ccsdsCommand, cmdMid, sized]

theorem directive_enable : directive bench.site.plat Procedures.enable = .enable := directive_command bench 2

theorem directive_disable : directive bench.site.plat Procedures.disable = .disable := directive_command bench 3

theorem directive_reqData : directive bench.site.plat reqData = .data := by
  simp [directive, reqData, ccsdsCommand, cmdMid, reqHkMid, reqHkTlm, reqDataTlm]

theorem fssCmd_noop :
    Exactly (At serving hk hk) (Procedures.fssCmd bench.site Procedures.noop) True
      fun _ => At serving hk.countCommand hk.countCommand :=
  fssCmd_accepted bench (directive_command bench 0) fun app _ => noop_accepts app (directive_command bench 0)

theorem enableFss_disabled (closed : hk.deviceEnabled = deviceDisabled) :
    Exactly (At serving hk hk) (enableFss bench.site) True
      fun _ => At serving (hk.countCommand.countDevice.setEnabled deviceEnabled)
        (hk.countCommand.countDevice.setEnabled deviceEnabled) := by
  have sent := @fssCmd_accepted _ bench serving hk _ _ (directive_enable bench) fun app same =>
    ((enable_switches bench.sized).carried app (same ▸ closed)).1
  have acted : respond hk .enable = hk.countCommand.countDevice.setEnabled deviceEnabled := if_pos closed
  rw [acted] at sent
  exact sent.andThen fun _ => Exactly.check fun station stands => by simp [stands.ground]

theorem disableFss_enabled (opened : hk.deviceEnabled = deviceEnabled) :
    Exactly (At serving hk hk) (disableFss bench.site) True
      fun _ => At serving (hk.countCommand.countDevice.setEnabled deviceDisabled)
        (hk.countCommand.countDevice.setEnabled deviceDisabled) := by
  have sent := @fssCmd_accepted _ bench serving hk _ _ (directive_disable bench) fun app same =>
    ((disable_switches bench.sized).carried app (same ▸ opened)).1
  have acted : respond hk .disable = hk.countCommand.countDevice.setEnabled deviceDisabled := if_pos opened
  rw [acted] at sent
  exact sent.andThen fun _ => Exactly.check fun station stands => by simp [stands.ground]

theorem eq_max_iff (count : UInt8) : count = 255 ↔ count.toNat = 255 := by
  rw [← UInt8.toNat_inj]
  rfl

/-- An error is counted and nothing else, unless the count wraps. -/
theorem confirmRejected_exactly {command : Message}
    (rejects : respond hk (directive bench.site.plat command) = hk.countCommandError) :
    Exactly (At serving hk hk) (confirmRejected bench.site command) (hk.commandErrorCount ≠ 255)
      fun _ => At serving hk.countCommandError hk.countCommandError := by
  refine .readKnown (fun _ stands => congrArg HkTlm.commandCount stands.ground) ?_
  refine .readKnown (fun _ stands => congrArg HkTlm.commandErrorCount stands.ground) ?_
  have sent := @cmd_exactly _ bench serving hk hk command
  refine sent.andThen fun _ => (getFssHk_exactly bench).andThen fun _ => ?_
  rw [rejects]
  refine Exactly.andThen (.check fun station stands => ?_) fun _ => .check fun station stands => ?_
  · simp [stands.ground]
  · have bound := hk.commandErrorCount.toNat_lt
    simp [stands.ground, eq_max_iff]
    omega

/-- What the scripts call the data: the last packet is the point the simulator took last. -/
def Measured (bench : Bench ρ) (station : Station Loop) : Prop :=
  ∃ sample, station.world.slave.fss.samples = sample + 1 ∧
    station.dataTlm = SimulatorFrame.measurement bench.setup.sim (bench.setup.sim.dataPoint sample)

/-- One more packet has arrived. -/
theorem At.request (stands : At True ground flight station) (opened : flight.deviceEnabled = deviceEnabled) :
    let after : Station Loop := { station with session := station.session.deliver bench.site.plat reqData }
    At True ground flight.countDevice after ∧ Measured bench after ∧ after.deviceTlm.length = station.deviceTlm.length + 1 := by
  have delivered := stands.deliver bench reqData station.commands
  have step := processCommandPacket_step (platform bench.setup) station.session.app reqData
  rw [directive_reqData, respond_data opened] at delivered
  have directed : directive (platform bench.setup) reqData = .data := directive_reqData bench
  rw [directed] at step
  obtain ⟨published, taken⟩ := Step.measured bench.undisturbed step (stands.serves trivial) (stands.flight ▸ opened)
  have received : ({ station with session := station.session.deliver bench.site.plat reqData } : Station Loop).deviceTlm =
      station.deviceTlm ++ [SimulatorFrame.measurement bench.setup.sim
        (bench.setup.sim.dataPoint station.session.app.spi.world.slave.fss.samples)] := by
    rw [Station.deviceTlm, devicePackets]
    exact (congrArg _ published).trans List.filterMap_append
  exact ⟨delivered, ⟨_, taken, by simp [Station.dataTlm, received]⟩, by simp [received]⟩

theorem getFssData_exactly (opened : flight.deviceEnabled = deviceEnabled) :
    Exactly (At True ground flight) (getFssData bench.site) True
      fun _ station => At True ground flight.countDevice station ∧ Measured bench station := by
  refine .read fun received => ?_
  have arrived : Exactly (fun station => At True ground flight station ∧ station.deviceTlm.length = received)
      (request bench.site reqData) True fun _ station =>
        (At True ground flight.countDevice station ∧ Measured bench station) ∧ station.deviceTlm.length = received + 1 := by
    refine .act fun station ⟨stands, count⟩ => ?_
    obtain ⟨delivered, measured, more⟩ := stands.request bench opened
    exact ⟨⟨delivered, measured⟩, count ▸ more⟩
  refine arrived.andThen fun _ => Exactly.weaken (.check fun station known => ?_) (fun _ same => same) fun _ _ known => known.1
  simp [known.2]

theorem checkTolerance_exactly (fssError : UInt8) :
    Exactly (fun station => (At True ground flight station ∧ Measured bench station) ∧ station.dataTlm.errorCode = fssError)
      (checkTolerance bench.site fssError) True fun _ => At True ground flight := by
  rw [checkTolerance]
  split
  next valid =>
    have within (station : Station Loop) (measured : Measured bench station) (found : station.dataTlm.errorCode = fssError) :
        bench.site.alphaWithin station.world station.dataTlm.alpha = true ∧
          bench.site.betaWithin station.world station.dataTlm.beta = true := by
      obtain ⟨sample, taken, same⟩ := measured
      have calibrated := bench.calibrated station.world sample taken
      rw [← same] at calibrated
      exact calibrated (found.trans valid)
    refine Exactly.andThen (.check ?_) fun _ => Exactly.weaken (.check ?_) (fun _ known => known) fun _ _ known => known.1.1
    · exact fun station known => iff_true_intro (within station known.1.2 known.2).1
    · exact fun station known => iff_true_intro (within station known.1.2 known.2).2
  next => exact .pure fun _ ⟨⟨stands, _⟩, _⟩ => stands

/-- The check that the count has not gone back fails when it wraps. -/
theorem deviceCount_exactly :
    Exactly (At serving hk.countDevice hk.countDevice)
      (Procedure.check fun station => station.hkTlm.deviceCount.toNat ≥ hk.deviceCount.toNat) (hk.deviceCount ≠ 255)
      fun _ => At serving hk.countDevice hk.countDevice := by
  refine .check fun station stands => ?_
  have bound := hk.deviceCount.toNat_lt
  simp [stands.ground, eq_max_iff]
  omega

theorem confirmFssData_exactly (opened : hk.deviceEnabled = deviceEnabled) :
    Exactly (At True hk hk) (confirmFssData bench.site) (hk.deviceCount ≠ 255) fun _ => At True hk.countDevice hk.countDevice := by
  refine .readKnown (fun _ stands => congrArg HkTlm.deviceCount stands.ground) ?_
  refine .readKnown (fun _ stands => congrArg HkTlm.deviceErrorCount stands.ground) ?_
  refine (getFssData_exactly bench opened).andThen fun _ => .read fun fssError => ?_
  refine (checkTolerance_exactly bench fssError).andThen fun _ => (getFssHk_exactly bench).andThen fun _ => ?_
  refine (deviceCount_exactly.bind fun _ _ => .check fun station stands => ?_).congr (and_iff_left trivial)
  simp [stands.ground]

def counted (hk : HkTlm) (times : Nat) : HkTlm := { hk with deviceCount := hk.deviceCount + UInt8.ofNat times }

@[simp] theorem counted_zero : counted hk 0 = hk := by simp [counted]

@[simp] theorem countDevice_counted (times : Nat) : (counted hk times).countDevice = counted hk (times + 1) := by
  simp [counted, HkTlm.countDevice, UInt8.ofNat_add, UInt8.add_assoc]

/-- None of the five counts that are compared is the last before a wrap. -/
theorem rounds_iff (count : UInt8) :
    (∀ n, 0 ≤ n → n < 0 + genericFssDeviceLoopCount → count + UInt8.ofNat n ≠ 255) ↔ count.toNat < 251 := by
  have bound := count.toNat_lt
  have sum (n : Nat) (below : n < 5) : count + UInt8.ofNat n = 255 ↔ count.toNat + n = 255 := by
    rw [eq_max_iff, UInt8.toNat_add, UInt8.toNat_ofNat']
    omega
  constructor
  · intro rounds
    refine Nat.lt_of_not_le fun large => ?_
    exact rounds (255 - count.toNat) (Nat.zero_le _) (show _ < 5 by omega) ((sum _ (by omega)).mpr (by omega))
  · intro small n _ below
    have below : n < 5 := Nat.zero_add 5 ▸ below
    rw [ne_eq, sum n below]
    omega

theorem confirmFssDataLoop_exactly (opened : hk.deviceEnabled = deviceEnabled) :
    Exactly (At True hk hk) (confirmFssDataLoop bench.site) (hk.deviceCount.toNat < 251)
      fun _ => At True (counted hk 5) (counted hk 5) := by
  have round (n : Nat) := @confirmFssData_exactly _ bench (counted hk n) opened
  simp only [countDevice_counted] at round
  have rounds := Exactly.forRange round 0 genericFssDeviceLoopCount
  rw [counted_zero] at rounds
  exact rounds.congr (rounds_iff hk.deviceCount)

/-- Where `safe_fss` takes the device. -/
def safed (hk : HkTlm) : HkTlm :=
  if hk.deviceEnabled = deviceDisabled then hk else hk.countCommand.countDevice.setEnabled deviceDisabled

theorem safeFss_safed (flag : hk.deviceEnabled = deviceDisabled ∨ hk.deviceEnabled = deviceEnabled) :
    Exactly (At serving ground hk) (safeFss bench.site) True fun _ => At serving (safed hk) (safed hk) := by
  refine (getFssHk_exactly bench).andThen fun _ => .readKnown (fun _ stands => congrArg HkTlm.deviceEnabled stands.ground) ?_
  rw [safed]
  split
  next closed => exact .pure fun _ stands => stands
  next opened => exact disableFss_enabled bench (flag.resolve_left opened)

theorem clear_exactly :
    Exactly (At serving hk hk) (do
        Procedures.fssCmd bench.site Procedures.noop
        Procedures.cmd bench.site rstCounters
        Procedures.getFssHk bench.site
        .check fun station => station.hkTlm.commandCount = 0
        .check fun station => station.hkTlm.commandErrorCount = 0) True
      fun _ => At serving hk.resetCounters hk.resetCounters := by
  have cleared := @cmd_exactly _ bench serving hk.countCommand hk.countCommand rstCounters
  have acted : respond hk.countCommand (directive bench.site.plat rstCounters) = hk.resetCounters :=
    congrArg (respond hk.countCommand) (directive_command bench 1)
  rw [acted] at cleared
  refine (fssCmd_noop bench).andThen fun _ => cleared.andThen fun _ => (getFssHk_exactly bench).andThen fun _ => ?_
  refine Exactly.andThen (.check ?_) fun _ => .check ?_
  all_goals exact fun station stands => by simp [stands.ground]

/-- The counters are cleared before anything is counted that could wrap. -/
theorem runGenericFssAppTest_exactly :
    Exactly (At serving hk hk) (runGenericFssAppTest bench.site) True
      fun _ => At serving hk.resetCounters.countCommandError.countCommandError
        hk.resetCounters.countCommandError.countCommandError := by
  refine Exactly.andThen (.once (getFssHk_exactly bench)) fun _ => ?_
  refine Exactly.andThen (.once (fssCmd_noop bench)) fun _ => ?_
  refine Exactly.andThen (.once (clear_exactly bench)) fun _ => ?_
  refine Exactly.congr (.bind (.once (confirmRejected_exactly bench ?_)) fun _ _ => .once (confirmRejected_exactly bench ?_)) ?_
  · rw [directive_missized]
    rfl
  · rw [directive_command]
    rfl
  · exact iff_of_true ⟨by simp, by simp⟩ trivial

theorem safed_disabled : (safed hk).deviceEnabled = deviceDisabled := by
  rw [safed]
  split
  next closed => exact closed
  next => rfl

theorem disable_rejected (closed : hk.deviceEnabled = deviceDisabled) :
    respond hk (directive bench.site.plat Procedures.disable) = hk.countCommandError := by
  rw [directive_disable]
  exact if_neg (closed ▸ deviceEnabled_ne.symm)

theorem enable_rejected (opened : hk.deviceEnabled = deviceEnabled) :
    respond hk (directive bench.site.plat Procedures.enable) = hk.countCommandError := by
  rw [directive_enable]
  exact if_neg (opened ▸ deviceEnabled_ne)

def running (hk : HkTlm) : HkTlm := hk.countCommand.countDevice.setEnabled deviceEnabled

/-- Where the device test leaves a device that it found disabled: two rejections, and a count
for each of the thirteen successes. -/
def deviceTested (hk : HkTlm) : HkTlm :=
  (counted (counted (running hk.countCommandError).countDevice 5).countCommandError 5).countCommand.countDevice.setEnabled
    deviceDisabled

theorem deviceTested_deviceCount : (deviceTested hk).deviceCount = hk.deviceCount + 13 := by
  simp [deviceTested, counted, running, UInt8.add_assoc]

theorem runGenericFssDeviceTest_exactly (flag : hk.deviceEnabled = deviceDisabled ∨ hk.deviceEnabled = deviceEnabled) :
    Exactly (At True ground hk) (runGenericFssDeviceTest bench.site)
      ((safed hk).commandErrorCount.toNat < 254 ∧ ((safed hk).deviceCount + 2).toNat < 246)
      fun _ => At True (deviceTested (safed hk)) (deviceTested (safed hk)) := by
  refine .once ((safeFss_safed bench flag).andThen fun _ => ?_)
  refine Exactly.congr (.bind (confirmRejected_exactly bench (disable_rejected bench safed_disabled)) fun _ _ =>
    .andThen (enableFss_disabled bench safed_disabled) fun _ =>
    .andThen (getFssData_exactly bench rfl) fun _ =>
    .andThen ((getFssHk_exactly bench).weaken (fun _ known => known.1) fun _ _ stands => stands) fun _ =>
    .bind (confirmFssDataLoop_exactly bench rfl) fun _ _ =>
    .bind (confirmRejected_exactly bench (enable_rejected bench rfl)) fun _ _ =>
    .bind (confirmFssDataLoop_exactly bench rfl) fun _ _ =>
    disableFss_enabled bench rfl) ?_
  have errors := (safed hk).commandErrorCount.toNat_lt
  have successes := (safed hk).deviceCount.toNat_lt
  simp [counted, eq_max_iff]
  omega

theorem simCommand_exactly {after : Prop} (command : String)
    (serves : ∀ world, (serving → Serves world) → after →
      Serves (bench.site.simCmdbusBridge "sample-command" command.toList world)) :
    Exactly (At serving ground flight) (simCommand bench.site command) True fun _ => At after ground flight :=
  .act fun station stands => ⟨stands.ground, stands.flight, serves station.world stands.serves⟩

/-- A bridge that addresses another node is not answered, so DISABLE and then ENABLE leave the simulator working. -/
theorem fssSimDisable_exactly :
    Exactly (At True ground flight) (fssSimDisable bench.site) True
      fun _ => At (bench.commandNode ≠ "sample-command") ground flight := by
  refine simCommand_exactly bench "DISABLE" fun world working other => ?_
  have ignored : bench.site.simCmdbusBridge "sample-command" "DISABLE".toList world = world := if_neg other.symm
  rw [ignored]
  exact working trivial

theorem fssSimEnable_exactly :
    Exactly (At (bench.commandNode ≠ "sample-command") ground flight) (fssSimEnable bench.site) True
      fun _ => At True ground flight := by
  refine simCommand_exactly bench "ENABLE" fun world working _ => ?_
  by_cases addressed : "sample-command" = bench.commandNode
  · have answered : bench.site.simCmdbusBridge "sample-command" "ENABLE".toList world =
        { world with slave := slaveStep bench.setup.sim world.slave (.command "ENABLE".toList) } := if_pos addressed
    have help : matchesWord ("ENABLE".toList.map Char.toUpper) "HELP" = false := by decide
    have enable : matchesWord ("ENABLE".toList.map Char.toUpper) "ENABLE" = true := by decide
    rw [answered]
    simp only [Serves, slaveStep, commandCallback, help, enable, Bool.false_eq_true, if_false, if_true]
  · have ignored : bench.site.simCmdbusBridge "sample-command" "ENABLE".toList world = world := if_neg addressed
    rw [ignored]
    exact working fun same => addressed same.symm

theorem fssPrepareAst_exactly (flag : hk.deviceEnabled = deviceDisabled ∨ hk.deviceEnabled = deviceEnabled) :
    Exactly (At True ground hk) (fssPrepareAst bench.site) ((running (safed hk)).deviceCount.toNat < 251)
      fun _ => At True (counted (running (safed hk)) 5) (counted (running (safed hk)) 5) :=
  (safeFss_safed bench flag).andThen fun _ =>
    (enableFss_disabled bench safed_disabled).andThen fun _ => confirmFssDataLoop_exactly bench rfl

/-- Where the test of the simulator leaves a device that it found disabled. -/
def astTested (hk : HkTlm) : HkTlm := counted (counted (running hk) 5).countDevice 5

theorem runGenericFssAstTest_exactly (flag : hk.deviceEnabled = deviceDisabled ∨ hk.deviceEnabled = deviceEnabled) :
    Exactly (At True ground hk) (runGenericFssAstTest bench.site) (((safed hk).deviceCount + 1).toNat < 245)
      fun _ => At True (astTested (safed hk)) (astTested (safed hk)) := by
  have requested := @request_exactly _ bench (bench.commandNode ≠ "sample-command") (counted (running (safed hk)) 5)
    (counted (running (safed hk)) 5) reqData
  rw [directive_reqData, respond_data rfl] at requested
  refine .once (Exactly.congr (.bind (fssPrepareAst_exactly bench flag) fun _ _ =>
    .readKnown (fun _ stands => congrArg HkTlm.deviceCount stands.ground) <|
    .readKnown (fun _ stands => congrArg HkTlm.deviceErrorCount stands.ground) <|
    .andThen (fssSimDisable_exactly bench) fun _ =>
    .andThen requested fun _ =>
    .andThen (getFssHk_exactly bench) fun _ =>
    .bind deviceCount_exactly fun _ _ =>
    .andThen (.check fun station stands => ?_) fun _ =>
    .andThen (fssSimEnable_exactly bench) fun _ =>
    confirmFssDataLoop_exactly bench rfl) ?_)
  · simp [stands.ground, counted]
  · have successes := (safed hk).deviceCount.toNat_lt
    simp [counted, running, eq_max_iff]
    omega

section Ruby

theorem genericFssDeviceTestRb_exactly (flag : hk.deviceEnabled = deviceDisabled ∨ hk.deviceEnabled = deviceEnabled) :
    Exactly (At True ground hk) (genericFssDeviceTestRb bench.site)
      ((safed hk).commandErrorCount.toNat < 254 ∧ ((safed hk).deviceCount + 1).toNat < 246) fun _ _ => True := by
  refine .once ((safeFss_safed bench flag).andThen fun _ => ?_)
  refine Exactly.congr (.bind (confirmRejected_exactly bench (disable_rejected bench safed_disabled)) fun _ _ =>
    .andThen (enableFss_disabled bench safed_disabled) fun _ =>
    .bind (confirmFssDataLoop_exactly bench rfl) fun _ _ =>
    .bind (confirmRejected_exactly bench (enable_rejected bench rfl)) fun _ _ =>
    .bind (confirmFssDataLoop_exactly bench rfl) fun _ _ =>
    (disableFss_enabled bench rfl).weaken (fun _ stands => stands) fun _ _ _ => trivial) ?_
  have errors := (safed hk).commandErrorCount.toNat_lt
  have successes := (safed hk).deviceCount.toNat_lt
  simp [counted, eq_max_iff]
  omega

/-- What it compares while the simulator is disabled is the ground's own copy with itself. -/
theorem genericFssAstTestRb_exactly (flag : hk.deviceEnabled = deviceDisabled ∨ hk.deviceEnabled = deviceEnabled) :
    Exactly (At True ground hk) (genericFssAstTestRb bench.site) (((safed hk).deviceCount + 1).toNat < 246) fun _ _ => True := by
  refine .once (Exactly.congr (.bind (fssPrepareAst_exactly bench flag) fun _ _ =>
    .readKnown (fun _ stands => congrArg HkTlm.deviceCount stands.ground) <|
    .readKnown (fun _ stands => congrArg HkTlm.deviceErrorCount stands.ground) <|
    .andThen (fssSimDisable_exactly bench) fun _ =>
    .andThen (.check fun station stands => ?_) fun _ =>
    .andThen (.check fun station stands => ?_) fun _ =>
    .andThen (fssSimEnable_exactly bench) fun _ =>
    (confirmFssDataLoop_exactly bench rfl).weaken (fun _ stands => stands) fun _ _ _ => trivial) ?_)
  · simp [stands.ground]
  · simp [stands.ground]
  · have successes := (safed hk).deviceCount.toNat_lt
    simp [counted, running]
    omega

end Ruby

theorem safed_eq (closed : hk.deviceEnabled = deviceDisabled) : safed hk = hk := if_pos closed

theorem group_exactly {scripts : Procedure (Station Loop) Unit} {condition : Prop} {after : HkTlm}
    (flag : hk.deviceEnabled = deviceDisabled ∨ hk.deviceEnabled = deviceEnabled)
    (flag' : after.deviceEnabled = deviceDisabled ∨ after.deviceEnabled = deviceEnabled)
    (judged : Exactly (At True (safed hk) (safed hk)) scripts condition fun _ => At True after after) :
    Exactly (At True ground hk) (group bench.site scripts) condition fun _ => At True (safed after) (safed after) :=
  (safeFss_safed bench flag).andThen fun _ =>
    (judged.bind fun _ _ => safeFss_safed bench flag').congr (and_iff_left trivial)

theorem safed_deviceTested : safed (deviceTested hk) = deviceTested hk := safed_eq rfl

def functionalTested (hk : HkTlm) : HkTlm := deviceTested (safed hk).resetCounters.countCommandError.countCommandError

/-- The device test runs over the counters that the application test has cleared. -/
theorem genericFssFunctionalTest_exactly (flag : hk.deviceEnabled = deviceDisabled ∨ hk.deviceEnabled = deviceEnabled) :
    Exactly (At True ground hk) (genericFssFunctionalTest bench.site) True
      fun _ => At True (functionalTested hk) (functionalTested hk) := by
  have cleared : (safed hk).resetCounters.countCommandError.countCommandError.deviceEnabled = deviceDisabled := @safed_disabled hk
  have device := @runGenericFssDeviceTest_exactly _ bench (safed hk).resetCounters.countCommandError.countCommandError
    (safed hk).resetCounters.countCommandError.countCommandError (.inl cleared)
  rw [safed_eq cleared] at device
  have judged := @group_exactly _ bench ground _ _ _ _ flag (.inl rfl) ((runGenericFssAppTest_exactly bench).bind fun _ _ => device)
  rw [safed_deviceTested] at judged
  exact judged.congr (iff_of_true ⟨trivial, by simp, by simp⟩ trivial)

theorem genericFssAutomatedScenarioTest_exactly (flag : hk.deviceEnabled = deviceDisabled ∨ hk.deviceEnabled = deviceEnabled) :
    Exactly (At True ground hk) (genericFssAutomatedScenarioTest bench.site) (((safed hk).deviceCount + 1).toNat < 245)
      fun _ => At True (safed (astTested (safed hk))) (safed (astTested (safed hk))) := by
  have ast := @runGenericFssAstTest_exactly _ bench (safed hk) (safed hk) (.inl safed_disabled)
  rw [safed_eq safed_disabled] at ast
  exact group_exactly bench flag (.inr rfl) ast

/-- The whole suite passes whatever the counters are when it starts. -/
theorem genericFssTest_exactly (flag : hk.deviceEnabled = deviceDisabled ∨ hk.deviceEnabled = deviceEnabled) :
    Exactly (At True ground hk) (genericFssTest bench.site) True
      fun _ station => Current station.session ∧ station.session.app.hkTelemetryPkt.deviceEnabled = deviceDisabled := by
  have functional := @genericFssFunctionalTest_exactly _ bench (safed hk) (safed hk) (.inl safed_disabled)
  have scenario := @genericFssAutomatedScenarioTest_exactly _ bench (functionalTested (safed hk)) (functionalTested (safed hk))
    (.inl rfl)
  have few : ((safed (functionalTested (safed hk))).deviceCount + 1).toNat < 245 := by
    rw [functionalTested, safed_deviceTested, deviceTested_deviceCount]
    exact (by decide : ((0 : UInt8) + 13 + 1).toNat < 245)
  have judged := @group_exactly _ bench ground _ _ _ _ flag (.inl safed_disabled) (functional.andThen fun _ => scenario)
  refine (judged.congr (iff_of_true few trivial)).weaken (fun _ stands => stands) fun _ station stands => ?_
  exact ⟨stands.ground.trans stands.flight.symm, stands.flight ▸ safed_disabled⟩

end Scripts

section Verdicts
open Procedures Procedure
variable (bench : Bench ρ) {station : Station Loop}

theorem stands (serves : Serves station.world) : At True station.hkTlm station.session.app.hkTelemetryPkt station :=
  ⟨rfl, rfl, fun _ => serves⟩

theorem safed_counts (hk : HkTlm) : (safed hk).commandErrorCount = hk.commandErrorCount ∧
    (safed hk).deviceCount = if hk.deviceEnabled = deviceDisabled then hk.deviceCount else hk.deviceCount + 1 := by
  rw [safed]
  split <;> exact ⟨rfl, rfl⟩

/-- With a working sensor the device test passes exactly if the error count has room for two more
and the device count, once it has counted the first request, for ten. -/
theorem runGenericFssDeviceTest_passes_iff (serves : Serves station.world)
    (flag : station.session.app.hkTelemetryPkt.deviceEnabled = deviceDisabled ∨
      station.session.app.hkTelemetryPkt.deviceEnabled = deviceEnabled) :
    let hk := station.session.app.hkTelemetryPkt
    (runGenericFssDeviceTest bench.site).Passes station ↔ hk.commandErrorCount.toNat < 254 ∧
      (hk.deviceCount + if hk.deviceEnabled = deviceDisabled then 2 else 3).toNat < 246 := by
  intro hk
  rw [(runGenericFssDeviceTest_exactly bench flag).passes_iff station (stands serves), (safed_counts _).1, (safed_counts _).2]
  split <;> simp [hk, UInt8.add_assoc]

/-- The two scripts in Ruby fail for the same reason as those in Python, only one count later:
that the simulator was disabled in between leaves no trace in their verdict. -/
theorem genericFssTestsRb_passes_iff (serves : Serves station.world)
    (flag : station.session.app.hkTelemetryPkt.deviceEnabled = deviceDisabled ∨
      station.session.app.hkTelemetryPkt.deviceEnabled = deviceEnabled) :
    let hk := station.session.app.hkTelemetryPkt
    let opened := (hk.deviceCount + if hk.deviceEnabled = deviceDisabled then 1 else 2).toNat
    ((genericFssDeviceTestRb bench.site).Passes station ↔ hk.commandErrorCount.toNat < 254 ∧ opened < 246) ∧
      ((genericFssAstTestRb bench.site).Passes station ↔ opened < 246) := by
  intro hk opened
  have total : ((safed hk).deviceCount + 1).toNat = opened := by
    simp only [opened, (safed_counts _).2]
    split <;> simp [UInt8.add_assoc]
  rw [(genericFssDeviceTestRb_exactly bench flag).passes_iff station (stands serves),
    (genericFssAstTestRb_exactly bench flag).passes_iff station (stands serves), total, (safed_counts _).1]
  exact ⟨Iff.rfl, Iff.rfl⟩

/-- The suite passes whatever the counters are when it starts, since its first test clears them. It
leaves the device disabled and the ground informed. -/
theorem genericFssTest_passes (serves : Serves station.world)
    (flag : station.session.app.hkTelemetryPkt.deviceEnabled = deviceDisabled ∨
      station.session.app.hkTelemetryPkt.deviceEnabled = deviceEnabled) :
    (genericFssTest bench.site).Passes station ∧
      Current (genericFssTest bench.site station).2.session ∧
      (genericFssTest bench.site station).2.session.app.hkTelemetryPkt.deviceEnabled = deviceDisabled := by
  have judged := @genericFssTest_exactly _ bench station.hkTlm _ flag
  have passes := (judged.passes_iff station (stands serves)).mpr trivial
  obtain ⟨value, passed⟩ := Option.isSome_iff_exists.mp passes
  exact ⟨passes, judged.ends station value (stands serves) passed⟩

theorem quietSetup_measurement (sample : Nat) :
    SimulatorFrame.measurement quietSetup.sim (quietSetup.sim.dataPoint sample) = ⟨0x3F800000, 0x40000000, 0⟩ := by
  have still : SimulatorFrame.measurement quietSetup.sim (quietSetup.sim.dataPoint 0) = ⟨0x3F800000, 0x40000000, 0⟩ := by decide
  exact still

theorem quietSetup_sized : quietSetup.sizeofNoArgsCmd = 8 := rfl

def repeatsLost (_ : Nat) (uplink : Fin 3) : Bool := decide (uplink.val ≠ 0)

theorem repeatsLost_first (command : Nat) : repeatsLost command 0 = false := rfl

/-- The node of the simulator's configuration is not the one that the command database addresses. -/
def stillBench : Bench Unit where
  setup := quietSetup
  commandNode := "fss-command"
  lost := repeatsLost
  alphaWithin _ alpha := decide (alpha = 0x3F800000)
  betaWithin _ beta := decide (beta = 0x40000000)
  undisturbed := quietSetup_undisturbed
  sized := quietSetup_sized
  arrives := repeatsLost_first
  calibrated _ sample _ _ :=
    ⟨decide_eq_true (congrArg DeviceData.alpha (quietSetup_measurement sample)),
      decide_eq_true (congrArg DeviceData.beta (quietSetup_measurement sample))⟩

def bootStation : Station Loop := ⟨.start (appInit .success (.zero ⟨.construct, 0⟩)).2, 0⟩

theorem runGenericFssDeviceTest_passes_boot : (runGenericFssDeviceTest stillBench.site).Passes bootStation :=
  (runGenericFssDeviceTest_passes_iff stillBench rfl (.inl rfl)).mpr (by decide)

theorem genericFssTestsRb_passes_boot :
    (genericFssDeviceTestRb stillBench.site).Passes bootStation ∧ (genericFssAstTestRb stillBench.site).Passes bootStation :=
  have passes := @genericFssTestsRb_passes_iff _ stillBench bootStation rfl (.inl rfl)
  ⟨passes.1.mpr (by decide), passes.2.mpr (by decide)⟩

theorem genericFssTest_passes_boot : (genericFssTest stillBench.site).Passes bootStation :=
  (genericFssTest_passes stillBench rfl (.inl rfl)).1

end Verdicts

end GenericFss.Proofs.GroundTests
