import GenericFss.Proofs.Chronology

/-! The closed loop once nothing disables the simulator or talks to it in between, whatever it
has been through before. No measurement is lost, sent twice or sent out of order, and
nothing is reported as an error. -/

namespace GenericFss.Proofs.Nominal
open GenericFss Device Simulator ClosedLoop SimulatorFrame SimulatorQueue EndToEnd Chronology

variable {ρ : Type} (setup : Setup ρ)

/-- A backdoor command that neither disables the simulator nor ends its run loop. -/
def Harmless (input : Input) : Prop :=
  ∃ data, input = .command data ∧ matchesWord (data.map Char.toUpper) "DISABLE" = false ∧
    matchesWord (data.map Char.toUpper) "STOP" = false

/-- Nothing but harmless commands reaches the simulator besides the flight software. -/
def Undisturbed : Prop := ∀ transfer, ∀ input ∈ setup.arrivals transfer, Harmless input

abbrev Serves (world : Loop) : Prop := world.slave.fss.enabled = simSuccess

/-- The simulator is enabled, and is left alone from now on. -/
structure Settled (world : Loop) : Prop where
  serves : Serves world
  quiet : ∀ transfer, world.transferred ≤ transfer → ∀ input ∈ setup.arrivals transfer, Harmless input

variable {setup}

theorem Undisturbed.settled {world : Loop} (undisturbed : Undisturbed setup) (serves : Serves world) : Settled setup world :=
  ⟨serves, fun transfer _ => undisturbed transfer⟩

theorem commandCallback_enabled {data : List Char} (other : matchesWord (data.map Char.toUpper) "DISABLE" = false)
    {model : HardwareModel} (enabled : model.enabled = simSuccess) : (commandCallback data model).2.enabled = simSuccess := by
  simp only [commandCallback, other, Bool.false_eq_true, if_false]
  (repeat' split) <;> first | exact enabled | rfl

theorem deliver_harmless {inputs : List Input} (harmless : ∀ input ∈ inputs, Harmless input) {slave : SpiSlaveConnection}
    (enabled : slave.fss.enabled = simSuccess) :
    (deliver setup inputs slave).fss.enabled = simSuccess ∧ (deliver setup inputs slave).fss.samples = slave.fss.samples := by
  induction inputs generalizing slave with
  | nil => exact ⟨enabled, rfl⟩
  | cons input rest ih =>
    obtain ⟨data, rfl, other, _⟩ := harmless input List.mem_cons_self
    obtain ⟨serving, samples⟩ := @ih (fun later member => harmless later (List.mem_cons_of_mem _ member))
      (slaveStep setup.sim slave (.command data)) (commandCallback_enabled other enabled)
    exact ⟨serving, samples.trans (commandCallback_frame data slave.fss).2⟩

section Driver
variable {world : Loop}

theorem Settled.arrived (settled : Settled setup world) :
    (arrived setup world).fss.enabled = simSuccess ∧ (arrived setup world).fss.samples = world.slave.fss.samples :=
  deliver_harmless (settled.quiet world.transferred (Nat.le_refl _)) settled.serves

/-- A transfer takes a data point exactly if it is the request. -/
theorem Settled.exchange {length : Nat} (settled : Settled setup world) (writeData readData : Vector UInt8 length) :
    Settled setup (exchange setup writeData readData world).2 ∧
      (ClosedLoop.exchange setup writeData readData world).2.slave.fss.samples =
        world.slave.fss.samples + if isRequest writeData.toList then 1 else 0 := by
  obtain ⟨enabled, samples⟩ := settled.arrived
  have quiet (transfer : Nat) (later : world.transferred + 1 ≤ transfer) : ∀ input ∈ setup.arrivals transfer, Harmless input :=
    settled.quiet transfer (Nat.le_of_succ_le later)
  simp only [ClosedLoop.exchange, spiWrite, determineSpiResponseForRequest]
  cases request : isRequest writeData.toList with
  | false => exact ⟨⟨enabled, quiet⟩, samples⟩
  | true =>
    simp only [if_true, createGenericFssData_enabled setup.sim _ enabled]
    exact ⟨⟨enabled, quiet⟩, by rw [samples]⟩

/-- A request gives the current data point, and the simulator goes on to the next. -/
theorem Settled.requestData (data : DeviceData) {bus : Bus Loop} (settled : Settled setup bus.world) :
    ∃ after, requestData (platform setup) data bus =
        (osSuccess, measurement setup.sim (setup.sim.dataPoint bus.world.slave.fss.samples), after) ∧
      Settled setup after.world ∧ after.world.slave.fss.samples = bus.world.slave.fss.samples + 1 := by
  obtain ⟨succeeded, stored⟩ := requestData_closedLoop setup bus data
  obtain ⟨enabled, samples⟩ := settled.arrived
  have follows : ReadFollows setup bus.world := by
    intro input member
    obtain ⟨data, same, _⟩ := settled.quiet (bus.world.transferred + 1) (Nat.le_succ _) input member
    exact ⟨data, same⟩
  have request : isRequest (commandFrame (setup.locals bus.world).commandWriteData deviceReqDataCmd).toList = true := by
    rw [Requests.commandFrame_eq]
    decide
  have idle : isRequest (setup.locals bus.world).writeData.toList = false := by simp [isRequest, deviceDataSize]
  obtain ⟨commandSettled, commandSamples⟩ := settled.exchange
    (commandFrame (setup.locals bus.world).commandWriteData deviceReqDataCmd) (setup.locals bus.world).commandReadData
  obtain ⟨readSettled, readSamples⟩ := commandSettled.exchange (setup.locals bus.world).writeData
    (setup.locals bus.world).readData
  rw [request, if_pos rfl] at commandSamples
  rw [idle, commandSamples] at readSamples
  have world := @requestData_world ρ setup data bus
  rw [readBack_measurement setup enabled follows, samples] at stored
  generalize Device.requestData (platform setup) data bus = answer at *
  obtain ⟨status, received, after⟩ := answer
  simp only at succeeded stored world
  rw [succeeded, stored]
  exact ⟨after, rfl, world ▸ readSettled, world ▸ readSamples⟩

theorem requestData_serves (undisturbed : Undisturbed setup) (data : DeviceData) {bus : Bus Loop} (serves : Serves bus.world) :
    ∃ after, requestData (platform setup) data bus =
        (osSuccess, measurement setup.sim (setup.sim.dataPoint bus.world.slave.fss.samples), after) ∧
      Serves after.world ∧ after.world.slave.fss.samples = bus.world.slave.fss.samples + 1 := by
  obtain ⟨after, answer, settled, samples⟩ := (undisturbed.settled serves).requestData data
  exact ⟨after, answer, settled.serves, samples⟩

end Driver

section Requests
open Requests

def isRequested : Call → Bool
  | .requestData _ => true
  | _ => false

theorem Exchange.unrequested {writeData : List UInt8} {calls : List Call} {response : Option (List UInt8)}
    (exchange : Exchange writeData calls response) : calls.countP isRequested = 0 := by
  cases exchange <;> rfl

theorem Request.requested {calls : List Call} {status : Status} {response : Option (Vector UInt8 deviceDataSize)}
    (request : Request calls status response) : calls.countP isRequested = 1 := by
  cases request with
  | commandFailed command => simp [isRequested, List.countP_cons, List.countP_append, Exchange.unrequested command]
  | readFailed command read | answered _ command read =>
    simp [isRequested, List.countP_cons, List.countP_append, Exchange.unrequested command, Exchange.unrequested read]

theorem requestData_requested {σ : Type} (plat : Platform σ) (data : DeviceData) (bus : Bus σ) :
    (requestData plat data bus).2.2.calls.countP isRequested = bus.calls.countP isRequested + 1 := by
  obtain ⟨calls, response, log, request, _⟩ := requestData_request plat data bus
  rw [log, List.countP_append, Request.requested request]

end Requests

/-- The data points that the simulator has taken, as they are measured. -/
def measured (setup : Setup ρ) (samples : Nat) : List DeviceData :=
  (List.range samples).map fun index => measurement setup.sim (setup.sim.dataPoint index)

@[simp] theorem measured_succ (samples : Nat) :
    measured setup (samples + 1) = measured setup samples ++ [measurement setup.sim (setup.sim.dataPoint samples)] := by
  simp [measured, List.range_succ]

section Cfs
open Cfs CfsStep

/-- Since some state one data point has been taken for each request, and each of them has been
sent out once. -/
structure Complete (setup : Setup ρ) (since app : AppData Loop) : Prop where
  settled : Settled setup app.spi.world
  taken : since.spi.world.slave.fss.samples ≤ app.spi.world.slave.fss.samples
  requested : app.spi.calls.countP isRequested + since.spi.world.slave.fss.samples =
    since.spi.calls.countP isRequested + app.spi.world.slave.fss.samples
  sent : devicePackets app = devicePackets since ++
    (measured setup app.spi.world.slave.fss.samples).drop since.spi.world.slave.fss.samples

variable {since app app' : AppData Loop} {asked : Directive}

theorem Complete.start (settled : Settled setup app.spi.world) : Complete setup app app where
  settled := settled
  taken := Nat.le_refl _
  requested := rfl
  sent := by simp [measured]

theorem Step.complete (step : Step (platform setup) app asked app') (complete : Complete setup since app) :
    Complete setup since app' := by
  obtain ⟨settled, taken, requested, sent⟩ := complete
  cases step with
  | noop | resetCounters | enableRefused | disableRefused | dataIgnored | rejected => exact ⟨settled, taken, requested, sent⟩
  | enabled | disabled =>
    refine ⟨settled, taken, ?_, sent⟩
    simpa [spiInitDev, spiCloseDevice, isRequested, platform, Bus.call] using requested
  | enableFailed _ _ failed | disableFailed _ _ failed => exact absurd rfl failed
  | housekeeping => exact ⟨settled, taken, requested, by simpa [devicePackets] using sent⟩
  | dataSent =>
    obtain ⟨after, answer, still, samples⟩ := settled.requestData app.devicePkt
    have asked := requestData_requested (platform setup) app.devicePkt app.spi
    rw [answer] at asked
    rw [request, answer]
    refine ⟨still, by rw [samples]; omega, by rw [asked, samples]; omega, ?_⟩
    have inside : since.spi.world.slave.fss.samples ≤ (measured setup app.spi.world.slave.fss.samples).length := by
      simpa [measured] using taken
    rw [samples, measured_succ, List.drop_append_of_le_length inside, ← List.append_assoc, ← sent]
    simp [devicePackets]
  | dataFailed _ _ failed =>
    obtain ⟨_, answer, _⟩ := settled.requestData app.devicePkt
    rw [request, answer] at failed
    exact absurd rfl failed

/-- In the closed loop no SPI call fails, so no device error is ever counted. -/
theorem appMain_faultless (cfe : InitStatus) (turns : List Turn) :
    (appMain (platform setup) cfe ⟨.construct, 0⟩ turns).app.hkTelemetryPkt.deviceErrorCount = 0 := by
  refine @CfsMain.appMain_preserves _ (platform setup) (fun app => app.hkTelemetryPkt.deviceErrorCount = 0) ?_ ?_ _ _ ?_ turns
  · exact fun _ _ _ => Iff.rfl
  · intro app asked app' step faultless
    cases step with
    | enableFailed _ _ failed | disableFailed _ _ failed => exact absurd rfl failed
    | dataFailed _ _ failed => exact absurd (requestData_closedLoop setup app.spi app.devicePkt).1 failed
    | resetCounters => rfl
    | noop | enabled | enableRefused | disabled | disableRefused | housekeeping => exact faultless
    | dataSent | dataIgnored | rejected => exact faultless
  · rw [(CfsMain.startMain_idle cfe _).1]
    rfl

theorem turn_complete (main : Main Loop) (input : Turn) (complete : Complete setup since main.app) :
    Complete setup since (turn (platform setup) main input).app := by
  refine CfsMain.turn_preserves (platform setup) ?_ (fun _ _ _ => Step.complete) main input complete
  intro app runStatus events
  constructor
  · intro complete
    exact ⟨complete.settled, complete.taken, complete.requested, complete.sent⟩
  · intro complete
    exact ⟨complete.settled, complete.taken, complete.requested, complete.sent⟩

/-- No device error is ever counted. Whatever has happened before, as soon as the simulator is
enabled and left alone the device packets that the application sends are the data points that the
simulator takes, each of them once and in order, and as many as there are requests. -/
theorem appMain_recovers (cfe : InitStatus) (turns later : List Turn) :
    let before := (appMain (platform setup) cfe ⟨.construct, 0⟩ turns).app
    let after := (appMain (platform setup) cfe ⟨.construct, 0⟩ (turns ++ later)).app
    after.hkTelemetryPkt.deviceErrorCount = 0 ∧
      (Settled setup before.spi.world →
        devicePackets after = devicePackets before ++
            (measured setup after.spi.world.slave.fss.samples).drop before.spi.world.slave.fss.samples ∧
          after.spi.calls.countP isRequested + before.spi.world.slave.fss.samples =
            before.spi.calls.countP isRequested + after.spi.world.slave.fss.samples) := by
  intro before after
  refine ⟨appMain_faultless cfe _, ?_⟩
  intro settled
  have continued : appMain (platform setup) cfe ⟨.construct, 0⟩ (turns ++ later) =
      Machine.run (turn (platform setup)) (appMain (platform setup) cfe ⟨.construct, 0⟩ turns) later := List.foldl_append
  have complete : Complete setup before after := by
    simp only [after, continued]
    exact @Machine.run_preserves _ _ (turn (platform setup)) (fun main => Complete setup before main.app) turn_complete _
      (.start settled) later
  exact ⟨complete.sent, complete.requested⟩

/-- The operator enables the simulator, which is enabled already, in the middle of a request. -/
def quietSetup : Setup Unit where
  sim := stillSun
  sizeofNoArgsCmd := 8
  locals _ := ⟨.replicate _ 0, .replicate _ 0, .replicate _ 0, .replicate _ 0⟩
  arrivals transfer := if transfer = 1 then [.command "enable".toList] else []

theorem quietSetup_undisturbed : Undisturbed quietSetup := by
  intro transfer input member
  simp only [quietSetup] at member
  split at member
  next during => exact ⟨"enable".toList, List.mem_singleton.mp member, by decide, by decide⟩
  next before => cases member

def receive (msg : Message) : Turn := ⟨fun runStatus => (true, runStatus), cfeSuccess, msg⟩

/-- The simulator is disabled just before the first request and enabled again during it. -/
def briefOutage : Setup Unit :=
  { quietSetup with arrivals := fun transfer =>
      if transfer = 0 then [.command "disable".toList] else if transfer = 1 then [.command "enable".toList] else [] }

theorem briefOutage_over {transfer : Nat} (later : 2 ≤ transfer) : briefOutage.arrivals transfer = [] := by
  have notFirst : transfer ≠ 0 := by omega
  have notSecond : transfer ≠ 1 := by omega
  exact (if_neg notFirst).trans (if_neg notSecond)

def outage : List Turn := [receive ⟨cmdMid, enableCc, 8⟩, receive ⟨reqHkMid, reqDataTlm, 8⟩]

theorem outage_settled : Settled briefOutage (appMain (platform briefOutage) .success ⟨.construct, 0⟩ outage).app.spi.world := by
  refine ⟨by decide, ?_⟩
  intro transfer later input member
  have two : (appMain (platform briefOutage) .success ⟨.construct, 0⟩ outage).app.spi.world.transferred = 2 := by decide
  rw [briefOutage_over (two ▸ later)] at member
  cases member

/-- ENABLE and a request that comes to nothing; the next one brings the sun that stands still. -/
theorem appMain_recovers_outage :
    let later := [receive ⟨reqHkMid, reqDataTlm, 8⟩]
    devicePackets (appMain (platform briefOutage) .success ⟨.construct, 0⟩ (outage ++ later)).app =
      [⟨0, 0, 0⟩, ⟨0x3F800000, 0x40000000, 0⟩] := by
  intro later
  exact ((appMain_recovers .success outage later).2 outage_settled).1.trans (by decide)

end Cfs

section Fprime
open Fprime FprimeStep

/-- Whether the invocation asks the sensor in this state: the scheduled poll always does. -/
def Asks (component : Component Loop) : Invocation → Prop
  | .updateData => True
  | .command .requestData _ _ => component.hkTelemetryPkt.deviceEnabled = deviceEnabled
  | _ => False

/-- The sensor is asked for one data point, which is stored, or not at all; a poll sends
out what was stored, and nothing is an error. -/
structure UpToDate (setup : Setup ρ) (before : Component Loop) (invocation : Invocation) (after : Component Loop) : Prop where
  asked : Asks before invocation →
    after.fssData = measurement setup.sim (setup.sim.dataPoint before.fssSpi.world.slave.fss.samples) ∧
      after.fssSpi.world.slave.fss.samples = before.fssSpi.world.slave.fss.samples + 1
  unasked : ¬ Asks before invocation →
    after.fssData = before.fssData ∧ after.fssSpi.world.slave.fss.samples = before.fssSpi.world.slave.fss.samples
  sent : fssOutputs after = fssOutputs before ++ if invocation = .updateData then [after.fssData] else []
  faultless : after.hkTelemetryPkt.deviceErrorCount = 0

structure Faultless (component : Component Loop) : Prop where
  serves : Serves component.fssSpi.world
  faultless : component.hkTelemetryPkt.deviceErrorCount = 0

variable {component component' : Component Loop} {invocation : Invocation}

theorem Step.sent {σ : Type} {plat : Platform σ} {component component' : Component σ} {invocation : Invocation}
    (step : Step plat component invocation component') (succeeded : (request plat component).1 = osSuccess) :
    fssOutputs component' = fssOutputs component ++ if invocation = .updateData then [component'.fssData] else [] := by
  by_cases poll : invocation = .updateData
  · subst poll
    cases step with
    | polled => exact fssOutputs_after _ _
    | pollFailed failed => exact absurd succeeded failed
  · rw [step.silent plat poll, if_neg poll, List.append_nil]

theorem Step.upToDate (undisturbed : Undisturbed setup) (step : FprimeStep.Step (platform setup) component invocation component')
    (faultless : Faultless component) : UpToDate setup component invocation component' ∧ Serves component'.fssSpi.world := by
  obtain ⟨serves, errors⟩ := faultless
  obtain ⟨after, answer, still, samples⟩ := requestData_serves undisturbed component.fssData serves
  have answered : request (platform setup) component = _ := answer
  have succeeded : (request (platform setup) component).1 = osSuccess := by rw [answered]
  have sent := Step.sent step succeeded
  cases step with
  | pollFailed failed | dataFailed _ _ failed => exact absurd succeeded failed
  | enableFailed _ _ failed | disableFailed _ _ failed => exact absurd rfl failed
  | polled =>
    rw [answered] at sent ⊢
    exact ⟨⟨fun _ => ⟨rfl, samples⟩, fun none => absurd trivial none, sent, errors⟩, still⟩
  | dataRead _ enabled _ count =>
    rw [answered] at sent ⊢
    exact ⟨⟨fun _ => ⟨rfl, samples⟩, fun none => absurd enabled none, sent, by rw [count]; exact errors⟩, still⟩
  | dataRefused _ disabled count =>
    exact ⟨⟨fun enabled => absurd enabled disabled, fun _ => ⟨rfl, rfl⟩, sent, by rw [count]; exact errors⟩, serves⟩
  | resetCounters _ count => exact ⟨⟨False.elim, fun _ => ⟨rfl, rfl⟩, sent, by rw [count]; rfl⟩, serves⟩
  | reported | housekeepingRefused => exact ⟨⟨False.elim, fun _ => ⟨rfl, rfl⟩, sent, errors⟩, serves⟩
  | enabled _ _ _ count | disabled _ _ _ count | enableRefused _ _ count | disableRefused _ _ count | noop _ count
  | housekeeping _ _ count => exact ⟨⟨False.elim, fun _ => ⟨rfl, rfl⟩, sent, by rw [count]; exact errors⟩, serves⟩

/-- The F' component never misses a data point, stores none twice and reports no device error. -/
theorem dispatch_upToDate (undisturbed : Undisturbed setup) (uninitialized : DeviceData) (device : SpiInfo)
    (invocations : List Invocation) :
    Machine.Always (dispatch (platform setup)) (UpToDate setup)
      (construct (platform setup) uninitialized device ⟨.construct, 0⟩) invocations := by
  have initial : Faultless (construct (platform setup) uninitialized device ⟨.construct, 0⟩) := ⟨rfl, rfl⟩
  refine Machine.Always.intro ?_ ?_ initial invocations
  · intro component invocation faultless
    obtain ⟨upToDate, serves⟩ := Step.upToDate undisturbed (dispatch_step (platform setup) component invocation) faultless
    exact ⟨serves, upToDate.faultless⟩
  · intro component invocation faultless
    exact (Step.upToDate undisturbed (dispatch_step (platform setup) component invocation) faultless).1

/-- A poll of the component that was just constructed with nothing in particular. -/
theorem dispatch_upToDate_polled :
    UpToDate quietSetup (construct (platform quietSetup) ⟨1, 2, 3⟩ .zero ⟨.construct, 0⟩) .updateData
      (dispatch (platform quietSetup) (construct (platform quietSetup) ⟨1, 2, 3⟩ .zero ⟨.construct, 0⟩) .updateData) :=
  (dispatch_upToDate quietSetup_undisturbed ⟨1, 2, 3⟩ .zero [.updateData]).1

end Fprime

end GenericFss.Proofs.Nominal
