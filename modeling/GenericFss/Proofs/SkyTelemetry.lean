import Mathlib.Tactic.TFAE
import GenericFss.Providers
import GenericFss.Proofs.FrameCodec
import GenericFss.Proofs.Nominal
import GenericFss.Proofs.SimulatorTransfers

/-! What the outside can tell of the sky. A data point shows on the bus as the frame it
is measured as and in no other way; two skies whose data points are measured alike are one
to the flight software, and two that are not are told apart by a ground that keeps asking. -/

namespace GenericFss.Proofs.SkyTelemetry
open GenericFss Device Simulator ClosedLoop Requests ResponseFrame FrameCodec SimulatorFrame SimulatorQueue Nominal

variable {ρ τ : Type} {first : Simulation ρ} {second : Simulation τ}

def SameFrames (first : Simulation ρ) (second : Simulation τ) : Prop :=
  ∀ index, frame first (first.dataPoint index) = frame second (second.dataPoint index)

def SameMeasurements (first : Simulation ρ) (second : Simulation τ) : Prop :=
  ∀ index, measurement first (first.dataPoint index) = measurement second (second.dataPoint index)

section Frames

/-- A frame tells the measurement and no more. -/
theorem sameFrames_iff (order : second.byteOrder = first.byteOrder) :
    SameFrames first second ↔ SameMeasurements first second := by
  constructor
  · intro same index
    let received : Vector UInt8 deviceDataSize := ⟨(frame first (first.dataPoint index)).toArray, by simp⟩
    have sent : received.toList = frame first (first.dataPoint index) := rfl
    rw [← carried_frame sent, ← carried_frame (sent.trans (same index)), order]
  · intro same index
    rw [frame, frame, same, order]

end Frames

section Replies

theorem createGenericFssData_congr (same : SameFrames first second) (model : HardwareModel) :
    createGenericFssData first model = createGenericFssData second model := by
  by_cases enabled : model.enabled = simSuccess
  · rw [createGenericFssData_enabled first model enabled, createGenericFssData_enabled second model enabled, same]
  · rw [createGenericFssData_disabled first model enabled, createGenericFssData_disabled second model enabled]

theorem spiWrite_congr (same : SameFrames first second) : spiWrite first = spiWrite second := by
  funext wbuf slave
  simp only [spiWrite, determineSpiResponseForRequest, createGenericFssData_congr same]

theorem slaveStep_congr (same : SameFrames first second) : slaveStep first = slaveStep second := by
  funext slave input
  cases input with
  | command data => rfl
  | transfer wbuf => exact congrFun (congrFun (spiWrite_congr same) wbuf) slave

def asked (count : Nat) : List Input := List.replicate count (.transfer requestBytes)

/-- After a request the frame of its data point is queued. -/
theorem run_asked (sim : Simulation ρ) (count : Nat) :
    (Machine.run (slaveStep sim) .construct (asked (count + 1))).fss =
      ⟨simSuccess, frame sim (sim.dataPoint count), true, count + 1⟩ := by
  have request : isRequest requestBytes = true := rfl
  induction count with
  | zero =>
    simp only [asked, List.replicate_succ, List.replicate_zero, Machine.run_cons, Machine.run_nil, slaveStep, spiWrite,
      determineSpiResponseForRequest, request, if_true]
    exact createGenericFssData_enabled sim .construct rfl
  | succ count ih =>
    rw [asked, List.replicate_succ', Machine.run_concat, ← asked]
    simp only [slaveStep, spiWrite, determineSpiResponseForRequest, request, if_true, ih]
    exact createGenericFssData_enabled sim _ rfl

theorem reply_asked (sim : Simulation ρ) (count : Nat) :
    reply sim (Machine.run (slaveStep sim) .construct (asked (count + 1))) (.replicate 16 0x00) =
      frame sim (sim.dataPoint count) := by
  simp only [reply, spiWrite, determineSpiResponseForRequest, run_asked, List.length_replicate]
  have full := Bytes.resize_self (frame sim (sim.dataPoint count)) (0xFF : UInt8)
  rwa [length_frame] at full

/-- Two simulators answer every transfer of every history alike exactly if their data
points make the same frames. -/
theorem replies_same_iff :
    (∀ inputs wbuf, reply first (Machine.run (slaveStep first) .construct inputs) wbuf =
      reply second (Machine.run (slaveStep second) .construct inputs) wbuf) ↔ SameFrames first second := by
  constructor
  · intro same index
    rw [← reply_asked, same, reply_asked]
  · intro same inputs wbuf
    simp only [reply, slaveStep_congr same, spiWrite_congr same]

end Replies

section FlightSoftware
variable {setup : Setup ρ} {sim : Simulation τ}

/-- The same flight software and the same arrivals below another sky. -/
def below (setup : Setup ρ) (sim : Simulation τ) : Setup τ :=
  { sim, sizeofNoArgsCmd := setup.sizeofNoArgsCmd, locals := setup.locals, arrivals := setup.arrivals }

theorem exchange_below (same : SameFrames setup.sim sim) : @exchange τ (below setup sim) = @exchange ρ setup := by
  funext length writeData readData world
  have arrives : arrived (below setup sim) world = arrived setup world := by
    simp only [arrived, deliver, below, slaveStep_congr same]
  have slaves : spiWrite (below setup sim).sim writeData.toList (arrived (below setup sim) world) =
      spiWrite setup.sim writeData.toList (arrived setup world) := by
    rw [arrives, spiWrite_congr same]
    rfl
  apply Prod.ext
  · apply Vector.toArray_inj.mp
    show List.toArray _ = List.toArray _
    exact congrArg (fun slave => (spiRead readData.toList slave).toArray) slaves
  · exact congrArg (fun slave => (⟨slave, world.transferred + 1⟩ : Loop)) slaves

theorem platform_below (order : sim.byteOrder = setup.sim.byteOrder) (same : SameFrames setup.sim sim) :
    platform (below setup sim) = platform setup := by
  have host : (below setup sim).sim.byteOrder = setup.sim.byteOrder := order
  have size : (below setup sim).sizeofNoArgsCmd = setup.sizeofNoArgsCmd := rfl
  have locals : (below setup sim).locals = setup.locals := rfl
  simp only [platform, exchange_below same, host, size, locals]

section Cfs
open Cfs CfsStep

/-- ENABLE, and then one data request after the other. -/
def requests (setup : Setup ρ) (count : Nat) : List Turn :=
  receive ⟨cmdMid, enableCc, setup.sizeofNoArgsCmd.toNat⟩ :: List.replicate count (receive ⟨reqHkMid, reqDataTlm, 0⟩)

/-- The loop runs, the device is enabled and the simulator has taken `count` data points. -/
structure Asking (setup : Setup ρ) (count : Nat) (main : Main Loop) : Prop where
  running : main.exited = false
  enabled : main.app.hkTelemetryPkt.deviceEnabled = deviceEnabled
  serves : Serves main.app.spi.world
  samples : main.app.spi.world.slave.fss.samples = count
  sent : devicePackets main.app = measured setup count

theorem turn_receive {main : Main Loop} (running : main.exited = false) (msg : Message) :
    turn (platform setup) main (receive msg) = ⟨processCommandPacket (platform setup) main.app msg, false⟩ := by
  simp only [turn, running, Bool.false_eq_true, if_false, receive, if_true]

theorem Asking.request (undisturbed : Undisturbed setup) {count : Nat} {main : Main Loop} (asking : Asking setup count main) :
    Asking setup (count + 1) (turn (platform setup) main (receive ⟨reqHkMid, reqDataTlm, 0⟩)) := by
  obtain ⟨running, enabled, serves, samples, sent⟩ := asking
  have step := processCommandPacket_step (platform setup) main.app ⟨reqHkMid, reqDataTlm, 0⟩
  have asks : directive (platform setup) ⟨reqHkMid, reqDataTlm, 0⟩ = .data := rfl
  obtain ⟨after, answer, still, taken⟩ := requestData_serves undisturbed main.app.devicePkt serves
  rw [turn_receive running]
  generalize processCommandPacket (platform setup) main.app ⟨reqHkMid, reqDataTlm, 0⟩ = app at step ⊢
  rw [asks] at step
  cases step with
  | dataIgnored disabled => exact absurd enabled disabled
  | dataFailed _ _ failed =>
    rw [CfsStep.request, answer] at failed
    exact absurd rfl failed
  | dataSent =>
    rw [CfsStep.request, answer]
    refine ⟨rfl, enabled, still, by rw [taken, samples], ?_⟩
    rw [measured_succ, ← sent, ← samples]
    simp [devicePackets]

theorem Asking.initial : Asking setup 0 (appMain (platform setup) .success ⟨.construct, 0⟩ (requests setup 0)) := by
  obtain ⟨record, _, idle, silent⟩ := CfsMain.startMain_idle .success (⟨.construct, 0⟩ : Loop)
  have start : appMain (platform setup) .success ⟨.construct, 0⟩ (requests setup 0) =
      ⟨processCommandPacket (platform setup) (startMain .success (.zero ⟨.construct, 0⟩)).app
        ⟨cmdMid, enableCc, setup.sizeofNoArgsCmd.toNat⟩, false⟩ :=
    @turn_receive ρ setup (startMain .success (.zero ⟨.construct, 0⟩)) rfl _
  have step := processCommandPacket_step (platform setup) (startMain .success (.zero ⟨.construct, 0⟩)).app
    ⟨cmdMid, enableCc, setup.sizeofNoArgsCmd.toNat⟩
  have enables : directive (platform setup) ⟨cmdMid, enableCc, setup.sizeofNoArgsCmd.toNat⟩ = .enable := by
    simp [directive, platform, enableCc, noopCc, resetCountersCc]
  rw [start]
  generalize (startMain .success (.zero (⟨.construct, 0⟩ : Loop))).app = app at *
  generalize processCommandPacket (platform setup) app _ = app' at step ⊢
  rw [enables] at step
  cases step with
  | enabled =>
    refine ⟨rfl, rfl, ?_, ?_, ?_⟩
    · show app.spi.world.slave.fss.enabled = _
      rw [idle]
      rfl
    · show app.spi.world.slave.fss.samples = _
      rw [idle]
      rfl
    · simp [devicePackets, silent, measured]
  | enableFailed _ _ failed => exact absurd rfl failed
  | enableRefused _ opened => exact absurd (by rw [record]; rfl) opened

theorem appMain_asking (undisturbed : Undisturbed setup) (count : Nat) :
    Asking setup count (appMain (platform setup) .success ⟨.construct, 0⟩ (requests setup count)) := by
  induction count with
  | zero => exact .initial
  | succ count ih =>
    have last : appMain (platform setup) .success ⟨.construct, 0⟩ (requests setup (count + 1)) =
        turn (platform setup) (appMain (platform setup) .success ⟨.construct, 0⟩ (requests setup count))
          (receive ⟨reqHkMid, reqDataTlm, 0⟩) := by
      rw [requests, List.replicate_succ', ← List.cons_append]
      exact Machine.run_concat _ _ _
    rw [last]
    exact ih.request undisturbed

end Cfs

section Fprime
open Fprime FprimeStep

def polls (count : Nat) : List Invocation := List.replicate count .updateData

/-- Each poll has stored and sent the next data point. -/
structure Polled (setup : Setup ρ) (count : Nat) (component : Component Loop) : Prop where
  faultless : Faultless component
  samples : component.fssSpi.world.slave.fss.samples = count
  sent : fssOutputs component = measured setup count

theorem Polled.poll (undisturbed : Undisturbed setup) {count : Nat} {component : Component Loop}
    (polled : Polled setup count component) : Polled setup (count + 1) (dispatch (platform setup) component .updateData) := by
  obtain ⟨faultless, samples, sent⟩ := polled
  have step := dispatch_step (platform setup) component .updateData
  obtain ⟨upToDate, serves⟩ := Nominal.Step.upToDate undisturbed step faultless
  obtain ⟨stored, taken⟩ := upToDate.asked trivial
  refine ⟨⟨serves, upToDate.faultless⟩, by rw [taken, samples], ?_⟩
  rw [upToDate.sent, if_pos rfl, sent, stored, samples, measured_succ]

theorem run_polls (undisturbed : Undisturbed setup) (uninitialized : DeviceData) (device : SpiInfo) (count : Nat) :
    Polled setup count
      (Machine.run (dispatch (platform setup)) (construct (platform setup) uninitialized device ⟨.construct, 0⟩)
        (polls count)) := by
  induction count with
  | zero => exact ⟨⟨rfl, rfl⟩, rfl, rfl⟩
  | succ count ih =>
    rw [polls, List.replicate_succ', Machine.run_concat]
    exact ih.poll undisturbed

end Fprime

section Told
open Cfs CfsStep Fprime FprimeStep

theorem undisturbed_below (undisturbed : Undisturbed setup) : Undisturbed (below setup sim) := undisturbed

theorem measured_last {count : Nat} (same : measured setup (count + 1) = measured (below setup sim) (count + 1)) :
    measurement setup.sim (setup.sim.dataPoint count) = measurement sim (sim.dataPoint count) := by
  rw [measured_succ, measured_succ] at same
  exact List.singleton_inj.mp (List.append_inj' same rfl).2

variable (undisturbed : Undisturbed setup) (order : sim.byteOrder = setup.sim.byteOrder)
include undisturbed order

theorem published_same_iff :
    (∀ cfe turns, (appMain (platform (below setup sim)) cfe ⟨.construct, 0⟩ turns).app.published =
      (appMain (platform setup) cfe ⟨.construct, 0⟩ turns).app.published) ↔ SameMeasurements setup.sim sim := by
  constructor
  · intro same index
    have sent := (appMain_asking undisturbed (index + 1)).sent
    have others := (@appMain_asking τ (below setup sim) (undisturbed_below undisturbed) (index + 1)).sent
    apply measured_last
    rw [← sent, ← others, devicePackets, devicePackets]
    exact congrArg _ (same .success (requests setup (index + 1))).symm
  · intro same cfe turns
    rw [platform_below order ((sameFrames_iff order).mpr same)]

theorem outputs_same_iff :
    (∀ uninitialized device invocations,
      (Machine.run (dispatch (platform (below setup sim)))
        (construct (platform (below setup sim)) uninitialized device ⟨.construct, 0⟩) invocations).outputs =
      (Machine.run (dispatch (platform setup))
        (construct (platform setup) uninitialized device ⟨.construct, 0⟩) invocations).outputs) ↔
      SameMeasurements setup.sim sim := by
  constructor
  · intro same index
    have sent := (run_polls undisturbed ⟨0, 0, 0⟩ .zero (index + 1)).sent
    have others := (@run_polls τ (below setup sim) (undisturbed_below undisturbed) ⟨0, 0, 0⟩ .zero (index + 1)).sent
    apply measured_last
    rw [← sent, ← others, fssOutputs, fssOutputs, same]
  · intro same uninitialized device invocations
    rw [platform_below order ((sameFrames_iff order).mpr same)]

/-- Alike to every ground, over the cFS application or the F' component, are exactly the skies
that are measured alike. -/
theorem telemetry_tfae :
    [SameMeasurements setup.sim sim,
      ∀ cfe turns, (appMain (platform (below setup sim)) cfe ⟨.construct, 0⟩ turns).app.published =
        (appMain (platform setup) cfe ⟨.construct, 0⟩ turns).app.published,
      ∀ uninitialized device invocations,
        (Machine.run (dispatch (platform (below setup sim)))
          (construct (platform (below setup sim)) uninitialized device ⟨.construct, 0⟩) invocations).outputs =
        (Machine.run (dispatch (platform setup))
          (construct (platform setup) uninitialized device ⟨.construct, 0⟩) invocations).outputs].TFAE := by
  tfae_have 1 ↔ 2 := (published_same_iff undisturbed order).symm
  tfae_have 1 ↔ 3 := (outputs_same_iff undisturbed order).symm
  tfae_finish

end Told

def cloudedSun : Simulation Unit :=
  { stillSun with dataPoint := fun index => .ofValues () 0 (if index = 2 then 0 else 1) 0x3FF0000000000000 0x4000000000000000 }

/-- The third data point is not valid: some ground sees it. -/
theorem telemetry_tfae_clouded :
    ¬ ∀ cfe turns, (Cfs.appMain (platform (below quietSetup cloudedSun)) cfe ⟨.construct, 0⟩ turns).app.published =
      (Cfs.appMain (platform quietSetup) cfe ⟨.construct, 0⟩ turns).app.published := by
  intro same
  have measured : SameMeasurements quietSetup.sim cloudedSun :=
    ((@telemetry_tfae _ _ quietSetup cloudedSun quietSetup_undisturbed rfl).out 0 1).mpr same
  exact absurd (measured 2) (by decide)

section Providers
open Cfs Providers

variable {configured : Int32} {records : Nat → ρ} {dp : ρ} {sc : Int16} {blackboards : Nat → BlackboardData}

/-- Record and blackboard say the same, as far as `float` can tell. -/
structure Matches (build : Simulation ρ) (configured : Int32) (record : ρ) (blackboardData : BlackboardData) : Prop where
  valid : ((fss42DataPoint (spacecraft configured) record).parseDataPoint build).valid = true ↔ blackboardData.fssValid ≠ 0
  alpha : build.floatOfDouble ((fss42DataPoint (spacecraft configured) record).parseDataPoint build).alpha =
    build.floatOfDouble blackboardData.fssSunAng0
  beta : build.floatOfDouble ((fss42DataPoint (spacecraft configured) record).parseDataPoint build).beta =
    build.floatOfDouble blackboardData.fssSunAng1

theorem matches_iff (build : Simulation ρ) (record : ρ) (blackboardData : BlackboardData) :
    measurement build (fss42DataPoint (spacecraft configured) record) =
        measurement build (fssShmemDataPoint build dp sc blackboardData) ↔
      Matches build configured record blackboardData := by
  have parsed : (fssShmemDataPoint build dp sc blackboardData).parseDataPoint build =
      .ofValues dp sc blackboardData.fssValid blackboardData.fssSunAng0 blackboardData.fssSunAng1 := rfl
  have flags (valid : Bool) : ((if valid then (0 : UInt8) else 1) = if blackboardData.fssValid != 0 then 0 else 1) ↔
      (valid = true ↔ blackboardData.fssValid ≠ 0) := by
    by_cases unset : blackboardData.fssValid = 0
    · cases valid <;> simp [unset]
    · cases valid <;> simp [unset]
  simp only [measurement, parsed, DataPoint.ofValues, DeviceData.mk.injEq, flags]
  constructor
  · rintro ⟨alpha, beta, valid⟩
    exact ⟨valid, alpha, beta⟩
  · rintro ⟨valid, alpha, beta⟩
    exact ⟨alpha, beta, valid⟩

/-- One provider can take the other's place unnoticed exactly if record and blackboard
match at every data point. -/
theorem providers_interchangeable_iff (undisturbed : Undisturbed setup) (build : Simulation ρ) :
    (∀ cfe turns,
      (appMain (platform (below setup (withShmem build dp sc blackboards))) cfe ⟨.construct, 0⟩ turns).app.published =
        (appMain (platform (below setup (with42 build configured records))) cfe ⟨.construct, 0⟩ turns).app.published) ↔
      ∀ index, Matches build configured (records index) (blackboards index) := by
  have undisturbed : Undisturbed (below setup (with42 build configured records)) := undisturbed
  refine (@published_same_iff ρ ρ _ (withShmem build dp sc blackboards) undisturbed rfl).trans (forall_congr' fun index => ?_)
  exact matches_iff build (records index) (blackboards index)

def brightSun : Simulation Unit :=
  { stillSun with
    getValueForKey := fun _ key => .ok (if key = "SC[0].FSS[0].Valid" then "1" else "1.0 2.0")
    parseDoubleVector := fun _ => .ok [0x3FF0000000000000, 0x4000000000000000] }

/-- The blackboard says what 42 sends for spacecraft 0. -/
theorem providers_interchangeable_iff_bright :
    (appMain (platform (below quietSetup (withShmem brightSun () 7 fun _ => ⟨1, 0x3FF0000000000000, 0x4000000000000000⟩)))
      .success ⟨.construct, 0⟩ (requests quietSetup 3)).app.published =
    (appMain (platform (below quietSetup (with42 brightSun 0 fun _ => ()))) .success ⟨.construct, 0⟩
      (requests quietSetup 3)).app.published := by
  apply (providers_interchangeable_iff quietSetup_undisturbed brightSun).mpr
  intro index
  exact ⟨by decide, by decide, by decide⟩

end Providers

end FlightSoftware

end GenericFss.Proofs.SkyTelemetry
