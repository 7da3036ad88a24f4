import GenericFss.Library.Transducer
import GenericFss.Proofs.CommandFormat
import GenericFss.Proofs.GroundTests
import GenericFss.Proofs.TelemetryFormat

/-! The whole system, from the bytes that a ground system sends to those that it reads, is
one instrument: a record of counters and a sensor that moves on with every measurement. -/

namespace GenericFss.Proofs.SystemRefinement
open GenericFss Device Cfs CfsStep ClosedLoop Simulator SimulatorFrame Uplink Telemetry
open Nominal GroundTests CommandFormat TelemetryFormat

variable {ρ : Type}

/-- The sensor as an operator has to understand it. -/
structure Instrument where
  record : HkTlm
  samples : Nat
deriving DecidableEq, Repr

namespace Instrument
variable (setup : Setup ρ) (instrument : Instrument)

def start : Instrument := ⟨.zero, 0⟩

def enabled : Bool := instrument.record.deviceEnabled = deviceEnabled

def step (asked : Directive) : Instrument where
  record := respond instrument.record asked
  samples := if asked = .data ∧ instrument.enabled then instrument.samples + 1 else instrument.samples

def answer : Directive → Option Packet
  | .housekeeping => some (.housekeeping instrument.record)
  | .data =>
    if instrument.enabled then some (.device (measurement setup.sim (setup.sim.dataPoint instrument.samples))) else none
  | _ => none

end Instrument

section Flight
variable {setup : Setup ρ}

/-- The application and the simulator behind it stand where the instrument stands. -/
structure Stands (app : AppData Loop) (instrument : Instrument) : Prop where
  record : app.hkTelemetryPkt = instrument.record
  samples : app.spi.world.slave.fss.samples = instrument.samples
  serves : Serves app.spi.world

theorem Step.unmeasured {app app' : AppData Loop} {asked : Directive} (step : Step (platform setup) app asked app')
    (idle : ¬ (asked = .data ∧ app.hkTelemetryPkt.deviceEnabled = deviceEnabled)) :
    app'.spi.world = app.spi.world ∧
      app'.published = app.published ++ if asked = .housekeeping then [.housekeeping app.hkTelemetryPkt] else [] := by
  cases step with
  | noop | resetCounters | enableRefused | disableRefused | dataIgnored | rejected => exact ⟨rfl, (List.append_nil _).symm⟩
  | enabled | enableFailed | disabled | disableFailed => exact ⟨rfl, (List.append_nil _).symm⟩
  | housekeeping => exact ⟨rfl, rfl⟩
  | dataSent enabled | dataFailed _ enabled => exact absurd ⟨rfl, enabled⟩ idle

theorem Step.stands (undisturbed : Undisturbed setup) {app app' : AppData Loop} {asked : Directive}
    (step : Step (platform setup) app asked app') {instrument : Instrument} (stands : Stands app instrument) :
    Stands app' (instrument.step asked) ∧ app'.published = app.published ++ (instrument.answer setup asked).toList := by
  obtain ⟨record, samples, serves⟩ := stands
  have record' : app'.hkTelemetryPkt = (instrument.step asked).record := by
    rw [GroundTests.Step.respond step, record]
    rfl
  have serves' := GroundTests.Step.serves undisturbed step serves
  by_cases measures : asked = .data ∧ instrument.enabled
  · obtain ⟨rfl, enabled⟩ := measures
    have opened : app.hkTelemetryPkt.deviceEnabled = deviceEnabled := by
      rw [record]
      exact decide_eq_true_eq.mp enabled
    obtain ⟨published, taken⟩ := GroundTests.Step.measured undisturbed step serves opened
    rw [samples] at published taken
    refine ⟨⟨record', ?_, serves'⟩, ?_⟩
    · rw [taken, Instrument.step, if_pos ⟨rfl, enabled⟩]
    · rw [published, Instrument.answer, if_pos enabled]
      rfl
  · have closed : ¬ (asked = .data ∧ app.hkTelemetryPkt.deviceEnabled = deviceEnabled) := by
      rw [record]
      exact fun both => measures ⟨both.1, decide_eq_true both.2⟩
    obtain ⟨world, published⟩ := Step.unmeasured step closed
    refine ⟨⟨record', ?_, serves'⟩, ?_⟩
    · rw [world, samples, Instrument.step, if_neg measures]
    · rw [published, record]
      cases asked with
      | data =>
        have disabled : ¬ instrument.enabled = true := fun enabled => measures ⟨rfl, enabled⟩
        rw [Instrument.answer, if_neg disabled]
        rfl
      | noop | resetCounters | enable | disable | rejected | housekeeping => rfl

/-- What the header of an uplink asks the application for. -/
def asked (setup : Setup ρ) (parameters : Parameters) : Directive :=
  directive (platform setup)
    ⟨parameters.ccsdsStreamid.toNat, parameters.ccsdsFc.toNat % 128, parameters.ccsdsLength.toNat + 7⟩

/-- A turn of the main loop that receives an uplink, in a flight computer that goes on running. -/
def uplinked (api : MessageApi) (processorEndian : ByteOrder) (parameters : Parameters) : Turn :=
  receive (api.message (parameters.bytes processorEndian))

theorem turn_implements (undisturbed : Undisturbed setup) (api : MessageApi) (processorEndian : ByteOrder) :
    Transducer.Implements Instrument.step (Instrument.answer setup)
      (fun main parameters => turn (platform setup) main (uplinked api processorEndian parameters))
      (fun main => main.app.published) (asked setup)
      (fun main instrument => main.exited = false ∧ Stands main.app instrument) := by
  have taken (main : Cfs.Main Loop) (parameters : Parameters) (running : main.exited = false) :
      turn (platform setup) main (uplinked api processorEndian parameters) =
        ⟨processCommandPacket (platform setup) main.app (api.message (parameters.bytes processorEndian)), false⟩ := by
    simp [turn, uplinked, receive, running]
  have stepped (main : Cfs.Main Loop) (parameters : Parameters) :
      Step (platform setup) main.app (asked setup parameters)
        (processCommandPacket (platform setup) main.app (api.message (parameters.bytes processorEndian))) := by
    have meant : directive (platform setup) (api.message (parameters.bytes processorEndian)) = asked setup parameters := by
      rw [message_bytes, asked]
    exact meant ▸ processCommandPacket_step (platform setup) main.app (api.message (parameters.bytes processorEndian))
  constructor
  · intro main instrument parameters both
    obtain ⟨running, stands⟩ := both
    rw [taken main parameters running]
    exact ⟨rfl, (Step.stands undisturbed (stepped main parameters) stands).1⟩
  · intro main instrument parameters both
    obtain ⟨running, stands⟩ := both
    rw [taken main parameters running]
    exact (Step.stands undisturbed (stepped main parameters) stands).2

/-- The packets that the flight software publishes are the instrument's answers. -/
theorem appMain_published (undisturbed : Undisturbed setup) (api : MessageApi) (processorEndian : ByteOrder)
    (sent : List Parameters) :
    (appMain (platform setup) .success ⟨.construct, 0⟩ (sent.map (uplinked api processorEndian))).app.published =
      Transducer.transcript Instrument.step (Instrument.answer setup) .start (sent.map (asked setup)) := by
  have initial : Stands (startMain .success (.zero (⟨.construct, 0⟩ : Loop))).app .start := ⟨rfl, rfl, rfl⟩
  have published := (turn_implements undisturbed api processorEndian).run (startMain .success (.zero ⟨.construct, 0⟩))
    .start ⟨rfl, initial⟩ sent
  rw [appMain, List.foldl_map]
  exact published

end Flight

section Ground
variable {setup : Setup ρ}

/-- These bytes are the packet, with some header of its own, in a flight computer of that byte order. -/
def Carries (order : ByteOrder) (bytes : List UInt8) (packet : Packet) : Prop :=
  ∃ header, bytes = Telemetry.bytes order packet header

theorem read_downlink (processorEndian order : ByteOrder) {downlink : List (List UInt8)} {packets : List Packet}
    (carries : List.Forall₂ (Carries order) downlink packets) :
    downlink.map (received (cosmos processorEndian)) =
      packets.map fun packet => some (groundPacket (processorBigEndian processorEndian) order packet) := by
  induction carries with
  | nil => rfl
  | cons carried _ ih =>
    obtain ⟨header, rfl⟩ := carried
    rw [List.map_cons, List.map_cons, ih, received_cosmos]

/-- Whatever is sent, with whatever parameters: what the ground reads is what the instrument answers, if
and only if the ground's processor is configured as the flight computer's is, or no answer shows the order. -/
theorem ground_reads_iff (undisturbed : Undisturbed setup) (api : MessageApi) (processorEndian : ByteOrder)
    (sent : List Parameters) (downlink : List (List UInt8))
    (carries : List.Forall₂ (Carries setup.sim.byteOrder) downlink
      (appMain (platform setup) .success ⟨.construct, 0⟩ (sent.map (uplinked api processorEndian))).app.published) :
    downlink.map (received (cosmos processorEndian)) =
        (Transducer.transcript Instrument.step (Instrument.answer setup) .start (sent.map (asked setup))).map some ↔
      processorEndian = setup.sim.byteOrder ∨
        ∀ packet ∈ Transducer.transcript Instrument.step (Instrument.answer setup) .start (sent.map (asked setup)),
          Symmetric packet := by
  rw [appMain_published undisturbed api processorEndian sent] at carries
  rw [read_downlink processorEndian setup.sim.byteOrder carries, List.map_inj_left]
  have configured : processorBigEndian processorEndian = decide (setup.sim.byteOrder = .bigEndian) ↔
      processorEndian = setup.sim.byteOrder := by
    cases processorEndian <;> cases setup.sim.byteOrder <;> simp [processorBigEndian]
  simp only [Option.some_inj, groundPacket_iff, configured]
  by_cases same : processorEndian = setup.sim.byteOrder
  · simp [same]
  · simp [same]

def plainHeader (packet : Packet) : TelemetryHeader (mid packet) where
  streamId := [0x09, UInt8.ofNat (mid packet)]
  others := .replicate 14 0
  streamId_length := rfl
  others_length := List.length_replicate
  streamId_mid := by cases packet <;> simp [mid, Layout.number, hkTlmMid, deviceTlmMid]

def enabledReading : List Parameters := [Command.enableCc.defaults, Command.reqData.defaults, Command.reqHk.defaults]

/-- ENABLE, REQ_DATA and REQ_HK, as the database has them, on a ground that is configured right. -/
theorem ground_reads_session :
    let app := (appMain (platform quietSetup) .success ⟨.construct, 0⟩
      (enabledReading.map (uplinked documentedApi .littleEndian))).app
    let downlink := app.published.map fun packet => Telemetry.bytes .littleEndian packet (plainHeader packet)
    downlink.map (received (cosmos .littleEndian)) =
      [some (.device ⟨0x3F800000, 0x40000000, 0⟩), some (.housekeeping ⟨0, 1, 0, 2, 1⟩)] := by
  intro app downlink
  have carries : List.Forall₂ (Carries .littleEndian) downlink app.published := by
    rw [List.forall₂_map_left_iff, List.forall₂_same]
    exact fun packet _ => ⟨plainHeader packet, rfl⟩
  have read := (ground_reads_iff quietSetup_undisturbed documentedApi .littleEndian enabledReading downlink carries).mpr
    (.inl rfl)
  exact read.trans (by decide)

end Ground

end GenericFss.Proofs.SystemRefinement
