import GenericFss.Library.Machine
import GenericFss.Proofs.CfsStep
import GenericFss.Proofs.EndToEnd

/-! The cFS application, the driver and the simulator together. A simulator that is
disabled when the command of a request arrives should show up as a device error; no
bus call fails, so the application counts a success instead. -/

namespace GenericFss.Proofs.FailureReport
open GenericFss Device Cfs Simulator ClosedLoop CfsStep EndToEnd

variable {ρ : Type} (setup : Setup ρ)

def Polls (app : AppData Loop) (msg : Message) : Prop :=
  directive (platform setup) msg = .data ∧ app.hkTelemetryPkt.deviceEnabled = deviceEnabled

def Serving (app : AppData Loop) : Prop := (arrived setup app.spi.world).fss.enabled = simSuccess

/-- A request that finds the simulator disabled is an error and sends nothing out;
one that finds it enabled sends the current data. -/
structure Reported (before after : AppData Loop) : Prop where
  failure : ¬ Serving setup before →
    after.hkTelemetryPkt.deviceErrorCount = before.hkTelemetryPkt.deviceErrorCount + 1 ∧
      after.hkTelemetryPkt.deviceCount = before.hkTelemetryPkt.deviceCount ∧ devicePackets after = devicePackets before
  recovery : Serving setup before →
    after.hkTelemetryPkt.deviceCount = before.hkTelemetryPkt.deviceCount + 1 ∧
      devicePackets after = devicePackets before ++
        [SimulatorFrame.measurement setup.sim (setup.sim.dataPoint (arrived setup before.spi.world).fss.samples)]

def FailureReported (before : AppData Loop) (msg : Message) (after : AppData Loop) : Prop :=
  Polls setup before msg → Reported setup before after

def PolledWhileServing (before : AppData Loop) (msg : Message) (_ : AppData Loop) : Prop :=
  Polls setup before msg → Serving setup before

/-- The simulator is enabled for the command, and no foreign transfer comes before the read. -/
def PolledUndisturbed (before : AppData Loop) (msg : Message) (_ : AppData Loop) : Prop :=
  Polls setup before msg → Serving setup before ∧ ReadFollows setup before.spi.world

/-- In the closed loop every data request that is carried out counts as a success. -/
theorem poll_closedLoop (app : AppData Loop) (msg : Message) (polls : Polls setup app msg) :
    let after := processCommandPacket (platform setup) app msg
    after.hkTelemetryPkt.deviceCount = app.hkTelemetryPkt.deviceCount + 1 ∧
      devicePackets after = devicePackets app ++
        [Requests.store setup.sim.byteOrder app.devicePkt (some (readBack setup app.spi.world))] := by
  intro after
  obtain ⟨succeeded, stored⟩ := requestData_closedLoop setup app.spi app.devicePkt
  have step := processCommandPacket_step (platform setup) app msg
  rw [polls.1] at step
  change Step (platform setup) app .data after at step
  generalize after = app' at step ⊢
  cases step with
  | dataIgnored disabled => exact absurd polls.2 disabled
  | dataFailed _ _ failed => exact absurd succeeded failed
  | dataSent => exact ⟨rfl, by simp [devicePackets, CfsStep.request, stored]⟩

variable {setup}

theorem failureReported_step (app : AppData Loop) (msg : Message)
    (polled : PolledUndisturbed setup app msg (processCommandPacket (platform setup) app msg)) :
    FailureReported setup app msg (processCommandPacket (platform setup) app msg) := by
  intro polls
  obtain ⟨serving, follows⟩ := polled polls
  obtain ⟨counted, sent⟩ := poll_closedLoop setup app msg polls
  constructor
  · intro silent
    exact absurd serving silent
  · intro _
    refine ⟨counted, ?_⟩
    rw [sent, readBack_measurement setup serving follows]

theorem serving_of_failureReported (app : AppData Loop) (msg : Message)
    (reported : FailureReported setup app msg (processCommandPacket (platform setup) app msg)) :
    PolledWhileServing setup app msg (processCommandPacket (platform setup) app msg) := by
  intro polls
  apply Classical.byContradiction
  intro silent
  -- The counter that should have stayed has moved.
  have unchanged := ((reported polls).failure silent).2.1
  rw [(poll_closedLoop setup app msg polls).1] at unchanged
  simp at unchanged

variable (setup)

/-- A run reports every failure of the simulator if each request that it carries out finds the
simulator enabled and is read at once, and no run with a request of a disabled simulator does. -/
theorem failureReported_undisturbed (app : AppData Loop) (msgs : List Message) :
    (Machine.Always (processCommandPacket (platform setup)) (PolledUndisturbed setup) app msgs →
      Machine.Always (processCommandPacket (platform setup)) (FailureReported setup) app msgs) ∧
      (Machine.Always (processCommandPacket (platform setup)) (FailureReported setup) app msgs →
        Machine.Always (processCommandPacket (platform setup)) (PolledWhileServing setup) app msgs) :=
  ⟨Machine.Always.imp failureReported_step, Machine.Always.imp serving_of_failureReported⟩

/-- The simulator is disabled, asked by someone else and enabled again before the flight software asks. -/
def recoveredSetup : Setup Unit :=
  { abandonedSetup with arrivals := fun n =>
      if n = 0 then [.command "DISABLE".toList, .transfer Requests.requestBytes, .command "ENABLE".toList] else [] }

/-- ENABLE, then the first request after the outage: the sun that stands still is sent. -/
theorem failureReported_undisturbed_recovered :
    devicePackets (Machine.run (processCommandPacket (platform recoveredSetup))
      (appInit .success (.zero ⟨.construct, 0⟩)).2 [⟨cmdMid, enableCc, 8⟩, ⟨reqHkMid, reqDataTlm, 8⟩]) =
        [⟨0x3F800000, 0x40000000, 0⟩] := by
  have reported := (failureReported_undisturbed recoveredSetup (appInit .success (.zero ⟨.construct, 0⟩)).2
    [⟨cmdMid, enableCc, 8⟩, ⟨reqHkMid, reqDataTlm, 8⟩]).1
      ⟨fun polls => absurd polls.1 (by decide), fun _ => ⟨show (_ = _) by decide, fun _ member => nomatch member⟩, trivial⟩
  obtain ⟨_, law, _⟩ := reported
  have recovery := (law ⟨by decide, by decide⟩).recovery (show (_ = _) by decide)
  exact recovery.2.trans (by decide)

def disabledSetup : Setup Unit :=
  { abandonedSetup with arrivals := fun n => if n = 0 then [.command "DISABLE".toList] else [] }

/-- ENABLE, then a request of the disabled simulator: DeviceCount moves, DeviceErrorCount does not. -/
theorem failureReported_fails :
    ¬ Machine.Always (processCommandPacket (platform disabledSetup)) (FailureReported disabledSetup)
        (appInit .success (.zero ⟨.construct, 0⟩)).2 [⟨cmdMid, enableCc, 8⟩, ⟨reqHkMid, reqDataTlm, 8⟩] := by
  intro ⟨_, law, _⟩
  have reported := law ⟨by decide, by decide⟩
  have failure := reported.failure (show ¬ (_ = _) by decide)
  exact absurd failure.1 (by decide)

end GenericFss.Proofs.FailureReport
