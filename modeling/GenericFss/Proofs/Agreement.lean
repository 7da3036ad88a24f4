import GenericFss.Library.Machine
import GenericFss.Proofs.CfsStep
import GenericFss.Proofs.FprimeStep
import GenericFss.Script

/-! The two flight applications in lock step. They start from equal records, data
and devices and may have different pasts; what they do from then on is the same. -/

namespace GenericFss.Proofs.Agreement
open GenericFss Device Cfs Fprime CfsStep FprimeStep Requests

inductive Matched : Directive → Invocation → Prop where
  | noop (opCode cmdSeq : UInt32) : Matched .noop (.command .noop opCode cmdSeq)
  | resetCounters (opCode cmdSeq : UInt32) : Matched .resetCounters (.command .resetCounters opCode cmdSeq)
  | enable (opCode cmdSeq : UInt32) : Matched .enable (.command .enable opCode cmdSeq)
  | disable (opCode cmdSeq : UInt32) : Matched .disable (.command .disable opCode cmdSeq)
  | poll : Matched .data .updateData

variable {σ : Type} (plat : Platform σ)

structure Operation where
  message : Message
  invocation : Invocation
  matched : Matched (directive plat message) invocation

def cfsStep (app : AppData σ) (operation : Operation plat) : AppData σ :=
  processCommandPacket plat app operation.message

def fprimeStep (component : Component σ) (operation : Operation plat) : Component σ :=
  dispatch plat component operation.invocation

def PolledWhileEnabled (app : AppData σ) (operation : Operation plat) : Prop :=
  directive plat operation.message = .data → app.hkTelemetryPkt.deviceEnabled = deviceEnabled

/-- Equal up to the calls and the outputs each had made before. -/
structure Agree (log log' : List Call) (sent sent' : List DeviceData) (app : AppData σ) (component : Component σ) :
    Prop where
  record : app.hkTelemetryPkt = component.hkTelemetryPkt
  data : app.devicePkt = component.fssData
  spi : ∃ bus, app.spi = preceded log bus ∧ component.fssSpi = preceded log' bus
  output : ∃ triples, devicePackets app = sent ++ triples ∧ fssOutputs component = sent' ++ triples

section Steps
variable {plat} {log log' : List Call} {sent sent' : List DeviceData} {app app' : AppData σ} {component : Component σ}

theorem Agree.quiet (agree : Agree log log' sent sent' app component) {invocation : Invocation}
    {component' : Component σ} (step : FprimeStep.Step plat component invocation component')
    (notPoll : invocation ≠ .updateData) (published : devicePackets app' = devicePackets app)
    (record : app'.hkTelemetryPkt = component'.hkTelemetryPkt) (data : app'.devicePkt = component'.fssData)
    (spi : ∃ bus, app'.spi = preceded log bus ∧ component'.fssSpi = preceded log' bus) :
    Agree log log' sent sent' app' component' := by
  obtain ⟨triples, sentBoth⟩ := agree.output
  exact ⟨record, data, spi, triples, published ▸ sentBoth.1, (step.silent plat notPoll).trans sentBoth.2⟩

theorem Agree.opening (plat : Platform σ) (agree : Agree log log' sent sent' app component) :
    ∃ status bus, CfsStep.opening plat app = (status, preceded log bus) ∧
      FprimeStep.opening plat component = (status, preceded log' bus) := by
  obtain ⟨bus, spi, spi'⟩ := agree.spi
  have both (log : List Call) := spiInitDev_preceded plat log { bus with device := bus.device.configure }
  exact ⟨_, _, by rw [CfsStep.opening, spi]; exact both log, by rw [FprimeStep.opening, spi']; exact both log'⟩

theorem Agree.closing (plat : Platform σ) (agree : Agree log log' sent sent' app component) :
    ∃ status bus, CfsStep.closing plat app = (status, preceded log bus) ∧
      FprimeStep.closing plat component = (status, preceded log' bus) := by
  obtain ⟨bus, spi, spi'⟩ := agree.spi
  exact ⟨_, _, by rw [CfsStep.closing, spi, spiCloseDevice_preceded],
    by rw [FprimeStep.closing, spi', spiCloseDevice_preceded]⟩

theorem Agree.request (plat : Platform σ) (agree : Agree log log' sent sent' app component) :
    ∃ status data bus, CfsStep.request plat app = (status, data, preceded log bus) ∧
      FprimeStep.request plat component = (status, data, preceded log' bus) := by
  obtain ⟨bus, spi, spi'⟩ := agree.spi
  exact ⟨_, _, _, by rw [CfsStep.request, spi, requestData_preceded],
    by rw [FprimeStep.request, spi', ← agree.data, requestData_preceded]⟩

/-- Whatever the cFS application does to a request, the component can do as well. -/
theorem Step.follow {asked : Directive} {invocation : Invocation} (step : CfsStep.Step plat app asked app')
    (matched : Matched asked invocation)
    (polled : asked = .data → app.hkTelemetryPkt.deviceEnabled = deviceEnabled)
    (agree : Agree log log' sent sent' app component) :
    ∃ component', FprimeStep.Step plat component invocation component' ∧
      Agree log log' sent sent' app' component' := by
  have record := agree.record
  have data := agree.data
  have spi := agree.spi
  have flag := congrArg HkTlm.deviceEnabled record
  obtain ⟨opened, openedBus, opening, opening'⟩ := agree.opening plat
  obtain ⟨closed, closedBus, closing, closing'⟩ := agree.closing plat
  obtain ⟨answered, fresh, answeredBus, request, request'⟩ := agree.request plat
  have spiOpened : ∃ bus, (CfsStep.opening plat app).2 = preceded log bus ∧
      (FprimeStep.opening plat component).2 = preceded log' bus :=
    ⟨openedBus, congrArg Prod.snd opening, congrArg Prod.snd opening'⟩
  have spiClosed : ∃ bus, (CfsStep.closing plat app).2 = preceded log bus ∧
      (FprimeStep.closing plat component).2 = preceded log' bus :=
    ⟨closedBus, congrArg Prod.snd closing, congrArg Prod.snd closing'⟩
  cases step with
  | noop =>
    cases matched with
    | noop opCode cmdSeq =>
      have step : FprimeStep.Step plat component (.command .noop opCode cmdSeq) _ :=
        .noop "" rfl
      exact ⟨_, step, agree.quiet step nofun rfl (congrArg HkTlm.countCommand record) data spi⟩
  | resetCounters =>
    cases matched with
    | resetCounters opCode cmdSeq =>
      have step : FprimeStep.Step plat component (.command .resetCounters opCode cmdSeq) _ :=
        .resetCounters "" rfl
      exact ⟨_, step, agree.quiet step nofun rfl (congrArg HkTlm.resetCounters record) data spi⟩
  | enabled _ free succeeded =>
    cases matched with
    | enable opCode cmdSeq =>
      rw [opening] at succeeded
      have step : FprimeStep.Step plat component (.command .enable opCode cmdSeq) _ :=
        .enabled "" (flag ▸ free) (opening' ▸ succeeded) rfl
      have counted := congrArg (·.countCommand.countDevice.setEnabled deviceEnabled) record
      exact ⟨_, step, agree.quiet step nofun rfl counted data spiOpened⟩
  | enableFailed _ free failed =>
    cases matched with
    | enable opCode cmdSeq =>
      rw [opening] at failed
      have step : FprimeStep.Step plat component (.command .enable opCode cmdSeq) _ :=
        .enableFailed "" (flag ▸ free) (opening' ▸ failed) rfl
      have counted := congrArg (·.countCommand.countDeviceError) record
      exact ⟨_, step, agree.quiet step nofun rfl counted data spiOpened⟩
  | enableRefused _ busy =>
    cases matched with
    | enable opCode cmdSeq =>
      have step : FprimeStep.Step plat component (.command .enable opCode cmdSeq) _ :=
        .enableRefused "" (flag ▸ busy) rfl
      exact ⟨_, step, agree.quiet step nofun rfl (congrArg HkTlm.countCommandError record) data spi⟩
  | disabled _ busy succeeded =>
    cases matched with
    | disable opCode cmdSeq =>
      rw [closing] at succeeded
      have step : FprimeStep.Step plat component (.command .disable opCode cmdSeq) _ :=
        .disabled "" (flag ▸ busy) (closing' ▸ succeeded) rfl
      have counted := congrArg (·.countCommand.countDevice.setEnabled deviceDisabled) record
      exact ⟨_, step, agree.quiet step nofun rfl counted data spiClosed⟩
  | disableFailed _ busy failed =>
    cases matched with
    | disable opCode cmdSeq =>
      rw [closing] at failed
      have step : FprimeStep.Step plat component (.command .disable opCode cmdSeq) _ :=
        .disableFailed "" (flag ▸ busy) (closing' ▸ failed) rfl
      have counted := congrArg (·.countCommand.countDeviceError) record
      exact ⟨_, step, agree.quiet step nofun rfl counted data spiClosed⟩
  | disableRefused _ free =>
    cases matched with
    | disable opCode cmdSeq =>
      have step : FprimeStep.Step plat component (.command .disable opCode cmdSeq) _ :=
        .disableRefused "" (flag ▸ free) rfl
      exact ⟨_, step, agree.quiet step nofun rfl (congrArg HkTlm.countCommandError record) data spi⟩
  | dataSent _ succeeded =>
    cases matched
    obtain ⟨triples, published, output⟩ := agree.output
    rw [request] at succeeded
    refine ⟨_, .polled (request' ▸ succeeded), congrArg HkTlm.countDevice record, ?_, ⟨answeredBus, ?_, ?_⟩,
      triples ++ [fresh], ?_, ?_⟩
    · simp only [request, request']
    · simp only [request]
    · simp only [request']
    · rw [← List.append_assoc, ← published]
      simp [devicePackets, request]
    · rw [fssOutputs_after, request', ← List.append_assoc, ← output]
      rfl
  | dataFailed _ _ failed =>
    cases matched
    obtain ⟨triples, published, output⟩ := agree.output
    rw [request] at failed
    refine ⟨_, .pollFailed (request' ▸ failed), congrArg HkTlm.countDeviceError record, ?_, ⟨answeredBus, ?_, ?_⟩,
      triples, published, ?_⟩
    · simp only [request, request']
    · simp only [request]
    · simp only [request']
    · rw [fssOutputs_after]
      simpa [fssOutputs] using output
  | dataIgnored free => exact absurd (polled rfl) free
  | housekeeping | rejected => cases matched

theorem Agree.step (agree : Agree log log' sent sent' app component) (operation : Operation plat)
    (polled : PolledWhileEnabled plat app operation) :
    Agree log log' sent sent' (cfsStep plat app operation) (fprimeStep plat component operation) := by
  obtain ⟨component', step, after⟩ :=
    Step.follow (processCommandPacket_step plat app operation.message) operation.matched polled agree
  obtain ⟨record, data, spi, output⟩ := step.deterministic plat (dispatch_step plat component operation.invocation)
  refine ⟨?_, ?_, ?_, ?_⟩
  · exact after.record.trans record.symm
  · exact after.data.trans data.symm
  · obtain ⟨bus, here, there⟩ := after.spi
    exact ⟨bus, here, spi.trans there⟩
  · obtain ⟨triples, here, there⟩ := after.output
    exact ⟨triples, here, output.trans there⟩

end Steps

theorem eq_preceded (bus : Bus σ) : bus = preceded bus.calls ⟨bus.world, bus.device, []⟩ := by simp [preceded]

/-- The applications agree: from equal records, data, devices and worlds, after any
operations whose polls respect the flag, the records, data and devices are equal
again, and the calls and the sun data added on the way are the same. -/
theorem applications_agree (app : AppData σ) (component : Component σ) (operations : List (Operation plat))
    (record : app.hkTelemetryPkt = component.hkTelemetryPkt) (data : app.devicePkt = component.fssData)
    (device : app.spi.device = component.fssSpi.device) (world : app.spi.world = component.fssSpi.world)
    (polled : Machine.Always (cfsStep plat) (fun app operation _ => PolledWhileEnabled plat app operation) app operations) :
    let app' := Machine.run (cfsStep plat) app operations
    let component' := Machine.run (fprimeStep plat) component operations
    app'.hkTelemetryPkt = component'.hkTelemetryPkt ∧
      app'.devicePkt = component'.fssData ∧
      app'.spi.device = component'.fssSpi.device ∧
      (∃ calls, app'.spi.calls = app.spi.calls ++ calls ∧ component'.fssSpi.calls = component.fssSpi.calls ++ calls) ∧
      ∃ triples, devicePackets app' = devicePackets app ++ triples ∧
        fssOutputs component' = fssOutputs component ++ triples := by
  intro app' component'
  have there : component.fssSpi = preceded component.fssSpi.calls ⟨app.spi.world, app.spi.device, []⟩ := by
    rw [device, world]
    exact eq_preceded _
  have initial : Agree app.spi.calls component.fssSpi.calls (devicePackets app) (fssOutputs component) app component :=
    ⟨record, data, ⟨_, eq_preceded _, there⟩, [], by simp, by simp⟩
  have agree : Agree _ _ _ _ app' component' :=
    Machine.simulation (fun _ _ operation agree polled => agree.step operation polled) initial polled
  obtain ⟨bus, here, there⟩ := agree.spi
  exact ⟨agree.record, agree.data, by rw [here, there]; rfl, ⟨bus.calls, by rw [here]; rfl, by rw [there]; rfl⟩, agree.output⟩

section Scripted

instance (app : AppData σ) (operation : Operation plat) : Decidable (PolledWhileEnabled plat app operation) :=
  inferInstanceAs (Decidable (_ → _))

def scriptedOperations : List (Operation scripted) :=
  [⟨⟨cmdMid, enableCc, 8⟩, .command .enable 0 0, .enable 0 0⟩, ⟨⟨reqHkMid, reqDataTlm, 8⟩, .updateData, .poll⟩,
    ⟨⟨cmdMid, disableCc, 8⟩, .command .disable 0 1, .disable 0 1⟩]

def scriptedAnswers : List Answer :=
  [.ok, .ok, .ok, .ok, .ok,
    .receives [0xDE, 0xAD, 0xBE, 0xEF, 0x01, 0x0A, 0x00, 0x00, 0x80, 0x3F, 0x00, 0x00, 0x00, 0x40, 0x00, 0x0A], .ok, .ok]

def scriptedComponent : Component (List Answer) := ⟨⟨scriptedAnswers, .zero, []⟩, ⟨0, 0, 0⟩, .zero, []⟩

theorem applications_agree_scripted :
    let app' := Machine.run (cfsStep scripted) (.zero scriptedAnswers) scriptedOperations
    let component' := Machine.run (fprimeStep scripted) scriptedComponent scriptedOperations
    app'.hkTelemetryPkt = ⟨0, 2, 0, 3, 0⟩ ∧ devicePackets app' = [⟨0x3F800000, 0x40000000, 0⟩] ∧
      app'.hkTelemetryPkt = component'.hkTelemetryPkt ∧ app'.devicePkt = component'.fssData := by
  have agree := applications_agree scripted (.zero scriptedAnswers) scriptedComponent scriptedOperations rfl rfl rfl rfl
    ⟨by decide, by decide, by decide, trivial⟩
  exact ⟨by decide, by decide, agree.1, agree.2.1⟩

end Scripted

end GenericFss.Proofs.Agreement
