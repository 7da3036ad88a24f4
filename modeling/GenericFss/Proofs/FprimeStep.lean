import GenericFss.Proofs.Requests
import GenericFss.Fprime

/-! Everything one handler can do to the F' component, said once: the guards of
each branch, the new state, and the outputs in the order they are made. -/

namespace GenericFss.Proofs.FprimeStep
open GenericFss Device Fprime

def dataChannels (data : DeviceData) : List Output :=
  [.tlmWrite (.alpha data.alpha), .tlmWrite (.beta data.beta), .tlmWrite (.errorCode data.errorCode)]

def countChannels (hk : HkTlm) : List Output :=
  [.tlmWrite (.commandCount hk.commandCount.toUInt32), .tlmWrite (.commandErrorCount hk.commandErrorCount.toUInt32),
    .tlmWrite (.deviceCount hk.deviceCount.toUInt32), .tlmWrite (.deviceErrorCount hk.deviceErrorCount.toUInt32)]

def enabledChannel (hk : HkTlm) : Output := .tlmWrite (.deviceEnabled (getActiveState hk.deviceEnabled))

/-- The outputs that end ENABLE and DISABLE. -/
def closingOutputs (message : String) (hk : HkTlm) (opCode cmdSeq : UInt32) : List Output :=
  .logTelem message :: countChannels hk ++ [enabledChannel hk, .cmdResponse opCode cmdSeq]

def requestOutputs (message : String) (data : DeviceData) (hk : HkTlm) (opCode cmdSeq : UInt32) : List Output :=
  .logTelem message :: dataChannels data ++ countChannels hk ++ [.cmdResponse opCode cmdSeq]

variable {σ : Type} (plat : Platform σ)

def sunData : Output → Option DeviceData
  | .fssOut _ data => some data
  | _ => none

def fssOutputs (component : Component σ) : List DeviceData := component.outputs.filterMap sunData

abbrev opening (component : Component σ) : Status × Bus σ :=
  spiInitDev plat { component.fssSpi with device := component.fssSpi.device.configure }

abbrev closing (component : Component σ) : Status × Bus σ := spiCloseDevice plat component.fssSpi

abbrev request (component : Component σ) : Status × DeviceData × Bus σ :=
  requestData plat component.fssData component.fssSpi

abbrev after (component : Component σ) (hk : HkTlm) (more : List Output) : Component σ :=
  { component with hkTelemetryPkt := hk, outputs := component.outputs ++ more }

inductive Step (component : Component σ) : Invocation → Component σ → Prop where
  | polled : (request plat component).1 = osSuccess →
      Step component .updateData
        (after { component with fssData := (request plat component).2.1, fssSpi := (request plat component).2.2 }
          component.hkTelemetryPkt.countDevice [.fssOut 0 (request plat component).2.1])
  | pollFailed : (request plat component).1 ≠ osSuccess →
      Step component .updateData
        (after { component with fssData := (request plat component).2.1, fssSpi := (request plat component).2.2 }
          component.hkTelemetryPkt.countDeviceError [])
  | reported :
      Step component .updateTlm
        (after component component.hkTelemetryPkt
          (dataChannels component.fssData ++ countChannels component.hkTelemetryPkt))
  | noop {opCode cmdSeq hk} (message : String) : hk = component.hkTelemetryPkt.countCommand →
      Step component (.command .noop opCode cmdSeq)
        (after component hk [.logTelem message, .tlmWrite (.commandCount hk.commandCount.toUInt32), enabledChannel hk,
          .cmdResponse opCode cmdSeq])
  | resetCounters {opCode cmdSeq hk} (message : String) : hk = component.hkTelemetryPkt.resetCounters →
      Step component (.command .resetCounters opCode cmdSeq)
        (after component hk (.logTelem message :: countChannels hk ++ [.cmdResponse opCode cmdSeq]))
  | enabled {opCode cmdSeq hk} (message : String) : component.hkTelemetryPkt.deviceEnabled = deviceDisabled →
      (opening plat component).1 = osSuccess →
      hk = component.hkTelemetryPkt.countCommand.countDevice.setEnabled deviceEnabled →
      Step component (.command .enable opCode cmdSeq)
        (after { component with fssSpi := (opening plat component).2 } hk (closingOutputs message hk opCode cmdSeq))
  | enableFailed {opCode cmdSeq hk} (message : String) : component.hkTelemetryPkt.deviceEnabled = deviceDisabled →
      (opening plat component).1 ≠ osSuccess → hk = component.hkTelemetryPkt.countCommand.countDeviceError →
      Step component (.command .enable opCode cmdSeq)
        (after { component with fssSpi := (opening plat component).2 } hk (closingOutputs message hk opCode cmdSeq))
  | enableRefused {opCode cmdSeq hk} (message : String) : component.hkTelemetryPkt.deviceEnabled ≠ deviceDisabled →
      hk = component.hkTelemetryPkt.countCommandError →
      Step component (.command .enable opCode cmdSeq) (after component hk (closingOutputs message hk opCode cmdSeq))
  | disabled {opCode cmdSeq hk} (message : String) : component.hkTelemetryPkt.deviceEnabled = deviceEnabled →
      (closing plat component).1 = osSuccess →
      hk = component.hkTelemetryPkt.countCommand.countDevice.setEnabled deviceDisabled →
      Step component (.command .disable opCode cmdSeq)
        (after { component with fssSpi := (closing plat component).2 } hk (closingOutputs message hk opCode cmdSeq))
  | disableFailed {opCode cmdSeq hk} (message : String) : component.hkTelemetryPkt.deviceEnabled = deviceEnabled →
      (closing plat component).1 ≠ osSuccess → hk = component.hkTelemetryPkt.countCommand.countDeviceError →
      Step component (.command .disable opCode cmdSeq)
        (after { component with fssSpi := (closing plat component).2 } hk (closingOutputs message hk opCode cmdSeq))
  | disableRefused {opCode cmdSeq hk} (message : String) : component.hkTelemetryPkt.deviceEnabled ≠ deviceEnabled →
      hk = component.hkTelemetryPkt.countCommandError →
      Step component (.command .disable opCode cmdSeq) (after component hk (closingOutputs message hk opCode cmdSeq))
  | housekeeping {opCode cmdSeq hk} (message : String) : component.hkTelemetryPkt.deviceEnabled = deviceEnabled →
      hk = component.hkTelemetryPkt.countCommand →
      Step component (.command .requestHousekeeping opCode cmdSeq)
        (after component hk (dataChannels component.fssData ++ countChannels hk ++
          [enabledChannel hk, .logTelem message, .cmdResponse opCode cmdSeq]))
  | housekeepingRefused {opCode cmdSeq} (message : String) : component.hkTelemetryPkt.deviceEnabled ≠ deviceEnabled →
      Step component (.command .requestHousekeeping opCode cmdSeq)
        (after component component.hkTelemetryPkt [.logTelem message, .cmdResponse opCode cmdSeq])
  | dataRead {opCode cmdSeq hk} (message : String) : component.hkTelemetryPkt.deviceEnabled = deviceEnabled →
      (request plat component).1 = osSuccess → hk = component.hkTelemetryPkt.countCommand.countDevice →
      Step component (.command .requestData opCode cmdSeq)
        (after { component with fssData := (request plat component).2.1, fssSpi := (request plat component).2.2 } hk
          (requestOutputs message (request plat component).2.1 hk opCode cmdSeq))
  | dataFailed {opCode cmdSeq hk} (message : String) : component.hkTelemetryPkt.deviceEnabled = deviceEnabled →
      (request plat component).1 ≠ osSuccess → hk = component.hkTelemetryPkt.countCommand.countDeviceError →
      Step component (.command .requestData opCode cmdSeq)
        (after { component with fssData := (request plat component).2.1, fssSpi := (request plat component).2.2 } hk
          (requestOutputs message (request plat component).2.1 hk opCode cmdSeq))
  | dataRefused {opCode cmdSeq hk} (message : String) : component.hkTelemetryPkt.deviceEnabled ≠ deviceEnabled →
      hk = component.hkTelemetryPkt.countCommandError →
      Step component (.command .requestData opCode cmdSeq)
        (after component hk (requestOutputs message component.fssData hk opCode cmdSeq))

section Handlers
variable (component : Component σ) (opCode cmdSeq : UInt32)

private theorem closing_eq (message : String) :
    (tlmWriteHousekeeping (component.logTelem message)).output (.cmdResponse opCode cmdSeq) =
      after component component.hkTelemetryPkt (closingOutputs message component.hkTelemetryPkt opCode cmdSeq) := by
  simp [tlmWriteHousekeeping, tlmWriteCommandCount, tlmWriteCommandErrorCount, tlmWriteDeviceCount,
    tlmWriteDeviceErrorCount, tlmWriteDeviceEnabled, Component.logTelem, Component.output, closingOutputs,
    countChannels, enabledChannel]

theorem enableCmdHandler_step :
    Step plat component (.command .enable opCode cmdSeq) (enableCmdHandler plat opCode cmdSeq component) := by
  simp only [enableCmdHandler]
  split
  next closed =>
    split
    next opened => rw [closing_eq]; exact .enabled _ closed opened rfl
    next failed => rw [closing_eq]; exact .enableFailed _ closed failed rfl
  next opened => rw [closing_eq]; exact .enableRefused _ opened rfl

theorem disableCmdHandler_step :
    Step plat component (.command .disable opCode cmdSeq) (disableCmdHandler plat opCode cmdSeq component) := by
  simp only [disableCmdHandler]
  split
  next opened =>
    split
    next closed => rw [closing_eq]; exact .disabled _ opened closed rfl
    next failed => rw [closing_eq]; exact .disableFailed _ opened failed rfl
  next closed => rw [closing_eq]; exact .disableRefused _ closed rfl

private theorem request_eq (message : String) :
    (tlmWriteDeviceErrorCount (tlmWriteDeviceCount (tlmWriteCommandErrorCount (tlmWriteCommandCount
      (tlmWriteErrorCode (tlmWriteBeta (tlmWriteAlpha (component.logTelem message)))))))).output
        (.cmdResponse opCode cmdSeq) =
      after component component.hkTelemetryPkt
        (requestOutputs message component.fssData component.hkTelemetryPkt opCode cmdSeq) := by
  simp [tlmWriteCommandCount, tlmWriteCommandErrorCount, tlmWriteDeviceCount, tlmWriteDeviceErrorCount, tlmWriteAlpha,
    tlmWriteBeta, tlmWriteErrorCode, Component.logTelem, Component.output, requestOutputs, dataChannels, countChannels]

theorem requestDataCmdHandler_step :
    Step plat component (.command .requestData opCode cmdSeq) (requestDataCmdHandler plat opCode cmdSeq component) := by
  simp only [requestDataCmdHandler]
  split
  next enabled =>
    split
    next sent => rw [request_eq]; exact .dataRead _ enabled sent rfl
    next failed => rw [request_eq]; exact .dataFailed _ enabled failed rfl
  next disabled => rw [request_eq]; exact .dataRefused _ disabled rfl

theorem requestHousekeepingCmdHandler_step :
    Step plat component (.command .requestHousekeeping opCode cmdSeq)
      (requestHousekeepingCmdHandler opCode cmdSeq component) := by
  simp only [requestHousekeepingCmdHandler]
  split
  next enabled =>
    simp only [tlmWriteHousekeeping, tlmWriteCommandCount, tlmWriteCommandErrorCount, tlmWriteDeviceCount,
      tlmWriteDeviceErrorCount, tlmWriteDeviceEnabled, tlmWriteAlpha, tlmWriteBeta, tlmWriteErrorCode,
      Component.logTelem, Component.output, Component.modifyHk, List.append_assoc]
    exact .housekeeping _ enabled rfl
  next disabled =>
    simp only [Component.logTelem, Component.output, List.append_assoc]
    exact .housekeepingRefused _ disabled

theorem updateDataHandler_step : Step plat component .updateData (updateDataHandler plat component) := by
  simp only [updateDataHandler]
  split
  next sent => exact .polled sent
  next failed =>
    have silent : Step plat component .updateData _ := .pollFailed failed
    rwa [after, List.append_nil] at silent

theorem updateTlmHandler_step : Step plat component .updateTlm (updateTlmHandler component) := by
  simp only [updateTlmHandler, tlmWriteCommandCount, tlmWriteCommandErrorCount, tlmWriteDeviceCount,
    tlmWriteDeviceErrorCount, tlmWriteAlpha, tlmWriteBeta, tlmWriteErrorCode, Component.output, List.append_assoc]
  exact .reported

theorem noopCmdHandler_step :
    Step plat component (.command .noop opCode cmdSeq) (noopCmdHandler opCode cmdSeq component) := by
  simp only [noopCmdHandler, tlmWriteCommandCount, tlmWriteDeviceEnabled, Component.logTelem, Component.output,
    Component.modifyHk, List.append_assoc]
  exact .noop _ rfl

theorem resetCountersCmdHandler_step :
    Step plat component (.command .resetCounters opCode cmdSeq)
      (resetCountersCmdHandler opCode cmdSeq component) := by
  simp only [resetCountersCmdHandler, tlmWriteCommandCount, tlmWriteCommandErrorCount, tlmWriteDeviceCount,
    tlmWriteDeviceErrorCount, Component.logTelem, Component.output, Component.modifyHk, List.append_assoc]
  exact .resetCounters _ rfl

end Handlers

section Sent
variable {component component' component'' : Component σ} {invocation : Invocation}

theorem fssOutputs_after (hk : HkTlm) (more : List Output) :
    fssOutputs (after component hk more) = fssOutputs component ++ more.filterMap sunData :=
  List.filterMap_append

theorem Step.silent (step : Step plat component invocation component') (notPoll : invocation ≠ .updateData) :
    fssOutputs component' = fssOutputs component := by
  cases step with
  | polled | pollFailed => exact absurd rfl notPoll
  | _ => exact (fssOutputs_after _ _).trans (List.append_nil _)

theorem Step.deterministic (first : Step plat component invocation component')
    (second : Step plat component invocation component'') :
    component''.hkTelemetryPkt = component'.hkTelemetryPkt ∧ component''.fssData = component'.fssData ∧
      component''.fssSpi = component'.fssSpi ∧ fssOutputs component'' = fssOutputs component' := by
  have sent : fssOutputs component'' = fssOutputs component' := by
    by_cases poll : invocation = .updateData
    · subst poll
      cases first <;> cases second <;> first | contradiction | rfl
    · rw [first.silent plat poll, second.silent plat poll]
  cases first <;> cases second <;> first | contradiction | (subst_vars; exact ⟨rfl, rfl, rfl, sent⟩)

end Sent

/-- Every invocation takes one step of the relation. -/
theorem dispatch_step (component : Component σ) (invocation : Invocation) :
    Step plat component invocation (dispatch plat component invocation) := by
  cases invocation with
  | updateData => exact updateDataHandler_step plat component
  | updateTlm => exact updateTlmHandler_step plat component
  | command command opCode cmdSeq =>
    cases command with
    | noop => exact noopCmdHandler_step plat component opCode cmdSeq
    | resetCounters => exact resetCountersCmdHandler_step plat component opCode cmdSeq
    | enable => exact enableCmdHandler_step plat component opCode cmdSeq
    | disable => exact disableCmdHandler_step plat component opCode cmdSeq
    | requestHousekeeping => exact requestHousekeepingCmdHandler_step plat component opCode cmdSeq
    | requestData => exact requestDataCmdHandler_step plat component opCode cmdSeq

end GenericFss.Proofs.FprimeStep
