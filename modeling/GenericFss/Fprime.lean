import GenericFss.Housekeeping

/-! The F' component. Its handlers run one at a time on the component's thread, so
each is a function on the component's state. Port calls, channel writes, events
and console output are recorded in order; no handler reads them. -/

namespace GenericFss.Fprime
open Device

inductive ActiveState where
  | disabled
  | enabled
deriving DecidableEq, Repr

inductive Channel where
  | commandCount (value : UInt32)
  | commandErrorCount (value : UInt32)
  | deviceCount (value : UInt32)
  | deviceErrorCount (value : UInt32)
  | deviceEnabled (value : ActiveState)
  | alpha (value : UInt32)
  | beta (value : UInt32)
  | errorCode (value : UInt8)
deriving DecidableEq, Repr

inductive Output where
  | fssOut (portNum : Nat) (data : DeviceData)
  | tlmWrite (channel : Channel)
  | logTelem (message : String)
  | cmdResponse (opCode cmdSeq : UInt32)
  | printf (text : String)
deriving DecidableEq, Repr

structure Component (σ : Type) where
  fssSpi : Bus σ
  fssData : DeviceData
  hkTelemetryPkt : HkTlm
  outputs : List Output

variable {σ : Type}

namespace Component
variable (component : Component σ)

def modifyHk (change : HkTlm → HkTlm) : Component σ :=
  { component with hkTelemetryPkt := change component.hkTelemetryPkt }

def output (output : Output) : Component σ := { component with outputs := component.outputs ++ [output] }

def logTelem (message : String) : Component σ := component.output (.logTelem message)

end Component

def getActiveState (enabled : UInt8) : ActiveState :=
  if enabled = deviceEnabled then .enabled else .disabled

section Channels
variable (component : Component σ)

def tlmWriteAlpha : Component σ := component.output (.tlmWrite (.alpha component.fssData.alpha))

def tlmWriteBeta : Component σ := component.output (.tlmWrite (.beta component.fssData.beta))

def tlmWriteErrorCode : Component σ := component.output (.tlmWrite (.errorCode component.fssData.errorCode))

def tlmWriteCommandCount : Component σ :=
  component.output (.tlmWrite (.commandCount component.hkTelemetryPkt.commandCount.toUInt32))

def tlmWriteCommandErrorCount : Component σ :=
  component.output (.tlmWrite (.commandErrorCount component.hkTelemetryPkt.commandErrorCount.toUInt32))

def tlmWriteDeviceCount : Component σ :=
  component.output (.tlmWrite (.deviceCount component.hkTelemetryPkt.deviceCount.toUInt32))

def tlmWriteDeviceErrorCount : Component σ :=
  component.output (.tlmWrite (.deviceErrorCount component.hkTelemetryPkt.deviceErrorCount.toUInt32))

def tlmWriteDeviceEnabled : Component σ :=
  component.output (.tlmWrite (.deviceEnabled (getActiveState component.hkTelemetryPkt.deviceEnabled)))

end Channels

variable (plat : Platform σ)

/-- The constructor. `FssSpi`'s remaining fields, `FSSData` and the packet are
uninitialized before it runs; it assigns the packet, not `FSSData`. -/
def construct (uninitialized : DeviceData) (device : SpiInfo) (world : σ) : Component σ :=
  let hk : HkTlm :=
    { commandCount := 0, commandErrorCount := 0, deviceCount := 0, deviceErrorCount := 0, deviceEnabled := deviceEnabled }
  let (status, fssSpi) := spiInitDev plat ⟨world, device.configure, []⟩
  let component : Component σ := ⟨fssSpi, uninitialized, hk, []⟩
  if status = osSuccess then component.output (.printf "SPI device %s configured with baudrate %d \n")
  else component.output (.printf "SPI device %s failed to initialize! \n")

def destroy (component : Component σ) : Component σ :=
  let (_, fssSpi) := spiCloseDevice plat component.fssSpi
  { component with fssSpi }

def updateDataHandler (component : Component σ) : Component σ :=
  -- The flag is not looked at here, unlike in the commands.
  let (status, fssData, fssSpi) := requestData plat component.fssData component.fssSpi
  let component := { component with fssData, fssSpi }
  if status = osSuccess then
    let component := component.modifyHk .countDevice
    component.output (.fssOut 0 component.fssData)
  else component.modifyHk .countDeviceError

def updateTlmHandler (component : Component σ) : Component σ :=
  let component := tlmWriteAlpha component
  let component := tlmWriteBeta component
  let component := tlmWriteErrorCode component
  let component := tlmWriteCommandCount component
  let component := tlmWriteCommandErrorCount component
  let component := tlmWriteDeviceCount component
  tlmWriteDeviceErrorCount component

def noopCmdHandler (opCode cmdSeq : UInt32) (component : Component σ) : Component σ :=
  let component := component.modifyHk .countCommand
  let component := component.logTelem "NOOP command success!"
  let component := tlmWriteCommandCount component
  let component := tlmWriteDeviceEnabled component
  component.output (.cmdResponse opCode cmdSeq)

def tlmWriteHousekeeping (component : Component σ) : Component σ :=
  let component := tlmWriteCommandCount component
  let component := tlmWriteCommandErrorCount component
  let component := tlmWriteDeviceCount component
  let component := tlmWriteDeviceErrorCount component
  tlmWriteDeviceEnabled component

def enableCmdHandler (opCode cmdSeq : UInt32) (component : Component σ) : Component σ :=
  let component :=
    if component.hkTelemetryPkt.deviceEnabled = deviceDisabled then
      let component := component.modifyHk .countCommand
      let (status, fssSpi) := spiInitDev plat { component.fssSpi with device := component.fssSpi.device.configure }
      let component := { component with fssSpi }
      if status = osSuccess then
        let component := component.modifyHk (·.setEnabled deviceEnabled)
        let component := component.modifyHk .countDevice
        component.logTelem "Enable command success!"
      else
        let component := component.modifyHk .countDeviceError
        component.logTelem "Enable command failed to init SPI!"
    else
      let component := component.modifyHk .countCommandError
      component.logTelem "Enable failed, already Enabled!"
  let component := tlmWriteHousekeeping component
  component.output (.cmdResponse opCode cmdSeq)

def disableCmdHandler (opCode cmdSeq : UInt32) (component : Component σ) : Component σ :=
  let component :=
    if component.hkTelemetryPkt.deviceEnabled = deviceEnabled then
      let component := component.modifyHk .countCommand
      let (status, fssSpi) := spiCloseDevice plat component.fssSpi
      let component := { component with fssSpi }
      if status = osSuccess then
        let component := component.modifyHk (·.setEnabled deviceDisabled)
        let component := component.modifyHk .countDevice
        component.logTelem "Disable command success!"
      else
        let component := component.modifyHk .countDeviceError
        component.logTelem "Disable command failed to close SPI!"
    else
      let component := component.modifyHk .countCommandError
      component.logTelem "Disable failed, already Disabled!"
  let component := tlmWriteHousekeeping component
  component.output (.cmdResponse opCode cmdSeq)

def requestHousekeepingCmdHandler (opCode cmdSeq : UInt32) (component : Component σ) : Component σ :=
  let component :=
    if component.hkTelemetryPkt.deviceEnabled = deviceEnabled then
      let component := component.modifyHk .countCommand
      let component := tlmWriteAlpha component
      let component := tlmWriteBeta component
      let component := tlmWriteErrorCode component
      let component := tlmWriteHousekeeping component
      component.logTelem "Requested Housekeeping!"
    else component.logTelem "HK Failed, Device Disabled!"
  component.output (.cmdResponse opCode cmdSeq)

def resetCountersCmdHandler (opCode cmdSeq : UInt32) (component : Component σ) : Component σ :=
  let component := component.modifyHk .resetCounters
  let component := component.logTelem "Reset Counters command successful!"
  let component := tlmWriteCommandCount component
  let component := tlmWriteCommandErrorCount component
  let component := tlmWriteDeviceCount component
  let component := tlmWriteDeviceErrorCount component
  component.output (.cmdResponse opCode cmdSeq)

def requestDataCmdHandler (opCode cmdSeq : UInt32) (component : Component σ) : Component σ :=
  let component :=
    if component.hkTelemetryPkt.deviceEnabled = deviceEnabled then
      let component := component.modifyHk .countCommand
      let (status, fssData, fssSpi) := requestData plat component.fssData component.fssSpi
      let component := { component with fssData, fssSpi }
      if status = osSuccess then
        let component := component.modifyHk .countDevice
        component.logTelem "RequestData command success\n"
      else
        let component := component.modifyHk .countDeviceError
        component.logTelem "RequestData command failed\n"
    else
      let component := component.modifyHk .countCommandError
      component.logTelem "RequestData command failed, Device Disabled\n"
  let component := tlmWriteAlpha component
  let component := tlmWriteBeta component
  let component := tlmWriteErrorCode component
  let component := tlmWriteCommandCount component
  let component := tlmWriteCommandErrorCount component
  let component := tlmWriteDeviceCount component
  let component := tlmWriteDeviceErrorCount component
  component.output (.cmdResponse opCode cmdSeq)

inductive Command where
  | noop
  | resetCounters
  | enable
  | disable
  | requestHousekeeping
  | requestData
deriving DecidableEq, Repr

/-- What the framework can dispatch to the component: its two scheduled ports and its commands. -/
inductive Invocation where
  | updateData
  | updateTlm
  | command (command : Command) (opCode cmdSeq : UInt32)
deriving DecidableEq, Repr

def dispatch (component : Component σ) : Invocation → Component σ
  | .updateData => updateDataHandler plat component
  | .updateTlm => updateTlmHandler component
  | .command .noop opCode cmdSeq => noopCmdHandler opCode cmdSeq component
  | .command .resetCounters opCode cmdSeq => resetCountersCmdHandler opCode cmdSeq component
  | .command .enable opCode cmdSeq => enableCmdHandler plat opCode cmdSeq component
  | .command .disable opCode cmdSeq => disableCmdHandler plat opCode cmdSeq component
  | .command .requestHousekeeping opCode cmdSeq => requestHousekeepingCmdHandler opCode cmdSeq component
  | .command .requestData opCode cmdSeq => requestDataCmdHandler plat opCode cmdSeq component

end GenericFss.Fprime
