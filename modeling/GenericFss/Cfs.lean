import GenericFss.Housekeeping

/-! The cFS application. Its global data is the state, a function of the source is
a function on it. Software bus packets, event messages and system log entries are
recorded in the order they are sent; no function of the application reads them. -/

namespace GenericFss.Cfs
open Device

def cfeSuccess : Status := 0

def cmdMid : Nat := 0x1920
def reqHkMid : Nat := 0x1921

def noopCc : Nat := 0
def resetCountersCc : Nat := 1
def enableCc : Nat := 2
def disableCc : Nat := 3

def reqHkTlm : Nat := 0
def reqDataTlm : Nat := 1

def runStatusAppRun : UInt32 := 1
def runStatusAppError : UInt32 := 3

/-- The parts of a software bus message that the application looks at. -/
structure Message where
  msgId : Nat
  fcnCode : Nat
  size : Nat
deriving DecidableEq, Repr

inductive Packet where
  | housekeeping (hk : HkTlm)
  | device (data : DeviceData)
deriving DecidableEq, Repr

inductive EventType where
  | information
  | error
deriving DecidableEq, Repr

structure Event where
  eventId : Nat
  eventType : EventType
  text : String
  args : List Int
deriving DecidableEq, Repr

def startupInfEid : Nat := 1
def lenErrEid : Nat := 2
def pipeErrEid : Nat := 3
def subCmdErrEid : Nat := 4
def subReqHkErrEid : Nat := 5
def processCmdErrEid : Nat := 6
def cmdErrEid : Nat := 10
def cmdNoopInfEid : Nat := 11
def cmdResetInfEid : Nat := 12
def cmdEnableInfEid : Nat := 13
def enableInfEid : Nat := 14
def enableErrEid : Nat := 15
def cmdDisableInfEid : Nat := 16
def disableInfEid : Nat := 17
def disableErrEid : Nat := 18
def deviceTlmErrEid : Nat := 30
def reqDataErrEid : Nat := 31
def spiInitErrEid : Nat := 40
def spiCloseErrEid : Nat := 41

/-- `GENERIC_FSS_AppData`. The SPI configuration is the `device` of the bus. -/
structure AppData (σ : Type) where
  hkTelemetryPkt : HkTlm
  runStatus : UInt32
  devicePkt : DeviceData
  spi : Bus σ
  published : List Packet
  events : List Event
  sysLog : List (String × UInt32)

variable {σ : Type}

namespace AppData
variable (app : AppData σ)

def zero (world : σ) : AppData σ where
  hkTelemetryPkt := .zero
  runStatus := 0
  devicePkt := ⟨0, 0, 0⟩
  spi := ⟨world, .zero, []⟩
  published := []
  events := []
  sysLog := []

def modifyHk (change : HkTlm → HkTlm) : AppData σ := { app with hkTelemetryPkt := change app.hkTelemetryPkt }

def sendEvent (eventId : Nat) (eventType : EventType) (text : String) (args : List Int := []) : AppData σ :=
  { app with events := app.events ++ [⟨eventId, eventType, text, args⟩] }

def writeToSysLog (text : String) (status : UInt32) : AppData σ :=
  { app with sysLog := app.sysLog ++ [(text, status)] }

def transmitMsg (packet : Packet) : AppData σ := { app with published := app.published ++ [packet] }

end AppData

def devicePackets (app : AppData σ) : List DeviceData :=
  app.published.filterMap fun
    | .housekeeping _ => none
    | .device data => some data

def housekeepingPackets (app : AppData σ) : List HkTlm :=
  app.published.filterMap fun
    | .housekeeping hk => some hk
    | .device _ => none

variable (plat : Platform σ)

def resetCounters (app : AppData σ) : AppData σ := app.modifyHk .resetCounters

def verifyCmdLength (msg : Message) (expectedLength : UInt16) (app : AppData σ) : Status × AppData σ :=
  -- A success is counted by the caller, an error here.
  if expectedLength.toNat = msg.size then (osSuccess, app)
  else
    let app := app.sendEvent lenErrEid .error
      "Invalid msg length: ID = 0x%X,  CC = %d, Len = %ld, Expected = %d"
      [msg.msgId, msg.fcnCode, msg.size, expectedLength.toNat]
    (osError, app.modifyHk .countCommandError)

def enable (app : AppData σ) : AppData σ :=
  if app.hkTelemetryPkt.deviceEnabled = deviceDisabled then
    let app := app.modifyHk .countCommand
    let (status, spi) := spiInitDev plat { app.spi with device := app.spi.device.configure }
    let app := { app with spi }
    if status = osSuccess then
      let app := app.modifyHk .countDevice
      let app := app.modifyHk (·.setEnabled deviceEnabled)
      app.sendEvent enableInfEid .information "GENERIC_FSS: Device enabled"
    else
      let app := app.modifyHk .countDeviceError
      app.sendEvent spiInitErrEid .error "GENERIC_FSS: SPI device initialization error %d" [status.toInt]
  else
    let app := app.modifyHk .countCommandError
    app.sendEvent enableErrEid .error "GENERIC_FSS: Device enable failed, already enabled"

def disable (app : AppData σ) : AppData σ :=
  if app.hkTelemetryPkt.deviceEnabled = deviceEnabled then
    let app := app.modifyHk .countCommand
    let (status, spi) := spiCloseDevice plat app.spi
    let app := { app with spi }
    if status = osSuccess then
      let app := app.modifyHk .countDevice
      let app := app.modifyHk (·.setEnabled deviceDisabled)
      app.sendEvent disableInfEid .information "GENERIC_FSS: Device disabled"
    else
      let app := app.modifyHk .countDeviceError
      app.sendEvent spiCloseErrEid .error "GENERIC_FSS: SPI device close error %d" [status.toInt]
  else
    let app := app.modifyHk .countCommandError
    app.sendEvent disableErrEid .error "GENERIC_FSS: Device disable failed, already disabled"

def reportHousekeeping (app : AppData σ) : AppData σ := app.transmitMsg (.housekeeping app.hkTelemetryPkt)

def reportDeviceTelemetry (app : AppData σ) : AppData σ :=
  if app.hkTelemetryPkt.deviceEnabled = deviceEnabled then
    let (status, devicePkt, spi) := requestData plat app.devicePkt app.spi
    let app := { app with devicePkt, spi }
    if status = osSuccess then
      let app := app.modifyHk .countDevice
      app.transmitMsg (.device app.devicePkt)
    else
      let app := app.modifyHk .countDeviceError
      app.sendEvent reqDataErrEid .error "GENERIC_FSS: Request device data reported error %d" [status.toInt]
  -- A disabled device is not reported, on purpose.
  else app

def whenVerified (msg : Message) (action : AppData σ → AppData σ) (app : AppData σ) : AppData σ :=
  let (status, app) := verifyCmdLength msg plat.sizeofNoArgsCmd app
  if status = osSuccess then action app else app

def processGroundCommand (msg : Message) (app : AppData σ) : AppData σ :=
  if msg.fcnCode = noopCc then
    whenVerified plat msg (fun app =>
      let app := app.modifyHk .countCommand
      app.sendEvent cmdNoopInfEid .information "GENERIC_FSS: NOOP command received") app
  else if msg.fcnCode = resetCountersCc then
    whenVerified plat msg (fun app =>
      let app := app.modifyHk .countCommand
      let app := resetCounters app
      app.sendEvent cmdResetInfEid .information "GENERIC_FSS: RESET counters command received") app
  else if msg.fcnCode = enableCc then
    whenVerified plat msg (fun app =>
      let app := enable plat app
      app.sendEvent cmdEnableInfEid .information "GENERIC_FSS: Enable command received") app
  else if msg.fcnCode = disableCc then
    whenVerified plat msg (fun app =>
      let app := disable plat app
      app.sendEvent cmdDisableInfEid .information "GENERIC_FSS: Disable command received") app
  else
    let app := app.modifyHk .countCommandError
    app.sendEvent cmdErrEid .error "GENERIC_FSS: Invalid command code for packet, MID = 0x%x, cmdCode = 0x%x"
      [msg.msgId, msg.fcnCode]

def processTelemetryRequest (msg : Message) (app : AppData σ) : AppData σ :=
  if msg.fcnCode = reqHkTlm then reportHousekeeping app
  else if msg.fcnCode = reqDataTlm then reportDeviceTelemetry plat app
  else
    let app := app.modifyHk .countCommandError
    app.sendEvent deviceTlmErrEid .error "GENERIC_FSS: Invalid command code for packet, MID = 0x%x, cmdCode = 0x%x"
      [msg.msgId, msg.fcnCode]

def processCommandPacket (app : AppData σ) (msg : Message) : AppData σ :=
  if msg.msgId = cmdMid then processGroundCommand plat msg app
  else if msg.msgId = reqHkMid then processTelemetryRequest plat msg app
  else
    let app := app.modifyHk .countCommandError
    app.sendEvent processCmdErrEid .error "GENERIC_FSS: Invalid command packet, MID = 0x%x" [msg.msgId]

structure InitStatus where
  evsRegister : Status
  createPipe : Status
  subscribeCmd : Status
  subscribeReqHk : Status
  startupEvent : Status
deriving DecidableEq, Repr

def InitStatus.success : InitStatus := ⟨cfeSuccess, cfeSuccess, cfeSuccess, cfeSuccess, cfeSuccess⟩

def appInit (cfe : InitStatus) (app : AppData σ) : Status × AppData σ :=
  let app := { app with runStatus := runStatusAppRun }
  if cfe.evsRegister ≠ cfeSuccess then
    (cfe.evsRegister, app.writeToSysLog "GENERIC_FSS: Error registering for event services: 0x%08X\n" cfe.evsRegister.toUInt32)
  else if cfe.createPipe ≠ cfeSuccess then
    (cfe.createPipe, app.sendEvent pipeErrEid .error "Error Creating SB Pipe,RC=0x%08X" [cfe.createPipe.toUInt32.toNat])
  else if cfe.subscribeCmd ≠ cfeSuccess then
    (cfe.subscribeCmd, app.sendEvent subCmdErrEid .error "Error Subscribing to HK Gnd Cmds, MID=0x%04X, RC=0x%08X"
      [cmdMid, cfe.subscribeCmd.toUInt32.toNat])
  else if cfe.subscribeReqHk ≠ cfeSuccess then
    (cfe.subscribeReqHk, app.sendEvent subReqHkErrEid .error "Error Subscribing to HK Request, MID=0x%04X, RC=0x%08X"
      [reqHkMid, cfe.subscribeReqHk.toUInt32.toNat])
  else
    -- `CFE_MSG_Init` clears a packet before it writes the header.
    let app := { app with hkTelemetryPkt := .zero, devicePkt := ⟨0, 0, 0⟩ }
    let app := resetCounters app
    let app := app.modifyHk (·.setEnabled deviceDisabled)
    let app := app.sendEvent startupInfEid .information "GENERIC_FSS App Initialized. Version %d.%d.%d.%d" [1, 0, 0, 0]
    if cfe.startupEvent ≠ cfeSuccess then
      (cfe.startupEvent, app.writeToSysLog "GENERIC_FSS: Error sending initialization event: 0x%08X\n" cfe.startupEvent.toUInt32)
    else (cfe.startupEvent, app)

/-- One turn of the main loop: what `CFE_ES_RunLoop` answers and leaves in
`RunStatus`, and what `CFE_SB_ReceiveBuffer` would deliver. -/
structure Turn where
  runLoop : UInt32 → Bool × UInt32
  receiveStatus : Status
  message : Message

structure Main (σ : Type) where
  app : AppData σ
  exited : Bool

def startMain (cfe : InitStatus) (app : AppData σ) : Main σ :=
  let (status, app) := appInit cfe app
  if status ≠ cfeSuccess then ⟨{ app with runStatus := runStatusAppError }, false⟩ else ⟨app, false⟩

def turn (main : Main σ) (input : Turn) : Main σ :=
  if main.exited then main
  else
    let (keepRunning, runStatus) := input.runLoop main.app.runStatus
    let app := { main.app with runStatus }
    if keepRunning then
      if input.receiveStatus = cfeSuccess then ⟨processCommandPacket plat app input.message, false⟩
      else
        let app := app.sendEvent pipeErrEid .error "GENERIC_FSS: SB Pipe Read Error = %d" [input.receiveStatus.toInt]
        ⟨{ app with runStatus := runStatusAppError }, false⟩
    -- The device is disabled on the way out, whatever ended the loop.
    else ⟨disable plat app, true⟩

/-- Every reachable point of `FSS_AppMain`: a prefix of some list of turns. -/
def appMain (cfe : InitStatus) (world : σ) (turns : List Turn) : Main σ :=
  turns.foldl (turn plat) (startMain cfe (.zero world))

end GenericFss.Cfs
