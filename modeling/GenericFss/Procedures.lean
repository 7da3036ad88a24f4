import GenericFss.ClosedLoop
import GenericFss.Ground
import GenericFss.Library.Procedure

/-! The ground library's functions and the test procedures built from them. Commands may be
lost on the way up, requests for telemetry and the packets are not. The comparison with the
sun vector of 42 and the bridge to the simulator's command bus are parameters. -/

namespace GenericFss.Procedures
open Device Cfs Ground

/-- What the scripts run against. `lost n` are the uplinks of the `n`-th command that are lost. -/
structure Site (σ : Type) where
  plat : Platform σ
  lost : Nat → Fin 3 → Bool
  alphaWithin : σ → UInt32 → Bool
  betaWithin : σ → UInt32 → Bool
  simCmdbusBridge : (node : String) → (command : List Char) → σ → σ

structure Station (σ : Type) where
  session : Session σ
  commands : Nat

variable {σ : Type} (site : Site σ)

namespace Station
variable (station : Station σ)

def world : σ := station.session.app.spi.world

def hkTlm : HkTlm := station.session.hkTlm

def deviceTlm : List DeviceData := devicePackets station.session.app

/-- The latest device packet. Nothing reads it before one has arrived. -/
def dataTlm : DeviceData := station.deviceTlm.getLast?.getD ⟨0, 0, 0⟩

end Station

/-- A command of the database; `CCSDS_LENGTH` is the length of the packet less seven. -/
def ccsdsCommand (ccsdsStreamid ccsdsFc : Nat) (ccsdsLength : Nat := 1) : Message := ⟨ccsdsStreamid, ccsdsFc, ccsdsLength + 7⟩

def noop : Message := ccsdsCommand 0x1920 0
def rstCounters : Message := ccsdsCommand 0x1920 1
def enable : Message := ccsdsCommand 0x1920 2
def disable : Message := ccsdsCommand 0x1920 3
def reqData : Message := ccsdsCommand 0x1921 1

def genericFssTestLoopCount : Nat := 1
def genericFssDeviceLoopCount : Nat := 5

def cmd (command : Message) : Procedure (Station σ) Unit :=
  .act fun station => {
    session := Ground.cmd site.plat (site.lost station.commands onlyUplink) command station.session
    commands := station.commands + 1 }

def request (msg : Message) : Procedure (Station σ) Unit :=
  .act fun station => { station with session := station.session.deliver site.plat msg }

def getFssHk : Procedure (Station σ) Unit :=
  .act fun station => { station with session := Ground.getFssHk site.plat station.session }

def getFssData : Procedure (Station σ) Unit := do
  let received ← .read fun station => station.deviceTlm.length
  request site reqData
  .check fun station => received < station.deviceTlm.length

def fssCmd (command : Message) : Procedure (Station σ) Unit := fun station =>
  let (checked, session) := Ground.fssCmd site.plat command (site.lost station.commands) station.session
  (if checked then some () else none, { session, commands := station.commands + 1 })

def enableFss : Procedure (Station σ) Unit := do
  fssCmd site enable
  .check fun station => station.hkTlm.deviceEnabled = deviceEnabled

def disableFss : Procedure (Station σ) Unit := do
  fssCmd site disable
  .check fun station => station.hkTlm.deviceEnabled = deviceDisabled

def safeFss : Procedure (Station σ) Unit := do
  getFssHk site
  let state ← .read fun station => station.hkTlm.deviceEnabled
  if state = deviceDisabled then pure () else disableFss site

/-- The two `wait_check_tolerance` of `confirm_fss_data`. -/
def checkTolerance (fssError : UInt8) : Procedure (Station σ) Unit :=
  if fssError = 0 then do
    .check fun station => site.alphaWithin station.world station.dataTlm.alpha
    .check fun station => site.betaWithin station.world station.dataTlm.beta
  else pure ()

def confirmFssData : Procedure (Station σ) Unit := do
  let devCmdCnt ← .read fun station => station.hkTlm.deviceCount
  let devCmdErrCnt ← .read fun station => station.hkTlm.deviceErrorCount
  getFssData site
  let fssError ← .read fun station => station.dataTlm.errorCode
  checkTolerance site fssError
  getFssHk site
  .check fun station => station.hkTlm.deviceCount.toNat ≥ devCmdCnt.toNat
  .check fun station => station.hkTlm.deviceErrorCount = devCmdErrCnt

def confirmFssDataLoop : Procedure (Station σ) Unit := .forRange (fun _ => confirmFssData site) 0 genericFssDeviceLoopCount

def fssPrepareAst : Procedure (Station σ) Unit := do
  safeFss site
  enableFss site
  confirmFssDataLoop site

/-- The command template names the node that the bridge is to hand the command to. -/
def simCommand (command : String) : Procedure (Station σ) Unit :=
  .act fun station =>
    let app := station.session.app
    let world := site.simCmdbusBridge "sample-command" command.toList app.spi.world
    { station with session := { station.session with app := { app with spi := { app.spi with world } } } }

def fssSimEnable : Procedure (Station σ) Unit := simCommand site "ENABLE"

def fssSimDisable : Procedure (Station σ) Unit := simCommand site "DISABLE"

/-- Commands the application must reject: it counts an error and nothing else. -/
def confirmRejected (command : Message) : Procedure (Station σ) Unit := do
  let cmdCnt ← .read fun station => station.hkTlm.commandCount
  let cmdErrCnt ← .read fun station => station.hkTlm.commandErrorCount
  cmd site command
  getFssHk site
  .check fun station => station.hkTlm.commandCount = cmdCnt
  .check fun station => station.hkTlm.commandErrorCount.toNat = cmdErrCnt.toNat + 1

def runGenericFssAppTest : Procedure (Station σ) Unit := do
  .forRange (fun _ => getFssHk site) 0 genericFssTestLoopCount
  .forRange (fun _ => fssCmd site noop) 0 genericFssTestLoopCount
  .forRange (fun _ => do
      fssCmd site noop
      cmd site rstCounters
      getFssHk site
      .check fun station => station.hkTlm.commandCount = 0
      .check fun station => station.hkTlm.commandErrorCount = 0) 0 genericFssTestLoopCount
  .forRange (fun n => confirmRejected site (ccsdsCommand 0x1920 0 (n + 2))) 0 genericFssTestLoopCount
  .forRange (fun n => confirmRejected site (ccsdsCommand 0x1920 (n + 1))) 6 (5 + genericFssTestLoopCount + 1 - 6)

def runGenericFssDeviceTest : Procedure (Station σ) Unit :=
  .forRange (fun _ => do
      safeFss site
      confirmRejected site disable
      enableFss site
      getFssData site
      getFssHk site
      confirmFssDataLoop site
      confirmRejected site enable
      confirmFssDataLoop site
      disableFss site) 0 genericFssTestLoopCount

def runGenericFssAstTest : Procedure (Station σ) Unit :=
  .forRange (fun _ => do
      fssPrepareAst site
      let devCmdCnt ← .read fun station => station.hkTlm.deviceCount
      let devCmdErrCnt ← .read fun station => station.hkTlm.deviceErrorCount
      fssSimDisable site
      request site reqData
      -- The script waits for the counters here, not for the packet.
      getFssHk site
      .check fun station => station.hkTlm.deviceCount.toNat ≥ devCmdCnt.toNat
      .check fun station => station.hkTlm.deviceErrorCount.toNat ≥ devCmdErrCnt.toNat
      fssSimEnable site
      confirmFssDataLoop site) 0 genericFssTestLoopCount

section Suite

/-- A group runs its scripts between a setup and a teardown, both `safe_fss`. -/
def group (scripts : Procedure (Station σ) Unit) : Procedure (Station σ) Unit := do
  safeFss site
  scripts
  safeFss site

def genericFssFunctionalTest : Procedure (Station σ) Unit :=
  group site do
    runGenericFssAppTest site
    runGenericFssDeviceTest site

def genericFssAutomatedScenarioTest : Procedure (Station σ) Unit := group site (runGenericFssAstTest site)

def genericFssTest : Procedure (Station σ) Unit :=
  group site do
    genericFssFunctionalTest site
    genericFssAutomatedScenarioTest site

end Suite

section Ruby

/-- `generic_fss_device_test.rb`. The scripts in Ruby call the same functions, but this one asks
for no packet before its first loop, -/
def genericFssDeviceTestRb : Procedure (Station σ) Unit :=
  .forRange (fun _ => do
      safeFss site
      confirmRejected site disable
      enableFss site
      confirmFssDataLoop site
      confirmRejected site enable
      confirmFssDataLoop site
      disableFss site) 0 genericFssTestLoopCount

/-- and `generic_fss_ast_test.rb` asks for nothing while the simulator is disabled. -/
def genericFssAstTestRb : Procedure (Station σ) Unit :=
  .forRange (fun _ => do
      fssPrepareAst site
      let devCmdCnt ← .read fun station => station.hkTlm.deviceCount
      let devCmdErrCnt ← .read fun station => station.hkTlm.deviceErrorCount
      fssSimDisable site
      .check fun station => station.hkTlm.deviceCount = devCmdCnt
      .check fun station => station.hkTlm.deviceErrorCount.toNat ≥ devCmdErrCnt.toNat
      fssSimEnable site
      confirmFssDataLoop site) 0 genericFssTestLoopCount

end Ruby

/-- A site whose flight computer is connected to the simulator. The simulator takes the
backdoor commands that are addressed to its own node. -/
def closedLoopSite {ρ : Type} (setup : ClosedLoop.Setup ρ) (commandNode : String) (lost : Nat → Fin 3 → Bool)
    (alphaWithin betaWithin : ClosedLoop.Loop → UInt32 → Bool) : Site ClosedLoop.Loop where
  plat := ClosedLoop.platform setup
  lost := lost
  alphaWithin := alphaWithin
  betaWithin := betaWithin
  simCmdbusBridge node command world :=
    if node = commandNode then { world with slave := Simulator.slaveStep setup.sim world.slave (.command command) } else world

end GenericFss.Procedures
