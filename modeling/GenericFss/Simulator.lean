import GenericFss.Library.Bytes
import GenericFss.DataPoint

/-! The simulated sensor: the hardware model behind its SPI slave connection. A
reply is queued while one transfer is handled and sent during the next. -/

namespace GenericFss.Simulator

def simSuccess : UInt8 := 0
def simError : UInt8 := 1

/-- `Generic_fssHardwareModel`. `samples` counts the data points taken so far. -/
structure HardwareModel where
  enabled : UInt8
  queuedData : List UInt8
  keepRunning : Bool
  samples : Nat
deriving DecidableEq, Repr

def HardwareModel.construct : HardwareModel := ⟨0, [], true, 0⟩

/-- `command.compare(0, word.length(), word) == 0`. -/
def matchesWord (command : List Char) (word : String) : Bool := command.take word.toList.length == word.toList

def commandCallback (data : List Char) (model : HardwareModel) : String × HardwareModel :=
  let command := data.map Char.toUpper
  if matchesWord command "HELP" then
    ("Generic_fssHardwareModel::command_callback: Valid commands are HELP, ENABLE, DISABLE, or STOP", model)
  else if matchesWord command "ENABLE" then
    ("Generic_fssHardwareModel::command_callback:  Enabled", { model with enabled := simSuccess })
  else if matchesWord command "DISABLE" then
    ("Generic_fssHardwareModel::command_callback:  Disabled", { model with enabled := simError })
  else if matchesWord command "STOP" then
    ("Generic_fssHardwareModel::command_callback:  Stopping", { model with keepRunning := false })
  else ("Generic_fssHardwareModel::command_callback:  INVALID COMMAND! (Try HELP)", model)

def computeChecksum (bytes : List UInt8) (startingByte numberOfBytes : Nat) : UInt8 :=
  Bytes.lowByte (Bytes.sum ((bytes.drop startingByte).take numberOfBytes))

section Frames
variable {ρ : Type} (sim : Simulation ρ)

def doubleTo4bytesLittleEndian (input : UInt64) : Vector UInt8 4 :=
  let u := sim.floatOfDouble input
  match sim.byteOrder with
  | .littleEndian => #v[Bytes.byteAt u 0, Bytes.byteAt u 8, Bytes.byteAt u 16, Bytes.byteAt u 24]
  | .bigEndian => #v[Bytes.byteAt u 24, Bytes.byteAt u 16, Bytes.byteAt u 8, Bytes.byteAt u 0]

def createGenericFssData (model : HardwareModel) : HardwareModel :=
  let point := sim.dataPoint model.samples
  let model := { model with samples := model.samples + 1 }
  let queued : List UInt8 := Bytes.resize model.queuedData 16 0x00
  if model.enabled = simSuccess then
    let (valid, point) := point.getGenericFssValid sim
    let (alpha, point) := point.getGenericFssAlpha sim
    let (beta, _) := point.getGenericFssBeta sim
    let queued := (((queued.set 0 0xDE).set 1 0xAD).set 2 0xBE).set 3 0xEF
    let queued := (queued.set 4 0x01).set 5 0x0A
    let fourBytes := doubleTo4bytesLittleEndian sim alpha
    let queued := (((queued.set 6 fourBytes[0]).set 7 fourBytes[1]).set 8 fourBytes[2]).set 9 fourBytes[3]
    let fourBytes := doubleTo4bytesLittleEndian sim beta
    let queued := (((queued.set 10 fourBytes[0]).set 11 fourBytes[1]).set 12 fourBytes[2]).set 13 fourBytes[3]
    let queued := queued.set 14 1
    let queued := if valid then queued.set 14 0 else queued
    { model with queuedData := queued.set 15 (computeChecksum queued 4 11) }
  -- While disabled only the size was prepared; what was queued before is still there.
  else { model with queuedData := queued }

def isRequest (inData : List UInt8) : Bool :=
  inData.length = 7 ∧ inData[0]? = some 0xDE ∧ inData[1]? = some 0xAD ∧ inData[2]? = some 0xBE ∧
    inData[3]? = some 0xEF ∧ inData[4]? = some 0x01 ∧ inData[5]? = some 0x01 ∧ inData[6]? = some 0x02

/-- What goes out was determined by the transfer before this one. -/
def determineSpiResponseForRequest (inData : List UInt8) (model : HardwareModel) : List UInt8 × HardwareModel :=
  let outData := Bytes.resize model.queuedData inData.length 0xFF
  let model :=
    if isRequest inData then createGenericFssData sim model
    else { model with queuedData := Bytes.resize model.queuedData 0 0 }
  (outData, model)

end Frames

structure SpiSlaveConnection where
  fss : HardwareModel
  spiOutData : List UInt8
deriving DecidableEq, Repr

def SpiSlaveConnection.construct : SpiSlaveConnection := ⟨.construct, []⟩

section Slave
variable {ρ : Type} (sim : Simulation ρ)

def spiWrite (wbuf : List UInt8) (slave : SpiSlaveConnection) : SpiSlaveConnection :=
  let (spiOutData, fss) := determineSpiResponseForRequest sim wbuf slave.fss
  ⟨fss, spiOutData⟩

def spiRead (rbuf : List UInt8) (slave : SpiSlaveConnection) : List UInt8 :=
  let rlen := if slave.spiOutData.length < rbuf.length then slave.spiOutData.length else rbuf.length
  slave.spiOutData.take rlen ++ rbuf.drop rlen

inductive Input where
  | command (data : List Char)
  | transfer (wbuf : List UInt8)
deriving DecidableEq, Repr

def slaveStep (slave : SpiSlaveConnection) : Input → SpiSlaveConnection
  | .command data => { slave with fss := (commandCallback data slave.fss).2 }
  | .transfer wbuf => spiWrite sim wbuf slave

end Slave

end GenericFss.Simulator
