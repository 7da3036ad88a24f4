import GenericFss.Library.Bytes
import GenericFss.Platform

/-! The sensor driver shared by the cFS application, the F' component and the
checkout tool. A `float` is its 32-bit pattern: the driver only moves the bits. -/

namespace GenericFss.Device

def deviceHdr0 : UInt8 := 0xDE
def deviceHdr1 : UInt8 := 0xAD
def deviceHdr2 : UInt8 := 0xBE
def deviceHdr3 : UInt8 := 0xEF

def deviceReqDataCmd : UInt8 := 0x01

structure DeviceData where
  alpha : UInt32
  beta : UInt32
  errorCode : UInt8
deriving DecidableEq, Repr

def computeChecksum (bytes : List UInt8) (startingByte numberOfBytes : Nat) : UInt8 :=
  Bytes.lowByte (Bytes.sum ((bytes.drop startingByte).take numberOfBytes))

def fourbytesLittleEndianToFloat (order : ByteOrder) (byte0 byte1 byte2 byte3 : UInt8) : UInt32 :=
  match order with
  | .littleEndian => Bytes.word byte0 byte1 byte2 byte3
  | .bigEndian => Bytes.word byte3 byte2 byte1 byte0

variable {σ : Type} (plat : Platform σ)

/-- The chain `select && transaction && unselect`: a failure skips everything
after it, the release of the chip included. -/
def transfer {length : Nat} (writeData readData : Vector UInt8 length) (bus : Bus σ) :
    Status × Vector UInt8 length × Bus σ :=
  let (selected, bus) := spiSelectChip plat bus
  if selected = spiSuccess then
    let (moved, readData, bus) := spiTransaction plat bus writeData readData cfgDelay cfgBitsPerWord 0
    if moved = spiSuccess then
      let (released, bus) := spiUnselectChip plat bus
      (if released = spiSuccess then osSuccess else osError, readData, bus)
    else (osError, readData, bus)
  else (osError, readData, bus)

def readData {length : Nat} (writeData readData : Vector UInt8 length) (bus : Bus σ) :
    Status × Vector UInt8 length × Bus σ :=
  transfer plat writeData readData bus

def commandFrame (writeData : Vector UInt8 deviceCmdSize) (cmdCode : UInt8) : Vector UInt8 deviceCmdSize :=
  let writeData := writeData.set 0 deviceHdr0
  let writeData := writeData.set 1 deviceHdr1
  let writeData := writeData.set 2 deviceHdr2
  let writeData := writeData.set 3 deviceHdr3
  let writeData := writeData.set 4 cmdCode
  let writeData := writeData.set 5 0x01
  writeData.set 6 (computeChecksum writeData.toList 4 2)

def commandDevice (writeData readData : Vector UInt8 deviceCmdSize) (cmdCode : UInt8) (bus : Bus σ) :
    Status × Bus σ :=
  let (status, _, bus) := transfer plat (commandFrame writeData cmdCode) readData bus
  (status, bus)

def accepts (readData : Vector UInt8 deviceDataSize) : Bool :=
  readData[0] = deviceHdr0 ∧ readData[1] = deviceHdr1 ∧ readData[2] = deviceHdr2 ∧ readData[3] = deviceHdr3 ∧
    readData[4] = 0x01 ∧ readData[5] = 0x0A ∧ readData[15] = computeChecksum readData.toList 4 11

def decode (order : ByteOrder) (readData : Vector UInt8 deviceDataSize) : DeviceData where
  alpha := fourbytesLittleEndianToFloat order readData[6] readData[7] readData[8] readData[9]
  beta := fourbytesLittleEndianToFloat order readData[10] readData[11] readData[12] readData[13]
  errorCode := readData[14]

def requestData (data : DeviceData) (bus : Bus σ) : Status × DeviceData × Bus σ :=
  let bus := bus.record (.requestData bus.device)
  let locals := plat.locals bus.world
  let (status, bus) := commandDevice plat locals.commandWriteData locals.commandReadData deviceReqDataCmd bus
  let (status, data, bus) :=
    if status = osSuccess then
      let (status, received, bus) := readData plat locals.writeData locals.readData bus
      if status = osSuccess then
        -- A frame that fails the test changes neither `data` nor the success of the read.
        if accepts received then (status, decode plat.byteOrder received, bus)
        else (status, data, bus)
      else (osError, data, bus)
    else (status, data, bus)
  (status, data, bus.record (.requestDataReturned status))

end GenericFss.Device
