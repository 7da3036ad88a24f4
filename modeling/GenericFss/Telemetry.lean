import GenericFss.Cfs
import GenericFss.Library.Layout
import GenericFss.Library.Bytes

/-! The downlink: the packets as they lie in the memory of the flight computer, and the two
databases by which ground systems read them. -/

namespace GenericFss.Telemetry
open Device Cfs Layout

def hkTlmMid : Nat := 0x0920
def deviceTlmMid : Nat := 0x0921

/-- The bytes of a `float` in memory. -/
def floatBytes (order : ByteOrder) (float : UInt32) : List UInt8 :=
  match order with
  | .littleEndian => (Bytes.leastFirst float).toList
  | .bigEndian => (Bytes.mostFirst float).toList

/-- `CFE_MSG_TelemetryHeader_t`, of which `CFE_MSG_Init` has set the stream id. -/
structure TelemetryHeader (mid : Nat) where
  streamId : List UInt8
  others : List UInt8
  streamId_length : streamId.length = 2
  others_length : others.length = 14
  streamId_mid : number streamId.reverse = mid

def mid : Packet → Nat
  | .housekeeping _ => hkTlmMid
  | .device _ => deviceTlmMid

/-- `GENERIC_FSS_Hk_tlm_t` and `GENERIC_FSS_Device_tlm_t`, both packed. -/
def bytes (order : ByteOrder) (packet : Packet) (header : TelemetryHeader (mid packet)) : List UInt8 :=
  header.streamId ++ header.others ++
    match packet with
    | .housekeeping hk => [hk.commandErrorCount, hk.commandCount, hk.deviceErrorCount, hk.deviceCount, hk.deviceEnabled]
    | .device data => floatBytes order data.alpha ++ floatBytes order data.beta ++ [data.errorCode]

/-- A packet of a database. It is recognized by `CCSDS_STREAMID`. -/
structure Definition where
  name : String
  streamId : Nat
  items : List Item

def hkItems (bigEndian : Bool) : List Item := [
  ⟨"CMD_ERR_COUNT", 1, bigEndian⟩, ⟨"CMD_COUNT", 1, bigEndian⟩, ⟨"DEVICE_ERR_COUNT", 1, bigEndian⟩,
  ⟨"DEVICE_COUNT", 1, bigEndian⟩, ⟨"DEVICE_ENABLED", 1, bigEndian⟩]

def dataItems (floats errorCode : Bool) : List Item := [
  ⟨"GENERIC_FSS_ALPHA", 4, floats⟩, ⟨"GENERIC_FSS_BETA", 4, floats⟩, ⟨"GENERIC_FSS_ERROR_CODE", 1, errorCode⟩]

section Cosmos
variable (processorEndian : ByteOrder)

def processorBigEndian : Bool := processorEndian = .bigEndian

def ccsdsItems : List Item := [
  ⟨"CCSDS_STREAMID", 2, true⟩, ⟨"CCSDS_SEQUENCE", 2, true⟩, ⟨"CCSDS_LENGTH", 2, true⟩,
  ⟨"CCSDS_SECONDS", 4, true⟩, ⟨"CCSDS_SUBSECS", 2, true⟩, ⟨"CCSDS_SPARE", 4, processorBigEndian processorEndian⟩]

/-- An item without an order of its own has the order of its packet. -/
def cosmos : List Definition := [
  ⟨"GENERIC_FSS_HK_TLM", 0x0920, ccsdsItems processorEndian ++ hkItems (processorBigEndian processorEndian)⟩,
  ⟨"GENERIC_FSS_DATA_TLM", 0x0921, ccsdsItems processorEndian ++
    dataItems (processorBigEndian processorEndian) (processorBigEndian processorEndian)⟩]

end Cosmos

/-- Both containers extend `/CCSDS/CCSDS_TM`, whose entries are `ccsdsTm`. An encoding without an
order of its own has the most significant byte first. -/
def xtce (ccsdsTm : List Item) : List Definition := [
  ⟨"GENERIC_FSS_DATA_TLM", 2337, ccsdsTm ++ dataItems false true⟩,
  ⟨"GENERIC_FSS_HK_TLM", 2336, ccsdsTm ++ hkItems true⟩]

def identify (definitions : List Definition) (bytes : List UInt8) : Option Definition :=
  definitions.find? fun definition => read definition.items "CCSDS_STREAMID" bytes = some definition.streamId

/-- What the items of a packet say. -/
def Definition.packet (definition : Definition) (bytes : List UInt8) : Option Packet :=
  let byte (name : String) : Option UInt8 := (read definition.items name bytes).map UInt8.ofNat
  let float (name : String) : Option UInt32 := (read definition.items name bytes).map UInt32.ofNat
  if definition.name = "GENERIC_FSS_HK_TLM" then do
    return .housekeeping {
      commandErrorCount := ← byte "CMD_ERR_COUNT"
      commandCount := ← byte "CMD_COUNT"
      deviceErrorCount := ← byte "DEVICE_ERR_COUNT"
      deviceCount := ← byte "DEVICE_COUNT"
      deviceEnabled := ← byte "DEVICE_ENABLED" }
  else do
    return .device {
      alpha := ← float "GENERIC_FSS_ALPHA"
      beta := ← float "GENERIC_FSS_BETA"
      errorCode := ← byte "GENERIC_FSS_ERROR_CODE" }

/-- The ground's view of what arrives. -/
def received (definitions : List Definition) (bytes : List UInt8) : Option Packet :=
  (identify definitions bytes).bind (·.packet bytes)

end GenericFss.Telemetry
