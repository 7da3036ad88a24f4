import GenericFss.Cfs
import GenericFss.Library.Layout

/-! The uplink: the commands of the COSMOS database as the bytes that are sent, and the header
functions of cFE, through which alone the application looks at them. -/

namespace GenericFss.Uplink
open Cfs Layout

inductive Command where
  | noopCc
  | rstCountersCc
  | enableCc
  | disableCc
  | reqHk
  | reqData
deriving DecidableEq, Repr

/-- The parameters that all commands have. An operator may set each to whatever fits. -/
structure Parameters where
  ccsdsStreamid : UInt16
  ccsdsSequence : UInt16
  ccsdsLength : UInt16
  ccsdsFc : UInt8
  ccsdsChecksum : UInt8
deriving DecidableEq, Repr

def Command.defaults : Command → Parameters
  | .noopCc => ⟨0x1920, 0xC000, 1, 0, 0⟩
  | .rstCountersCc => ⟨0x1920, 0xC000, 1, 1, 0⟩
  | .enableCc => ⟨0x1920, 0xC000, 1, 2, 0⟩
  | .disableCc => ⟨0x1920, 0xC000, 1, 3, 0⟩
  | .reqHk => ⟨0x1921, 0xC000, 1, 0, 0⟩
  | .reqData => ⟨0x1921, 0xC000, 1, 1, 0⟩

/-- The function code and the checksum have the order of the processor. -/
def Parameters.bytes (processorEndian : ByteOrder) (parameters : Parameters) : List UInt8 :=
  let order : Bool := processorEndian = .bigEndian
  encode [
    (⟨"CCSDS_STREAMID", 2, true⟩, parameters.ccsdsStreamid.toNat),
    (⟨"CCSDS_SEQUENCE", 2, true⟩, parameters.ccsdsSequence.toNat),
    (⟨"CCSDS_LENGTH", 2, true⟩, parameters.ccsdsLength.toNat),
    (⟨"CCSDS_FC", 1, order⟩, parameters.ccsdsFc.toNat),
    (⟨"CCSDS_CHECKSUM", 1, order⟩, parameters.ccsdsChecksum.toNat)]

/-- `CFE_MSG_CommandHeader_t`. -/
def commandHeader : List Item := [
  ⟨"CCSDS_STREAMID", 2, true⟩, ⟨"CCSDS_SEQUENCE", 2, true⟩, ⟨"CCSDS_LENGTH", 2, true⟩, ⟨"CCSDS_FC", 1, true⟩,
  ⟨"CCSDS_CHECKSUM", 1, true⟩]

/-- `CFE_MSG_GetMsgId`, `CFE_MSG_GetFcnCode` and `CFE_MSG_GetSize`, as far as they are documented: the
top bit of the function code is reserved, and the length in the header leaves seven bytes out. -/
structure MessageApi where
  getMsgId : List UInt8 → Nat
  getFcnCode : List UInt8 → Nat
  getSize : List UInt8 → Nat
  getMsgId_read : ∀ bytes streamId, read commandHeader "CCSDS_STREAMID" bytes = some streamId → getMsgId bytes = streamId
  getFcnCode_read : ∀ bytes code, read commandHeader "CCSDS_FC" bytes = some code → getFcnCode bytes = code % 128
  getSize_read : ∀ bytes length, read commandHeader "CCSDS_LENGTH" bytes = some length → getSize bytes = length + 7

def MessageApi.message (api : MessageApi) (bytes : List UInt8) : Message :=
  ⟨api.getMsgId bytes, api.getFcnCode bytes, api.getSize bytes⟩

end GenericFss.Uplink
