import GenericFss.Script
import GenericFss.Uplink
import GenericFss.Proofs.CfsStep

/-! From the command database to the application's dispatch: which of the six commands it takes
the bytes for that an operator sends. -/

namespace GenericFss.Proofs.CommandFormat
open GenericFss Cfs CfsStep Layout Uplink

def asks : Command → Directive
  | .noopCc => .noop
  | .rstCountersCc => .resetCounters
  | .enableCc => .enable
  | .disableCc => .disable
  | .reqHk => .housekeeping
  | .reqData => .data

theorem decode_bytes (processorEndian : ByteOrder) (parameters : Parameters) :
    decode commandHeader (parameters.bytes processorEndian) = some [
      ("CCSDS_STREAMID", parameters.ccsdsStreamid.toNat), ("CCSDS_SEQUENCE", parameters.ccsdsSequence.toNat),
      ("CCSDS_LENGTH", parameters.ccsdsLength.toNat), ("CCSDS_FC", parameters.ccsdsFc.toNat),
      ("CCSDS_CHECKSUM", parameters.ccsdsChecksum.toNat)] := by
  let order : Bool := processorEndian = .bigEndian
  let fields : List (Item × Nat) := [
    (⟨"CCSDS_STREAMID", 2, true⟩, parameters.ccsdsStreamid.toNat), (⟨"CCSDS_SEQUENCE", 2, true⟩, parameters.ccsdsSequence.toNat),
    (⟨"CCSDS_LENGTH", 2, true⟩, parameters.ccsdsLength.toNat), (⟨"CCSDS_FC", 1, order⟩, parameters.ccsdsFc.toNat),
    (⟨"CCSDS_CHECKSUM", 1, order⟩, parameters.ccsdsChecksum.toNat)]
  have byte (name : String) : Item.Alike ⟨name, 1, true⟩ ⟨name, 1, order⟩ := ⟨rfl, rfl, .inl (Nat.le_refl 1)⟩
  have same (item : Item) : Item.Alike item item := ⟨rfl, rfl, .inr rfl⟩
  have alike : List.Forall₂ Item.Alike commandHeader (fields.map Prod.fst) :=
    .cons (same _) (.cons (same _) (.cons (same _) (.cons (byte _) (.cons (byte _) .nil))))
  have written := decode_encode fields []
  rw [List.append_nil] at written
  have word (value : UInt16) : value.toNat % capacity 2 = value.toNat := Nat.mod_eq_of_lt value.toNat_lt
  have small (value : UInt8) : value.toNat % capacity 1 = value.toNat := Nat.mod_eq_of_lt value.toNat_lt
  refine (decode_congr alike).trans (written.trans ?_)
  simp only [fields, List.map_cons, List.map_nil, word, small]

theorem message_bytes (api : MessageApi) (processorEndian : ByteOrder) (parameters : Parameters) :
    api.message (parameters.bytes processorEndian) =
      ⟨parameters.ccsdsStreamid.toNat, parameters.ccsdsFc.toNat % 128, parameters.ccsdsLength.toNat + 7⟩ := by
  have decoded := decode_bytes processorEndian parameters
  rw [MessageApi.message, api.getMsgId_read _ parameters.ccsdsStreamid.toNat, api.getFcnCode_read _ parameters.ccsdsFc.toNat,
    api.getSize_read _ parameters.ccsdsLength.toNat]
  all_goals
    rw [Layout.read, decoded]
    rfl

theorem directive_iff {σ : Type} (plat : Platform σ) (msg : Message) (command : Command) :
    directive plat msg = asks command ↔
      msg.msgId = command.defaults.ccsdsStreamid.toNat ∧ msg.fcnCode = command.defaults.ccsdsFc.toNat ∧
        (command.defaults.ccsdsStreamid = 0x1920 → msg.size = plat.sizeofNoArgsCmd.toNat) := by
  have apart : reqHkMid ≠ cmdMid := by decide
  by_cases ground : msg.msgId = cmdMid
  · by_cases sized : msg.size = plat.sizeofNoArgsCmd.toNat
    · simp only [directive, if_pos ground, if_pos sized]
      (repeat' split) <;> cases command <;> simp_all [asks, Command.defaults, cmdMid, noopCc, resetCountersCc, enableCc, disableCc]
    · simp only [directive, if_pos ground, if_neg sized]
      cases command <;> simp_all [asks, Command.defaults, cmdMid]
  · by_cases request : msg.msgId = reqHkMid
    · simp only [directive, if_neg ground, if_pos request]
      (repeat' split) <;> cases command <;> simp_all [asks, Command.defaults, cmdMid, reqHkMid, reqHkTlm, reqDataTlm]
    · simp only [directive, if_neg ground, if_neg request]
      cases command <;> simp_all [asks, Command.defaults, cmdMid, reqHkMid]

/-- Whatever an operator sets the parameters to, on whatever ground and flight computer: the application
acts on the command that was meant if and only if the stream id is the command's own, the function
code is up to its reserved bit, and, unless telemetry is requested, the length is the expected one. -/
theorem dispatched_iff {σ : Type} (plat : Platform σ) (api : MessageApi) (processorEndian : ByteOrder) (command : Command)
    (parameters : Parameters) :
    directive plat (api.message (parameters.bytes processorEndian)) = asks command ↔
      parameters.ccsdsStreamid = command.defaults.ccsdsStreamid ∧
        parameters.ccsdsFc.toNat % 128 = command.defaults.ccsdsFc.toNat ∧
        (command.defaults.ccsdsStreamid = 0x1920 → parameters.ccsdsLength.toNat + 7 = plat.sizeofNoArgsCmd.toNat) := by
  rw [message_bytes, directive_iff, UInt16.toNat_inj]

def documentedApi : MessageApi where
  getMsgId bytes := (Layout.read commandHeader "CCSDS_STREAMID" bytes).getD 0
  getFcnCode bytes := (Layout.read commandHeader "CCSDS_FC" bytes).getD 0 % 128
  getSize bytes := (Layout.read commandHeader "CCSDS_LENGTH" bytes).getD 0 + 7
  getMsgId_read bytes streamId found := by rw [found, Option.getD_some]
  getFcnCode_read bytes code found := by rw [found, Option.getD_some]
  getSize_read bytes length found := by rw [found, Option.getD_some]

/-- A NOOP whose function code is set to 130 enables the device. -/
theorem dispatched_iff_reserved_bit :
    directive scripted (documentedApi.message ({ Command.noopCc.defaults with ccsdsFc := 130 }.bytes .littleEndian)) = .enable :=
  (dispatched_iff scripted documentedApi .littleEndian .enableCc { Command.noopCc.defaults with ccsdsFc := 130 }).mpr
    ⟨rfl, rfl, fun _ => rfl⟩

end GenericFss.Proofs.CommandFormat
