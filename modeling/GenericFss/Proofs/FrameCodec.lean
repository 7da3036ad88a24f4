import Mathlib.Logic.Function.Basic
import GenericFss.Proofs.Corruption

/-! The response frame as a code for the device data. The driver's test leaves no freedom:
among the accepted frames there is one for every value of the data, and only one. -/

namespace GenericFss.Proofs.FrameCodec
open GenericFss Device Bytes Requests ResponseFrame Corruption

section Frames

def encode (order : ByteOrder) (data : DeviceData) : Vector UInt8 deviceDataSize :=
  ⟨(response (hostBytes order data.alpha) (hostBytes order data.beta) data.errorCode).toArray, by simp [response]⟩

variable {order : ByteOrder}

theorem toList_encode (data : DeviceData) :
    (encode order data).toList = response (hostBytes order data.alpha) (hostBytes order data.beta) data.errorCode := rfl

theorem accepts_encode (data : DeviceData) : accepts (encode order data) = true :=
  (accepts_iff _).mpr (response_valid (toList_encode data))

theorem decode_encode (data : DeviceData) : decode order (encode order data) = data := by
  rw [decode_eq, carried_response (toList_encode data), hostWord_hostBytes, hostWord_hostBytes]

/-- An accepted frame is the code of what the driver reads in it. -/
theorem encode_decode {frame : Vector UInt8 deviceDataSize} (accepted : accepts frame = true) :
    encode order (decode order frame) = frame := by
  have valid := (accepts_iff frame).mp accepted
  obtain ⟨⟨byte0, byte1, byte2, byte3, byte4, byte5⟩, checksum⟩ := (valid_iff frame).mp valid
  have four (first second third fourth : UInt8) :
      hostBytes order (fourbytesLittleEndianToFloat order first second third fourth) = #v[first, second, third, fourth] :=
    (congrArg (hostBytes order) (fourbytes_eq order #v[first, second, third, fourth])).trans (hostBytes_hostWord order _)
  have bodies : body (hostBytes order (decode order frame).alpha) (hostBytes order (decode order frame).beta)
      (decode order frame).errorCode = covered frame := by
    rw [covered, toList_slice frame 4 11 (by decide)]
    simp [body, decode, four, List.ofFn_succ, byte4, byte5]
  have whole := toList_slice frame 0 16 (by decide)
  rw [List.drop_zero, List.take_of_length_le (by simp)] at whole
  apply Vector.toList_inj.mp
  rw [toList_encode, response, bodies, ← checksum, covered, toList_slice frame 4 11 (by decide), whole]
  simp [List.ofFn_succ, byte0, byte1, byte2, byte3]

/-- For either kind of host the accepted frames and the device data are in one-to-one correspondence. -/
theorem decode_bijective (order : ByteOrder) :
    Function.Bijective fun frame : { frame : Vector UInt8 deviceDataSize // accepts frame = true } => decode order frame.val := by
  constructor
  · intro first second same
    apply Subtype.ext
    rw [← encode_decode first.property, ← encode_decode second.property]
    exact congrArg (encode order) same
  · intro data
    exact ⟨⟨encode order data, accepts_encode data⟩, decode_encode data⟩

end Frames

end GenericFss.Proofs.FrameCodec
