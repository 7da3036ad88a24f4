import GenericFss.Proofs.Requests

/-! The response frame as a function of what it carries. Its parts can be read back,
whatever order the eight angle bytes stand in. -/

namespace GenericFss.Proofs.ResponseFrame
open GenericFss Device Bytes Requests

/-- Command code, length and application data: the bytes that the checksum covers. -/
def body (alpha beta : Vector UInt8 4) (errorCode : UInt8) : List UInt8 :=
  [0x01, 0x0A] ++ alpha.toList ++ beta.toList ++ [errorCode]

/-- Sync word, body, and the low byte of the sum of the body. -/
def response (alpha beta : Vector UInt8 4) (errorCode : UInt8) : List UInt8 :=
  [0xDE, 0xAD, 0xBE, 0xEF] ++ body alpha beta errorCode ++ [UInt8.ofNat ((body alpha beta errorCode).map UInt8.toNat).sum]

/-- The bytes of a pattern as a host writes them, least significant first or last. -/
def hostBytes (order : ByteOrder) (pattern : UInt32) : Vector UInt8 4 :=
  match order with
  | .littleEndian => leastFirst pattern
  | .bigEndian => mostFirst pattern

section Hosts
variable (order : ByteOrder)

@[simp] theorem hostWord_hostBytes (pattern : UInt32) : hostWord order (hostBytes order pattern) = pattern := by
  cases order with
  | littleEndian => exact ofBytes_leastFirst pattern
  | bigEndian => exact (congrArg ofBytes (reverse_mostFirst pattern)).trans (ofBytes_leastFirst pattern)

@[simp] theorem hostBytes_hostWord (bytes : Vector UInt8 4) : hostBytes order (hostWord order bytes) = bytes := by
  cases order with
  | littleEndian => exact ofBytes_inj.mp (ofBytes_leastFirst _)
  | bigEndian =>
    have backwards : leastFirst (ofBytes bytes.reverse) = bytes.reverse := ofBytes_inj.mp (ofBytes_leastFirst _)
    have forwards := congrArg Vector.reverse backwards
    rwa [reverse_leastFirst, Vector.reverse_reverse] at forwards

end Hosts

variable {alpha beta : Vector UInt8 4} {errorCode : UInt8}

@[simp] theorem length_body : (body alpha beta errorCode).length = 11 := by simp [body]

theorem response_inj {alpha' beta' : Vector UInt8 4} {errorCode' : UInt8} :
    response alpha beta errorCode = response alpha' beta' errorCode' ↔
      alpha = alpha' ∧ beta = beta' ∧ errorCode = errorCode' := by
  constructor
  · intro same
    have bodies := (List.append_inj' same rfl).1
    obtain ⟨angles, error⟩ := List.append_inj' (List.append_cancel_left bodies) rfl
    obtain ⟨first, second⟩ := List.append_inj' angles (by simp)
    exact ⟨Vector.toList_inj.mp (List.append_cancel_left first), Vector.toList_inj.mp second, List.singleton_inj.mp error⟩
  · rintro ⟨rfl, rfl, rfl⟩
    rfl

theorem response_parts :
    (response alpha beta errorCode)[14]? = some errorCode ∧
      ((response alpha beta errorCode).drop 6).take 8 = alpha.toList ++ beta.toList := by
  rw [response]
  generalize UInt8.ofNat ((body alpha beta errorCode).map UInt8.toNat).sum = checksum
  obtain ⟨a0, a1, a2, a3, rfl⟩ := exists_four alpha
  obtain ⟨b0, b1, b2, b3, rfl⟩ := exists_four beta
  exact ⟨rfl, rfl⟩

section Received
variable {received : Vector UInt8 deviceDataSize} (same : received.toList = response alpha beta errorCode)
include same

theorem received_eq : received =
    #v[(0xDE : UInt8), 0xAD, 0xBE, 0xEF, 0x01, 0x0A, alpha.get 0, alpha.get 1, alpha.get 2, alpha.get 3, beta.get 0,
      beta.get 1, beta.get 2, beta.get 3, errorCode, UInt8.ofNat ((body alpha beta errorCode).map UInt8.toNat).sum] := by
  apply Vector.toList_inj.mp
  rw [same, response]
  generalize UInt8.ofNat ((body alpha beta errorCode).map UInt8.toNat).sum = checksum
  obtain ⟨a0, a1, a2, a3, rfl⟩ := exists_four alpha
  obtain ⟨b0, b1, b2, b3, rfl⟩ := exists_four beta
  rfl

theorem response_valid : ValidFrame received := by
  have covered : (received.toList.drop 4).take 11 = body alpha beta errorCode := by
    rw [same, response, List.append_assoc]
    exact List.take_left' length_body
  constructor
  · rw [same]
    rfl
  · rw [received_eq same]
    rfl
  · rw [received_eq same]
    rfl
  · rw [covered, received_eq same]
    rfl

theorem carried_response (order : ByteOrder) :
    carried order received = ⟨hostWord order alpha, hostWord order beta, errorCode⟩ := by
  have four (bytes : Vector UInt8 4) : #v[bytes.get 0, bytes.get 1, bytes.get 2, bytes.get 3] = bytes := by
    obtain ⟨b0, b1, b2, b3, rfl⟩ := exists_four bytes
    rfl
  rw [carried, ← four alpha, ← four beta, received_eq same]
  rfl

end Received

end GenericFss.Proofs.ResponseFrame
