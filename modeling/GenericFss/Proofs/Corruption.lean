import GenericFss.Proofs.DriverContract
import GenericFss.Proofs.SimulatorFrame

/-! Frames altered on the way from the simulator to the driver. Six bytes of a frame are
compared with constants, the checksum guards the nine that are not, and byte 15 is
compared with the checksum itself. -/

namespace GenericFss.Proofs.Corruption
open GenericFss Device Simulator Requests ResponseFrame SimulatorFrame DriverContract

def dataSum (frame : Vector UInt8 deviceDataSize) : Nat := (((frame.toList.drop 6).take 9).map UInt8.toNat).sum

def covered (frame : Vector UInt8 deviceDataSize) : List UInt8 := (frame.toList.drop 4).take 11

@[simp] theorem length_covered (frame : Vector UInt8 deviceDataSize) : (covered frame).length = 11 := by
  simp only [covered, List.length_take, List.length_drop, Vector.length_toList, deviceDataSize]
  rfl

theorem covered_sum (frame : Vector UInt8 deviceDataSize) :
    ((covered frame).map UInt8.toNat).sum = frame[4].toNat + frame[5].toNat + dataSum frame := by
  rw [covered, dataSum, Bytes.toList_slice frame 4 11 (by decide), Bytes.toList_slice frame 6 9 (by decide)]
  simp [List.ofFn_succ]
  omega

theorem covered_set (frame : Vector UInt8 deviceDataSize) {index : Nat} (inside : index < deviceDataSize)
    (guarded : 4 ≤ index) (byte : UInt8) : covered (frame.set index byte) = (covered frame).set (index - 4) byte := by
  rw [covered, Vector.toList_set, List.drop_set, if_neg (by omega), List.take_set, covered]

theorem valid_iff (frame : Vector UInt8 deviceDataSize) :
    ValidFrame frame ↔ (frame[0] = 0xDE ∧ frame[1] = 0xAD ∧ frame[2] = 0xBE ∧ frame[3] = 0xEF ∧ frame[4] = 0x01 ∧
      frame[5] = 0x0A) ∧ frame[15] = UInt8.ofNat ((covered frame).map UInt8.toNat).sum := by
  rw [← accepts_iff]
  simp [accepts, checksum_eq, covered, deviceHdr0, deviceHdr1, deviceHdr2, deviceHdr3, and_assoc]

section Alterations
variable {frame altered : Vector UInt8 deviceDataSize}

theorem not_valid_set (valid : ValidFrame frame) {index : Nat} (inside : index < deviceDataSize) {byte : UInt8}
    (different : byte ≠ frame[index]) : ¬ ValidFrame (frame.set index byte) := by
  intro validSet
  obtain ⟨⟨b0, b1, b2, b3, b4, b5⟩, checksum⟩ := (valid_iff frame).mp valid
  obtain ⟨⟨c0, c1, c2, c3, c4, c5⟩, checksumSet⟩ := (valid_iff _).mp validSet
  have fixed (other : Nat) (here : other < deviceDataSize) (same : (frame.set index byte)[other] = frame[other]) :
      index ≠ other := by
    rintro rfl
    rw [Vector.getElem_set_self] at same
    exact different same
  have not0 := fixed 0 (by decide) (c0.trans b0.symm)
  have not1 := fixed 1 (by decide) (c1.trans b1.symm)
  have not2 := fixed 2 (by decide) (c2.trans b2.symm)
  have not3 := fixed 3 (by decide) (c3.trans b3.symm)
  rw [covered_set frame inside (by omega)] at checksumSet
  by_cases last : index = 15
  · -- The last byte is outside the sum it is compared with.
    have unchanged : (covered frame).set (index - 4) byte = covered frame :=
      List.set_eq_of_length_le (by simp [last])
    rw [unchanged, ← checksum] at checksumSet
    exact fixed 15 (by decide) checksumSet last
  · have here : index - 4 < (covered frame).length := by
      simp only [length_covered, deviceDataSize] at inside ⊢
      omega
    have kept : (frame.set index byte)[15] = frame[15] := Vector.getElem_set_ne _ _ last
    rw [kept, checksum, Bytes.ofNat_inj_iff, eq_comm, Bytes.sum_set_iff here] at checksumSet
    apply different
    rw [checksumSet]
    simp [covered, Nat.add_sub_cancel' (show 4 ≤ index by omega)]

theorem valid_altered_iff (valid : ValidFrame frame)
    (kept : ∀ index (inside : index < deviceDataSize), index < 6 ∨ index = 15 → altered[index] = frame[index]) :
    ValidFrame altered ↔ dataSum altered % 256 = dataSum frame % 256 := by
  obtain ⟨fixed, checksum⟩ := (valid_iff frame).mp valid
  rw [valid_iff, covered_sum, kept 0 (by decide) (by decide), kept 1 (by decide) (by decide),
    kept 2 (by decide) (by decide), kept 3 (by decide) (by decide), kept 4 (by decide) (by decide),
    kept 5 (by decide) (by decide), kept 15 (by decide) (by decide), checksum, covered_sum, Bytes.ofNat_inj_iff,
    and_iff_right fixed]
  omega

end Alterations

section Caught
variable {ρ σ : Type} {sim : Simulation ρ} {model : HardwareModel} {frame : Vector UInt8 deviceDataSize}

theorem queued_valid (enabled : model.enabled = simSuccess) (queued : frame.toList = (createGenericFssData sim model).queuedData) :
    ValidFrame frame := by
  rw [createGenericFssData_enabled sim model enabled] at queued
  exact frame_valid queued

/-- The driver makes its request. A frame of the enabled simulator with one byte changed is never
accepted, and one with changed data bytes exactly if their sum is the same modulo 256. -/
theorem corruption_caught (enabled : model.enabled = simSuccess)
    (queued : frame.toList = (createGenericFssData sim model).queuedData) (plat : Platform σ) (data : DeviceData)
    (bus : Bus σ) :
    (∃ response, Request (requestCalls plat data bus) (requestData plat data bus).1 response) ∧
      (∀ index (inside : index < deviceDataSize) byte, byte ≠ frame[index] →
        accepts (frame.set index byte) = false ∧
          (Received (requestCalls plat data bus) (frame.set index byte) → (requestData plat data bus).2.1 = data)) ∧
      ∀ altered : Vector UInt8 deviceDataSize,
        (∀ index (inside : index < deviceDataSize), index < 6 ∨ index = 15 → altered[index] = frame[index]) →
          (accepts altered = true ↔ dataSum altered % 256 = dataSum frame % 256) ∧
            (Received (requestCalls plat data bus) altered → (requestData plat data bus).2.1 =
              if dataSum altered % 256 = dataSum frame % 256 then carried plat.byteOrder altered else data) := by
  have valid := queued_valid enabled queued
  obtain ⟨response, request, _⟩ := requestCalls_request plat data bus
  refine ⟨⟨response, request⟩, ?_, ?_⟩
  · intro index inside byte different
    have rejected := not_valid_set valid inside different
    constructor
    · rw [Bool.eq_false_iff, Ne, accepts_iff]
      exact rejected
    · intro received
      exact (stored_of_received received).trans (if_neg rejected)
  · intro altered kept
    have accepted := valid_altered_iff valid kept
    constructor
    · rw [accepts_iff, accepted]
    · intro received
      rw [stored_of_received received, store]
      simp only [accepted]

/-- The frame of the sun at 1 and 2. With its error code raised it is discarded; with 1 taken from
the byte before as well, it is stored. -/
theorem corruption_caught_still :
    let frame : Vector UInt8 deviceDataSize :=
      #v[0xDE, 0xAD, 0xBE, 0xEF, 0x01, 0x0A, 0x00, 0x00, 0x80, 0x3F, 0x00, 0x00, 0x00, 0x40, 0x00, 0x0A]
    (requestData scripted ⟨7, 7, 7⟩ (answering (frame.set 14 1).toList)).2.1 = ⟨7, 7, 7⟩ ∧
      (requestData scripted ⟨7, 7, 7⟩ (answering ((frame.set 14 1).set 13 0x3F).toList)).2.1 = ⟨0x3F800000, 0x3F000000, 1⟩ := by
  intro frame
  have queued : frame.toList = (createGenericFssData stillSun .construct).queuedData := by decide
  have caught (bytes : List UInt8) := @corruption_caught _ _ stillSun .construct frame rfl queued scripted ⟨7, 7, 7⟩ (answering bytes)
  constructor
  · obtain ⟨_, single, _⟩ := caught (frame.set 14 1).toList
    exact (single 14 (by decide) 1 (by decide)).2 (received_answering _ _)
  · obtain ⟨_, _, several⟩ := caught ((frame.set 14 1).set 13 0x3F).toList
    exact ((several ((frame.set 14 1).set 13 0x3F) (by decide)).2 (received_answering _ _)).trans (by decide)

end Caught

end GenericFss.Proofs.Corruption
