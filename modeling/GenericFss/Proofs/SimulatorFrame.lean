import GenericFss.Proofs.ResponseFrame
import GenericFss.Simulator

/-! The reply the simulator builds for a request, as the driver reads it. An enabled
simulator overwrites the whole queue, so nothing that was left there shows. -/

namespace GenericFss.Proofs.SimulatorFrame
open GenericFss Device Simulator Bytes Requests ResponseFrame

variable {ρ : Type} (sim : Simulation ρ)

/-- What a data point is measured as: its angles converted, and 0 if it is valid. -/
def measurement (point : DataPoint ρ) : DeviceData :=
  let parsed := point.parseDataPoint sim
  { alpha := sim.floatOfDouble parsed.alpha
    beta := sim.floatOfDouble parsed.beta
    errorCode := if parsed.valid then 0 else 1 }

/-- The reply to a request: the response frame of what is measured. -/
def frame (point : DataPoint ρ) : List UInt8 :=
  let reading := measurement sim point
  response (hostBytes sim.byteOrder reading.alpha) (hostBytes sim.byteOrder reading.beta) reading.errorCode

section Frames

private theorem overwritten {queue : List UInt8} (full : queue.length = 16)
    (b0 b1 b2 b3 b4 b5 b6 b7 b8 b9 b10 b11 b12 b13 b14 : UInt8) :
    ∃ last, ((((((((((((((queue.set 0 b0).set 1 b1).set 2 b2).set 3 b3).set 4 b4).set 5 b5).set 6 b6).set 7 b7).set 8
      b8).set 9 b9).set 10 b10).set 11 b11).set 12 b12).set 13 b13).set 14 b14 =
      [b0, b1, b2, b3] ++ [b4, b5, b6, b7, b8, b9, b10, b11, b12, b13, b14] ++ [last] := by
  obtain ⟨bytes, rfl⟩ := Bytes.exists_ofFn full
  exact ⟨bytes 15, by simp [List.ofFn_succ]⟩

private theorem checksum_covers {sync covered : List UInt8} (last : UInt8) (four : sync.length = 4)
    (eleven : covered.length = 11) :
    (sync ++ covered ++ [last]).set 15 (Simulator.computeChecksum (sync ++ covered ++ [last]) 4 11) =
      sync ++ covered ++ [UInt8.ofNat (covered.map UInt8.toNat).sum] := by
  have sum : Simulator.computeChecksum (sync ++ covered ++ [last]) 4 11 = UInt8.ofNat (covered.map UInt8.toNat).sum := by
    rw [Simulator.computeChecksum, lowByte_sum, List.append_assoc, List.drop_left' four, List.take_left' eleven]
  rw [sum, List.set_append_right _ _ (by simp [four, eleven])]
  simp [four, eleven]

theorem doubleTo4bytes_eq (input : UInt64) :
    doubleTo4bytesLittleEndian sim input = hostBytes sim.byteOrder (sim.floatOfDouble input) := by
  cases order : sim.byteOrder with
  | littleEndian => simp only [doubleTo4bytesLittleEndian, order, hostBytes, leastFirst_eq]
  | bigEndian => simp only [doubleTo4bytesLittleEndian, order, hostBytes, mostFirst_eq]

/-- While enabled, a request queues the frame of the current data point, whatever was queued before. -/
theorem createGenericFssData_enabled (model : HardwareModel) (enabled : model.enabled = simSuccess) :
    createGenericFssData sim model =
      { model with queuedData := frame sim (sim.dataPoint model.samples), samples := model.samples + 1 } := by
  have full : (Bytes.resize model.queuedData 16 (0x00 : UInt8)).length = 16 := Bytes.length_resize ..
  simp only [createGenericFssData, if_pos enabled, DataPoint.getGenericFssValid, DataPoint.getGenericFssAlpha,
    DataPoint.getGenericFssBeta, DataPoint.parseDataPoint_parseDataPoint]
  generalize Bytes.resize model.queuedData 16 (0x00 : UInt8) = queue at full ⊢
  generalize sim.dataPoint model.samples = point
  obtain ⟨a0, a1, a2, a3, alpha⟩ := exists_four (hostBytes sim.byteOrder (sim.floatOfDouble (point.parseDataPoint sim).alpha))
  obtain ⟨b0, b1, b2, b3, beta⟩ := exists_four (hostBytes sim.byteOrder (sim.floatOfDouble (point.parseDataPoint sim).beta))
  simp only [frame, measurement, doubleTo4bytes_eq, alpha, beta, List.set_set]
  split
  all_goals
    obtain ⟨last, same⟩ := overwritten full _ _ _ _ _ _ _ _ _ _ _ _ _ _ _
    rw [same, checksum_covers last rfl rfl]
    simp [response, ResponseFrame.body]

@[simp] theorem length_frame (point : DataPoint ρ) : (frame sim point).length = 16 := by simp [frame, response]

section Received
variable {sim} {point : DataPoint ρ} {received : Vector UInt8 deviceDataSize} (same : received.toList = frame sim point)
include same

theorem frame_valid : ValidFrame received := response_valid same

theorem carried_frame : carried sim.byteOrder received = measurement sim point := by
  rw [carried_response same, hostWord_hostBytes, hostWord_hostBytes]

end Received

end Frames

end GenericFss.Proofs.SimulatorFrame
