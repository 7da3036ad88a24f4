import GenericFss.Proofs.SimulatorQueue

/-! The transfer law of the sensor while it is enabled: a transfer is answered with what
the transfer before it asked for, and nothing else of the past shows. -/

namespace GenericFss.Proofs.SimulatorTransfers
open GenericFss Simulator Requests SimulatorFrame SimulatorQueue

variable {ρ : Type} (sim : Simulation ρ)

theorem isRequest_iff (inData : List UInt8) : isRequest inData = true ↔ inData = requestBytes := by
  constructor
  · intro request
    simp only [isRequest, decide_eq_true_eq] at request
    obtain ⟨seven, b0, b1, b2, b3, b4, b5, b6⟩ := request
    obtain ⟨bytes, rfl⟩ := Bytes.exists_ofFn seven
    simp_all [List.ofFn_succ, requestBytes]
  · rintro rfl
    rfl

/-- The data points taken in the course of some transfers: one for each request. -/
def sampled (history : List Transfer) : Nat := history.countP fun transfer => transfer.bytes = requestBytes

/-- What the transfer after `history` is offered: the frame of the data point taken at
the last transfer if that was the request, and nothing otherwise. -/
def offered (history : List Transfer) : List UInt8 :=
  match history.getLast? with
  | some last => if last.bytes = requestBytes then frame sim (sim.dataPoint (sampled history.dropLast)) else []
  | none => []

section Steps
variable {history : List Transfer} {model : HardwareModel}

theorem offered_concat (last : Transfer) :
    offered sim (history ++ [last]) =
      if last.bytes = requestBytes then frame sim (sim.dataPoint (sampled history)) else [] := by
  simp [offered]

theorem sampled_concat (last : Transfer) :
    sampled (history ++ [last]) = sampled history + if last.bytes = requestBytes then 1 else 0 := by
  simp [sampled, List.countP_append, List.countP_singleton]

/-- The model has taken one data point per request, and offers the right bytes if it was enabled all along. -/
structure Follows (history : List Transfer) (model : HardwareModel) : Prop where
  samples : model.samples = sampled history
  queued : (∀ transfer ∈ history, transfer.enabled = true) → model.queuedData = offered sim history

theorem createGenericFssData_samples (model : HardwareModel) :
    (createGenericFssData sim model).samples = model.samples + 1 := by
  by_cases enabled : model.enabled = simSuccess
  · rw [createGenericFssData_enabled sim model enabled]
  · rw [createGenericFssData_disabled sim model enabled]

theorem Follows.transfer (follows : Follows sim history model) (wbuf : List UInt8) :
    Follows sim (history ++ [⟨wbuf, model.enabled = simSuccess⟩]) (determineSpiResponseForRequest sim wbuf model).2 := by
  by_cases request : wbuf = requestBytes
  · simp only [determineSpiResponseForRequest, if_pos ((isRequest_iff wbuf).mpr request)]
    constructor
    · rw [createGenericFssData_samples, sampled_concat, if_pos request, follows.samples]
    · intro enabled
      have served := enabled _ (List.mem_append_right _ (List.mem_singleton.mpr rfl))
      rw [createGenericFssData_enabled sim model (of_decide_eq_true served), offered_concat, if_pos request, follows.samples]
  · simp only [determineSpiResponseForRequest, if_neg (mt (isRequest_iff wbuf).mp request), Bytes.resize_zero]
    constructor
    · rw [sampled_concat, if_neg request]
      exact follows.samples
    · intro _
      rw [offered_concat, if_neg request]

theorem transfers_follow (inputs : List Input) :
    Follows sim (transfers sim .construct inputs) (Machine.run (slaveStep sim) .construct inputs).fss := by
  apply transfers_invariant sim (Follows sim)
  · intro history model data follows
    obtain ⟨queue, samples⟩ := commandCallback_frame data model
    constructor
    · rw [samples, follows.samples]
    · rw [queue]
      exact follows.queued
  · intro history model wbuf follows
    exact follows.transfer sim wbuf
  · exact ⟨rfl, fun _ => rfl⟩

end Steps

/-- The transfer law: as long as every transfer finds the simulator enabled, the next one
is answered byte by byte with what it is offered and with 0xFF beyond, and a read of the
same length returns that answer. -/
theorem reply_law (inputs : List Input)
    (enabled : ∀ transfer ∈ transfers sim .construct inputs, transfer.enabled = true) (next : List UInt8) :
    let slave := Machine.run (slaveStep sim) .construct inputs
    let answer := reply sim slave next
    answer.length = next.length ∧
      (∀ index, index < next.length →
        answer[index]? = some ((offered sim (transfers sim .construct inputs))[index]?.getD 0xFF)) ∧
      ∀ rbuf, rbuf.length = next.length → spiRead rbuf (spiWrite sim next slave) = answer := by
  intro slave answer
  have queued : slave.fss.queuedData = offered sim (transfers sim .construct inputs) :=
    (transfers_follow sim inputs).queued enabled
  have shown : answer = Bytes.resize (offered sim (transfers sim .construct inputs)) next.length 0xFF := by
    rw [← queued]
    simp only [answer, reply, spiWrite, determineSpiResponseForRequest]
  obtain ⟨full, bytes⟩ := (Bytes.eq_resize_iff _ _ _).mp shown
  refine ⟨full, bytes, ?_⟩
  intro rbuf same
  have out : (spiWrite sim next slave).spiOutData = answer := rfl
  have taken : answer.take next.length = answer := List.take_of_length_le (Nat.le_of_eq full)
  have covered : rbuf.drop next.length = [] := List.drop_eq_nil_of_le (Nat.le_of_eq same)
  simp [spiRead, out, full, same, taken, covered]

/-- A request and then a long transfer: the frame of the sun at 1 and 2, padded. The transfer after
it gets nothing but padding. -/
theorem reply_law_twice :
    let asked := [.transfer requestBytes]
    let read := [.transfer requestBytes, .transfer (.replicate 17 0x00)]
    reply stillSun (Machine.run (slaveStep stillSun) .construct asked) (.replicate 17 0x00) =
        [0xDE, 0xAD, 0xBE, 0xEF, 0x01, 0x0A, 0x00, 0x00, 0x80, 0x3F, 0x00, 0x00, 0x00, 0x40, 0x00, 0x0A, 0xFF] ∧
      reply stillSun (Machine.run (slaveStep stillSun) .construct read) [0x00] = [0xFF] := by
  intro asked read
  obtain ⟨full, bytes, _⟩ := reply_law stillSun asked (by decide) (.replicate 17 0x00)
  obtain ⟨short, padding, _⟩ := reply_law stillSun read (by decide) [0x00]
  have answer := (Bytes.eq_resize_iff _ _ _).mpr ⟨full, bytes⟩
  have later := (Bytes.eq_resize_iff _ _ _).mpr ⟨short, padding⟩
  exact ⟨answer.trans (by decide), later.trans (by decide)⟩

end GenericFss.Proofs.SimulatorTransfers
