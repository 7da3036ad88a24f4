import GenericFss.Library.Machine
import GenericFss.Library.Tally
import GenericFss.Proofs.SimulatorFrame
import GenericFss.Script

/-! What the simulator has queued, as a function of the transfers it has seen. Only
the requests since the last other transfer matter: one of them that was received
while enabled leaves a frame, and a request received while disabled does not remove it. -/

namespace GenericFss.Proofs.SimulatorQueue
open GenericFss Simulator SimulatorFrame

variable {ρ : Type} (sim : Simulation ρ)

def syncWord : List UInt8 := [0xDE, 0xAD, 0xBE, 0xEF]

structure Transfer where
  bytes : List UInt8
  enabled : Bool
deriving DecidableEq, Repr

def transfers (slave : SpiSlaveConnection) : List Input → List Transfer
  | [] => []
  | .command data :: rest => transfers (slaveStep sim slave (.command data)) rest
  | .transfer wbuf :: rest =>
    ⟨wbuf, slave.fss.enabled = simSuccess⟩ :: transfers (slaveStep sim slave (.transfer wbuf)) rest

/-- The requests received since the last transfer that was not one. -/
def pending (history : List Transfer) : List Transfer :=
  Tally.sinceLast (fun transfer => !isRequest transfer.bytes) history

inductive Queue : List Transfer → List UInt8 → Prop where
  | empty : Queue [] []
  | blank {requests} : (∀ request ∈ requests, request.enabled = false) → Queue requests (.replicate 16 0x00)
  | loaded {requests queued} : (∃ request ∈ requests, request.enabled = true) → queued.length = 16 →
      queued.take 4 = syncWord → Queue requests queued

section Steps

theorem createGenericFssData_disabled (model : HardwareModel) (disabled : model.enabled ≠ simSuccess) :
    createGenericFssData sim model =
      { model with queuedData := Bytes.resize model.queuedData 16 0x00, samples := model.samples + 1 } := by
  simp only [createGenericFssData, if_neg disabled]

/-- A backdoor command does not touch the transfers. -/
theorem commandCallback_frame (data : List Char) (model : HardwareModel) :
    (commandCallback data model).2.queuedData = model.queuedData ∧
      (commandCallback data model).2.samples = model.samples := by
  simp only [commandCallback]
  (repeat' split) <;> exact ⟨rfl, rfl⟩

/-- A request received while disabled only pads the queue: a frame that is there stays there. -/
theorem Queue.padded {requests : List Transfer} {queued : List UInt8} {request : Transfer} (queue : Queue requests queued)
    (disabled : request.enabled = false) : Queue (requests ++ [request]) (Bytes.resize queued 16 0x00) := by
  have kept {queued : List UInt8} (full : queued.length = 16) : Bytes.resize queued 16 0x00 = queued :=
    full ▸ Bytes.resize_self queued 0x00
  cases queue with
  | empty =>
    rw [Bytes.resize_nil]
    exact .blank (by simp [disabled])
  | blank only =>
    rw [kept (List.length_replicate ..)]
    apply Queue.blank
    intro other member
    rcases List.mem_append.mp member with earlier | last
    · exact only other earlier
    · rw [List.mem_singleton.mp last, disabled]
  | loaded served full synced =>
    rw [kept full]
    obtain ⟨other, member, enabled⟩ := served
    exact .loaded ⟨other, List.mem_append_left _ member, enabled⟩ full synced

theorem Queue.transfer {history : List Transfer} {model : HardwareModel} (queue : Queue (pending history) model.queuedData)
    (wbuf : List UInt8) :
    Queue (pending (history ++ [⟨wbuf, model.enabled = simSuccess⟩]))
      (determineSpiResponseForRequest sim wbuf model).2.queuedData := by
  by_cases request : isRequest wbuf = true
  · rw [pending, Tally.sinceLast_kept (by simp [request])]
    simp only [determineSpiResponseForRequest, if_pos request]
    by_cases enabled : model.enabled = simSuccess
    · rw [createGenericFssData_enabled sim model enabled]
      exact .loaded ⟨_, List.mem_append_right _ (List.mem_singleton.mpr rfl), by simp [enabled]⟩ (by simp) rfl
    · rw [createGenericFssData_disabled sim model enabled]
      exact queue.padded (by simp [enabled])
  · rw [pending, Tally.sinceLast_cleared (by simp [request])]
    simp only [determineSpiResponseForRequest, if_neg request, Bytes.resize_zero]
    exact .empty

section Invariants
variable (invariant : List Transfer → HardwareModel → Prop)
  (command : ∀ history model data, invariant history model → invariant history (commandCallback data model).2)
  (transfer : ∀ history model wbuf, invariant history model →
    invariant (history ++ [⟨wbuf, model.enabled = simSuccess⟩]) (determineSpiResponseForRequest sim wbuf model).2)
include command transfer

private theorem transfers_invariant_from {history : List Transfer} {slave : SpiSlaveConnection}
    (initial : invariant history slave.fss) (inputs : List Input) :
    invariant (history ++ transfers sim slave inputs) (Machine.run (slaveStep sim) slave inputs).fss := by
  induction inputs generalizing history slave with
  | nil => simpa [transfers] using initial
  | cons input rest ih =>
    cases input with
    | command data => exact ih (command history slave.fss data initial)
    | transfer wbuf =>
      have later := @ih _ (slaveStep sim slave (.transfer wbuf)) (transfer history slave.fss wbuf initial)
      simpa [transfers] using later

/-- What commands and transfers keep relates the simulator to the transfers it has seen, at any point of any run. -/
theorem transfers_invariant (initial : invariant [] .construct) (inputs : List Input) :
    invariant (transfers sim .construct inputs) (Machine.run (slaveStep sim) .construct inputs).fss :=
  @transfers_invariant_from ρ sim invariant command transfer [] .construct initial inputs

end Invariants

theorem transfers_queue (inputs : List Input) :
    Queue (pending (transfers sim .construct inputs)) (Machine.run (slaveStep sim) .construct inputs).fss.queuedData := by
  apply transfers_invariant sim fun history model => Queue (pending history) model.queuedData
  · intro history model data queue
    rwa [(commandCallback_frame data model).1]
  · intro history model wbuf queue
    exact queue.transfer sim wbuf
  · exact .empty

end Steps

def reply (slave : SpiSlaveConnection) (wbuf : List UInt8) : List UInt8 := (spiWrite sim wbuf slave).spiOutData

theorem reply_synced_iff {requests : List Transfer} {slave : SpiSlaveConnection} {next : List UInt8}
    (queue : Queue requests slave.fss.queuedData) (long : 4 ≤ next.length) :
    (reply sim slave next).take 4 = syncWord ↔ ∃ request ∈ requests, request.enabled = true := by
  have shown : reply sim slave next = Bytes.resize slave.fss.queuedData next.length 0xFF := by
    simp only [reply, spiWrite, determineSpiResponseForRequest]
  rw [shown]
  generalize slave.fss.queuedData = queued at queue
  cases queue with
  | empty =>
    apply iff_of_false
    · rw [Bytes.resize_nil, List.take_replicate, Nat.min_eq_left long]
      decide
    · simp
  | blank only =>
    apply iff_of_false
    · rw [Bytes.take_resize _ _ _ long (by simp)]
      decide
    · intro ⟨request, member, enabled⟩
      simp [only request member] at enabled
  | loaded served full synced =>
    rw [Bytes.take_resize _ _ _ long (by omega)]
    exact iff_of_true synced served

def AskedWhileDisabled (history : List Transfer) : Prop :=
  ∃ last, history.getLast? = some last ∧ isRequest last.bytes = true ∧ last.enabled = false

/-- After such a request the next transfer is not answered with a frame. -/
def ServesNothing (inputs : List Input) (next : List UInt8) : Prop :=
  AskedWhileDisabled (transfers sim .construct inputs) → 4 ≤ next.length →
    (reply sim (Machine.run (slaveStep sim) .construct inputs) next).take 4 ≠ syncWord

/-- A disabled simulator serves no measurement exactly if none of the pending
requests reached it while it was enabled. -/
theorem servesNothing_iff (inputs : List Input) (next : List UInt8) :
    ServesNothing sim inputs next ↔
      (AskedWhileDisabled (transfers sim .construct inputs) → 4 ≤ next.length →
        ∀ request ∈ pending (transfers sim .construct inputs), request.enabled = false) := by
  have queue := transfers_queue sim inputs
  apply forall_congr'
  intro asked
  apply forall_congr'
  intro long
  rw [Ne, reply_synced_iff sim queue long]
  simp

/-- Request, DISABLE, request, read: the frame of the first request is served. -/
theorem servesNothing_fails :
    ¬ ServesNothing stillSun
      [.transfer Requests.requestBytes, .command "DISABLE".toList, .transfer Requests.requestBytes] (.replicate 16 0x00) := by
  intro serves
  exact serves ⟨⟨Requests.requestBytes, false⟩, by decide, by decide, rfl⟩ (by decide) (by decide)

end GenericFss.Proofs.SimulatorQueue
