import GenericFss.Proofs.ResponseFrame
import GenericFss.Script

/-! What `GENERIC_FSS_RequestData` promises its callers: the sun data changes as a whole
or not at all, and changes only for a valid frame. The status promises less, it only
tells whether the bus calls worked, and the device is promised nothing about the bytes
that are sent while it answers. -/

namespace GenericFss.Proofs.DriverContract
open GenericFss Device Requests ResponseFrame

variable {σ : Type} (plat : Platform σ) (data : DeviceData) (bus : Bus σ)

def requestCalls : List Call := (requestData plat data bus).2.2.calls.drop bus.calls.length

theorem requestCalls_request :
    ∃ response, Request (requestCalls plat data bus) (requestData plat data bus).1 response ∧
      (requestData plat data bus).2.1 = store plat.byteOrder data response := by
  obtain ⟨calls, response, log, request, stored⟩ := requestData_request plat data bus
  refine ⟨response, ?_, stored⟩
  rwa [requestCalls, log, List.drop_left]

/-- Select, transfer and release of the command, and again of the read: all six succeeded. -/
def SixSucceeded (calls : List Call) : Prop := calls.filterMap Call.busOutcome = .replicate 6 spiSuccess

/-- The request was carried out and the device answered it with this frame. -/
def Received (calls : List Call) (frame : Vector UInt8 deviceDataSize) : Prop :=
  SixSucceeded calls ∧ Answers calls frame

section Outcomes
variable {calls : List Call} {status : Status} {response : Option (Vector UInt8 deviceDataSize)}

theorem sixSucceeded_iff (request : Request calls status response) :
    SixSucceeded calls ↔ ∃ frame, response = some frame := by
  constructor
  · intro six
    apply request.busSucceeded_iff.mp
    rw [BusSucceeded, six]
    intro outcome member
    exact List.eq_of_mem_replicate member
  · rintro ⟨frame, answered⟩
    cases request with
    | commandFailed | readFailed => cases answered
    | answered _ command read =>
      cases command
      cases read
      rfl

theorem received_iff (request : Request calls status response) {frame : Vector UInt8 deviceDataSize} :
    Received calls frame ↔ response = some frame := by
  rw [Received, sixSucceeded_iff request]
  constructor
  · intro ⟨⟨other, same⟩, answers⟩
    subst same
    rw [request.answers_iff.mp answers]
  · rintro rfl
    exact ⟨⟨frame, rfl⟩, request.answers_iff.mpr rfl⟩

theorem succeeded_iff (request : Request calls status response) : status = osSuccess ↔ SixSucceeded calls := by
  rw [sixSucceeded_iff request]
  rcases request.status_cases with ⟨rfl, answered⟩ | ⟨rfl, rfl⟩
  · exact iff_of_true rfl answered
  · apply iff_of_false osError_ne
    simp

end Outcomes

section Status

/-- The status is a success exactly for a request that brought a valid frame. -/
def Truthful : Prop :=
  (requestData plat data bus).1 = osSuccess ↔ ∃ frame, Received (requestCalls plat data bus) frame ∧ ValidFrame frame

/-- The status is wrong only about bytes that arrived and are not a valid frame. -/
theorem truthful_iff :
    Truthful plat data bus ↔
      (SixSucceeded (requestCalls plat data bus) → ∃ frame, Answers (requestCalls plat data bus) frame ∧ ValidFrame frame) := by
  obtain ⟨response, request, _⟩ := requestCalls_request plat data bus
  rw [Truthful, succeeded_iff request]
  constructor
  · intro truthful six
    obtain ⟨frame, ⟨_, answers⟩, valid⟩ := truthful.mp six
    exact ⟨frame, answers, valid⟩
  · intro answered
    constructor
    · intro six
      obtain ⟨frame, answers, valid⟩ := answered six
      exact ⟨frame, ⟨six, answers⟩, valid⟩
    · intro ⟨_, ⟨six, _⟩, _⟩
      exact six

/-- Sixteen zeros are not a frame, and the request that read them is reported as a success. -/
theorem truthful_fails : ¬ Truthful scripted ⟨0, 0, 0⟩ ⟨[], .zero, []⟩ := by
  intro truthful
  obtain ⟨frame, ⟨_, answers⟩, valid⟩ := truthful.mp (by decide)
  have zeros : ((requestCalls scripted ⟨0, 0, 0⟩ ⟨[], .zero, []⟩).filterMap Call.received)[1]? = some (.replicate 16 0x00) := by
    decide
  exact answers.not_valid zeros (by decide) valid

end Status

section Update
variable {plat data bus}

theorem stored_of_received {frame : Vector UInt8 deviceDataSize} (received : Received (requestCalls plat data bus) frame) :
    (requestData plat data bus).2.1 = store plat.byteOrder data (some frame) := by
  obtain ⟨response, request, stored⟩ := requestCalls_request plat data bus
  rw [stored, (received_iff request).mp received]

theorem stored_of_unanswered
    (unanswered : ¬ ∃ frame, Received (requestCalls plat data bus) frame ∧ ValidFrame frame) :
    (requestData plat data bus).2.1 = data := by
  obtain ⟨response, request, stored⟩ := requestCalls_request plat data bus
  rw [stored]
  cases response with
  | none => rfl
  | some frame =>
    refine if_neg ?_
    intro valid
    exact unanswered ⟨frame, (received_iff request).mpr rfl, valid⟩

def CommandFailed (calls : List Call) : Prop := ∃ status ∈ (calls.filterMap Call.busOutcome).take 3, status ≠ spiSuccess

theorem not_commandFailed {command rest : List Call} {writeData echo : List UInt8}
    (exchange : Exchange writeData command (some echo)) (device : SpiInfo) :
    ¬ CommandFailed (.requestData device :: (command ++ rest)) := by
  cases exchange
  simp [CommandFailed, Call.busOutcome, List.filterMap_cons]

theorem Exchange.transmits {calls : List Call} {writeData : List UInt8} {response} (exchange : Exchange writeData calls response)
    {device : SpiInfo} {sent received : List UInt8} {status : Status} (member : .transaction device sent received status ∈ calls) :
    sent = writeData := by
  cases exchange <;> simp_all

theorem commandFailed_transmits {calls : List Call} {status : Status} {response} (request : Request calls status response)
    (failed : CommandFailed calls) {device : SpiInfo} {sent received : List UInt8} {status : Status}
    (member : .transaction device sent received status ∈ calls) : sent = requestBytes := by
  cases request with
  | commandFailed command =>
    apply Exchange.transmits command
    simpa using member
  | readFailed command read | answered _ command read =>
    rw [List.cons_append, List.append_assoc] at failed
    exact absurd failed (not_commandFailed command _)

variable (plat data bus)

/-- All or nothing: a request is made, and a valid frame replaces the three fields by what it
carries. In every other case none of them changes. A command that failed is not followed by a read. -/
theorem requestData_allOrNothing :
    (∃ response, Request (requestCalls plat data bus) (requestData plat data bus).1 response) ∧
      (∀ frame, Received (requestCalls plat data bus) frame → ValidFrame frame →
        (requestData plat data bus).2.1 = carried plat.byteOrder frame) ∧
      ((¬ ∃ frame, Received (requestCalls plat data bus) frame ∧ ValidFrame frame) → (requestData plat data bus).2.1 = data) ∧
      (CommandFailed (requestCalls plat data bus) → ∀ device sent received status,
        .transaction device sent received status ∈ requestCalls plat data bus → sent.length = deviceCmdSize) := by
  obtain ⟨response, request, _⟩ := requestCalls_request plat data bus
  refine ⟨⟨response, request⟩, ?_, stored_of_unanswered, ?_⟩
  · intro frame received valid
    exact (stored_of_received received).trans (if_pos valid)
  · intro failed device sent received status member
    rw [commandFailed_transmits request failed member]
    rfl

/-- Every frame can be received, valid or not. -/
theorem received_answering (data : DeviceData) (frame : Vector UInt8 deviceDataSize) :
    Received (requestCalls scripted data (answering frame.toList)) frame := by
  have filled : (.ofFn fun index => frame.toList.getD index 0x00 : Vector UInt8 deviceDataSize) = frame :=
    Vector.ext fun index inside => by simp
  have log : (requestData scripted data (answering frame.toList)).2.2.calls =
      (readData scripted (.replicate _ 0x00) (.replicate deviceDataSize 0x00)
        (commandDevice scripted (.replicate _ 0x00) (.replicate _ 0x00) deviceReqDataCmd
          ((answering frame.toList).record (.requestData .zero))).2).2.2.calls ++ [.requestDataReturned osSuccess] := by
    simp only [requestData]
    split
    next commanded =>
      split
      next answered => split <;> rfl
      next failed => exact absurd rfl failed
    next failed => exact absurd rfl failed
  rw [requestCalls, log]
  exact ⟨rfl, congrArg (fun received : Vector UInt8 deviceDataSize => some received.toList) filled⟩

/-- The sun at 1 and 2 replaces the fields that were there. -/
theorem requestData_allOrNothing_stores :
    let frame : Vector UInt8 deviceDataSize :=
      #v[0xDE, 0xAD, 0xBE, 0xEF, 0x01, 0x0A, 0x00, 0x00, 0x80, 0x3F, 0x00, 0x00, 0x00, 0x40, 0x00, 0x0A]
    (requestData scripted ⟨7, 7, 7⟩ (answering frame.toList)).2.1 = ⟨0x3F800000, 0x40000000, 0⟩ := by
  intro frame
  obtain ⟨_, stores, _⟩ := requestData_allOrNothing scripted ⟨7, 7, 7⟩ (answering frame.toList)
  exact (stores frame (received_answering _ _) (by decide)).trans (by decide)

end Update

section Traffic

def idleBytes : List UInt8 := .replicate deviceDataSize 0xFF

/-- The request sends its command and then IDLE bytes, up to where a failure ends it. -/
def Prescribed : Prop := (requestCalls plat data bus).filterMap Call.transmitted <+: [requestBytes, idleBytes]

instance : Decidable (Prescribed plat data bus) := inferInstanceAs (Decidable (_ <+: _))

/-- The read sends whatever the driver's buffer held, so that has to be IDLE bytes already. -/
theorem prescribed_iff :
    Prescribed plat data bus ↔
      (ReadStarted (requestCalls plat data bus) → (plat.locals bus.world).writeData = .replicate deviceDataSize 0xFF) := by
  obtain ⟨calls, _, log, _, _, prefixed, started⟩ := requestData_transmits plat data bus
  have idle : (plat.locals bus.world).writeData = .replicate deviceDataSize 0xFF ↔
      (plat.locals bus.world).writeData.toList = idleBytes := by
    rw [← Vector.toList_inj, Vector.toList_replicate, idleBytes]
  rw [Prescribed, requestCalls, log, List.drop_left, started, idle]
  generalize calls.filterMap Call.transmitted = sent at prefixed
  rcases List.prefix_concat_iff.mp (show sent <+: [requestBytes] ++ [_] from prefixed) with rfl | commanded
  · constructor
    · intro prescribed _
      simpa using prescribed.eq_of_length rfl
    · intro ready
      rw [ready rfl]
      exact List.prefix_rfl
  · apply iff_of_true
    · exact commanded.trans (List.prefix_append [requestBytes] [idleBytes])
    · intro whole
      have short := commanded.length_le
      simp [whole] at short

/-- A read that succeeds sends the sixteen zeros that lay in the buffer. -/
theorem prescribed_fails : ¬ Prescribed scripted ⟨0, 0, 0⟩ ⟨[], .zero, []⟩ := by
  decide

end Traffic

end GenericFss.Proofs.DriverContract
