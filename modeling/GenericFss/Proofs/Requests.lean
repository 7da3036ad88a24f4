import GenericFss.Library.Lifecycle
import GenericFss.Device

/-! The calls one `GENERIC_FSS_RequestData` makes form a small language: two bus
exchanges, each cut off at its first failure. The driver's effect is a function of
the word it produced, so callers never look inside the driver again. -/

namespace GenericFss.Call

def action : Call → Lifecycle.Action
  | .initDev _ status => .acquire (status = osSuccess)
  | .closeDevice _ status => .release (status = osSuccess)
  | .selectChip .. | .transaction .. | .unselectChip .. | .requestData _ => .use
  | .requestDataReturned _ => .other

/-- The calls that open and close the SPI device; the rest is passed over. -/
def ownership : Call → Lifecycle.Action
  | .initDev _ status => .acquire (status = osSuccess)
  | .closeDevice _ status => .release (status = osSuccess)
  | _ => .other

/-- The outcome of a call the applications count: opening, closing, a request. -/
def deviceOutcome : Call → Option Status
  | .initDev _ status | .closeDevice _ status | .requestDataReturned status => some status
  | _ => none

def busOutcome : Call → Option Status
  | .selectChip _ status | .transaction _ _ _ status | .unselectChip _ status => some status
  | _ => none

def received : Call → Option (List UInt8)
  | .transaction _ _ readData _ => some readData
  | _ => none

def transmitted : Call → Option (List UInt8)
  | .transaction _ writeData _ _ => some writeData
  | _ => none

end GenericFss.Call

namespace GenericFss.Proofs.Requests
open GenericFss Device

/-- Sync word, command code 1, length 10, and the low byte of the sum of bytes
4 to 14 in byte 15. -/
structure ValidFrame (frame : Vector UInt8 deviceDataSize) : Prop where
  sync : frame.toList.take 4 = [0xDE, 0xAD, 0xBE, 0xEF]
  command : frame[4] = 0x01
  length : frame[5] = 0x0A
  checksum : frame[15] = UInt8.ofNat (((frame.toList.drop 4).take 11).map UInt8.toNat).sum

theorem checksum_eq (bytes : List UInt8) (start count : Nat) :
    computeChecksum bytes start count = UInt8.ofNat (((bytes.drop start).take count).map UInt8.toNat).sum :=
  Bytes.lowByte_sum _

private theorem take_four (frame : Vector UInt8 deviceDataSize) :
    frame.toList.take 4 = [frame[0], frame[1], frame[2], frame[3]] := by
  simpa [List.ofFn_succ] using Bytes.toList_slice frame 0 4 (by decide)

/-- The test in the driver is the documented frame format. -/
theorem accepts_iff (frame : Vector UInt8 deviceDataSize) : accepts frame = true ↔ ValidFrame frame := by
  simp only [accepts, decide_eq_true_eq, checksum_eq, deviceHdr0, deviceHdr1, deviceHdr2, deviceHdr3]
  constructor
  · intro ⟨byte0, byte1, byte2, byte3, command, length, checksum⟩
    exact ⟨by rw [take_four, byte0, byte1, byte2, byte3], command, length, checksum⟩
  · intro ⟨sync, command, length, checksum⟩
    rw [take_four] at sync
    simp only [List.cons.injEq, and_true] at sync
    exact ⟨sync.1, sync.2.1, sync.2.2.1, sync.2.2.2, command, length, checksum⟩

instance (frame : Vector UInt8 deviceDataSize) : Decidable (ValidFrame frame) :=
  decidable_of_iff _ (accepts_iff frame)

theorem commandFrame_eq (writeData : Vector UInt8 deviceCmdSize) :
    commandFrame writeData deviceReqDataCmd = #v[0xDE, 0xAD, 0xBE, 0xEF, 0x01, 0x01, 0x02] := by
  apply Vector.ext
  intro index inside
  have cases : index = 0 ∨ index = 1 ∨ index = 2 ∨ index = 3 ∨ index = 4 ∨ index = 5 ∨ index = 6 := by
    simp only [deviceCmdSize] at inside
    omega
  rcases cases with rfl | rfl | rfl | rfl | rfl | rfl | rfl <;>
    simp [commandFrame, checksum_eq, Bytes.toList_slice, List.ofFn_succ, deviceHdr0, deviceHdr1, deviceHdr2,
      deviceHdr3, deviceReqDataCmd, deviceCmdSize]

def requestBytes : List UInt8 := [0xDE, 0xAD, 0xBE, 0xEF, 0x01, 0x01, 0x02]

/-- One chain of select, transfer and release, and the bytes it hands back when
all three succeeded. -/
inductive Exchange (writeData : List UInt8) : List Call → Option (List UInt8) → Prop where
  | unselected {device status} : status ≠ spiSuccess → Exchange writeData [.selectChip device status] none
  | unmoved {device device' status readData} : status ≠ spiSuccess →
      Exchange writeData [.selectChip device spiSuccess, .transaction device' writeData readData status] none
  | unreleased {device device' device'' status readData} : status ≠ spiSuccess →
      Exchange writeData [.selectChip device spiSuccess, .transaction device' writeData readData spiSuccess,
        .unselectChip device'' status] none
  | done {device device' device''} (readData : List UInt8) :
      Exchange writeData [.selectChip device spiSuccess, .transaction device' writeData readData spiSuccess,
        .unselectChip device'' spiSuccess] (some readData)

/-- The calls of a whole request, the status it returns and the sixteen bytes it
was given if no bus call failed. -/
inductive Request : List Call → Status → Option (Vector UInt8 deviceDataSize) → Prop where
  | commandFailed {device command} :
      Exchange requestBytes command none →
      Request (.requestData device :: command ++ [.requestDataReturned osError]) osError none
  | readFailed {device command echo idle read} :
      Exchange requestBytes command (some echo) → Exchange idle read none →
      Request (.requestData device :: (command ++ read) ++ [.requestDataReturned osError]) osError none
  | answered {device command echo idle read} (frame : Vector UInt8 deviceDataSize) :
      Exchange requestBytes command (some echo) →
      Exchange idle read (some frame.toList) →
      Request (.requestData device :: (command ++ read) ++ [.requestDataReturned osSuccess]) osSuccess (some frame)

/-- The pattern of four bytes as a host reads them. -/
def hostWord (order : ByteOrder) (bytes : Vector UInt8 4) : UInt32 :=
  match order with
  | .littleEndian => Bytes.ofBytes bytes
  | .bigEndian => Bytes.ofBytes bytes.reverse

section Contents
variable (order : ByteOrder)

theorem fourbytes_eq (bytes : Vector UInt8 4) : Bytes.onFour (fourbytesLittleEndianToFloat order) bytes = hostWord order bytes := by
  cases order with
  | littleEndian => rfl
  | bigEndian => exact (Bytes.ofBytes_reverse bytes).symm

/-- What a frame carries: two angles as the host reads them, and the error code. -/
def carried (frame : Vector UInt8 deviceDataSize) : DeviceData where
  alpha := hostWord order #v[frame.get 6, frame.get 7, frame.get 8, frame.get 9]
  beta := hostWord order #v[frame.get 10, frame.get 11, frame.get 12, frame.get 13]
  errorCode := frame.get 14

theorem decode_eq (frame : Vector UInt8 deviceDataSize) : decode order frame = carried order frame := by
  rw [carried, ← fourbytes_eq, ← fourbytes_eq]
  rfl

end Contents

/-- A valid frame replaces the data by what it carries; anything else leaves it. -/
def store (order : ByteOrder) (data : DeviceData) : Option (Vector UInt8 deviceDataSize) → DeviceData
  | some frame => if ValidFrame frame then carried order frame else data
  | none => data

def BusSucceeded (calls : List Call) : Prop := ∀ status ∈ calls.filterMap Call.busOutcome, status = spiSuccess

/-- The second transfer of a request is its read; it returned these sixteen bytes. -/
def Answers (calls : List Call) (frame : Vector UInt8 deviceDataSize) : Prop :=
  (calls.filterMap Call.received)[1]? = some frame.toList

/-- The command was carried out and the chip selected for the read. -/
def ReadStarted (calls : List Call) : Prop := (calls.filterMap Call.busOutcome).take 4 = .replicate 4 spiSuccess

/-- The request transmits its command and then `idle`, unless a failure cuts it off. -/
def Transmits (idle : List UInt8) (calls : List Call) : Prop :=
  calls.filterMap Call.transmitted <+: [requestBytes, idle] ∧
    (ReadStarted calls ↔ (calls.filterMap Call.transmitted).length = 2)

theorem Answers.not_valid {calls : List Call} {frame : Vector UInt8 deviceDataSize} {bytes : List UInt8}
    (answers : Answers calls frame) (received : (calls.filterMap Call.received)[1]? = some bytes)
    (unsynced : bytes.take 4 ≠ [0xDE, 0xAD, 0xBE, 0xEF]) : ¬ ValidFrame frame := by
  intro valid
  obtain rfl := Option.some.inj (received.symm.trans answers)
  exact unsynced valid.sync

section Language

theorem BusSucceeded.append {first rest : List Call} :
    BusSucceeded (first ++ rest) ↔ BusSucceeded first ∧ BusSucceeded rest := by
  simp only [BusSucceeded, List.filterMap_append, List.mem_append, or_imp, forall_and]

theorem Exchange.uses {writeData : List UInt8} {calls response} (exchange : Exchange writeData calls response) :
    ∀ call ∈ calls, call.action = .use ∧ call.deviceOutcome = none := by
  cases exchange <;> simp [Call.action, Call.deviceOutcome]

theorem Exchange.selects {writeData : List UInt8} {calls response} (exchange : Exchange writeData calls response) :
    ∃ call ∈ calls, call.busOutcome ≠ none := by
  cases exchange <;> exact ⟨_, List.mem_cons_self, nofun⟩

theorem Exchange.succeeded {writeData bytes : List UInt8} {calls}
    (exchange : Exchange writeData calls (some bytes)) : BusSucceeded calls ∧ calls.filterMap Call.received = [bytes] := by
  cases exchange
  simp [BusSucceeded, Call.busOutcome, Call.received, List.filterMap_cons]

theorem Exchange.failed {writeData : List UInt8} {calls} (exchange : Exchange writeData calls none) :
    ¬ BusSucceeded calls ∧ (calls.filterMap Call.received).length ≤ 1 := by
  cases exchange with
  | unselected failed | unmoved failed | unreleased failed =>
    simpa [BusSucceeded, Call.busOutcome, Call.received, List.filterMap_cons] using failed

theorem Exchange.transmits_command {command : List Call} (exchange : Exchange requestBytes command none) (idle : List UInt8)
    (device : SpiInfo) (status : Status) :
    Transmits idle (.requestData device :: command ++ [.requestDataReturned status]) := by
  cases exchange with
  | unselected failed | unmoved failed | unreleased failed =>
    simp [Transmits, ReadStarted, Call.transmitted, Call.busOutcome, List.filterMap_cons, List.replicate_succ, failed]

theorem Exchange.transmits_read {command read : List Call} {idle echo : List UInt8} {response : Option (List UInt8)}
    (first : Exchange requestBytes command (some echo)) (second : Exchange idle read response) (device : SpiInfo)
    (status : Status) : Transmits idle (.requestData device :: (command ++ read) ++ [.requestDataReturned status]) := by
  cases first
  cases second with
  | unselected failed | unmoved failed | unreleased failed =>
    simp [Transmits, ReadStarted, Call.transmitted, Call.busOutcome, List.filterMap_cons, List.replicate_succ, failed]
  | done =>
    simp [Transmits, ReadStarted, Call.transmitted, Call.busOutcome, List.filterMap_cons, List.replicate_succ]

variable {calls : List Call} {status : Status} {response : Option (Vector UInt8 deviceDataSize)}

theorem Request.uses (request : Request calls status response) :
    ∀ call ∈ calls, call.action = .use ∨ call.action = .other := by
  cases request with
  | commandFailed command =>
    have first := command.uses
    simp only [List.cons_append, List.mem_cons, List.mem_append, List.not_mem_nil, or_false]
    rintro call (rfl | member | rfl)
    · exact Or.inl rfl
    · exact Or.inl (first call member).1
    · exact Or.inr rfl
  | readFailed command read | answered _ command read =>
    have first := command.uses
    have second := read.uses
    simp only [List.cons_append, List.mem_cons, List.mem_append, List.not_mem_nil, or_false]
    rintro call (rfl | (member | member) | rfl)
    · exact Or.inl rfl
    · exact Or.inl (first call member).1
    · exact Or.inl (second call member).1
    · exact Or.inr rfl

theorem Request.selects (request : Request calls status response) : ∃ call ∈ calls, call.busOutcome ≠ none := by
  cases request with
  | commandFailed command | readFailed command _ | answered _ command _ =>
    obtain ⟨call, member, onBus⟩ := command.selects
    exact ⟨call, by simp [member], onBus⟩

theorem Request.outcomes (request : Request calls status response) :
    calls.filterMap Call.deviceOutcome = [status] := by
  have silent (exchange : List Call) (quiet : ∀ call ∈ exchange, call.action = .use ∧ call.deviceOutcome = none) :
      exchange.filterMap Call.deviceOutcome = [] :=
    List.filterMap_eq_nil_iff.mpr fun call member => (quiet call member).2
  cases request with
  | commandFailed command => simp [List.filterMap_cons, Call.deviceOutcome, silent _ command.uses]
  | readFailed command read | answered _ command read =>
    simp [List.filterMap_cons, Call.deviceOutcome, silent _ command.uses, silent _ read.uses]

/-- The status is a success exactly when sixteen bytes came back, valid or not. -/
theorem Request.status_cases (request : Request calls status response) :
    (status = osSuccess ∧ ∃ frame, response = some frame) ∨ (status = osError ∧ response = none) := by
  cases request with
  | commandFailed | readFailed => exact Or.inr ⟨rfl, rfl⟩
  | answered frame => exact Or.inl ⟨rfl, frame, rfl⟩

private theorem busSucceeded_bracket {device : SpiInfo} {work : List Call} :
    BusSucceeded (.requestData device :: work ++ [.requestDataReturned status]) ↔ BusSucceeded work := by
  simp [BusSucceeded, List.filterMap_cons, Call.busOutcome]

private theorem received_bracket {device : SpiInfo} {work : List Call} :
    (Call.requestData device :: work ++ [Call.requestDataReturned status]).filterMap Call.received =
      work.filterMap Call.received := by
  simp [List.filterMap_cons, Call.received]

theorem Request.busSucceeded_iff (request : Request calls status response) :
    BusSucceeded calls ↔ ∃ frame, response = some frame := by
  cases request with
  | commandFailed command =>
    rw [busSucceeded_bracket]
    simp [command.failed.1]
  | readFailed command read =>
    rw [busSucceeded_bracket, BusSucceeded.append]
    simp [read.failed.1]
  | answered frame command read =>
    rw [busSucceeded_bracket, BusSucceeded.append]
    simp [command.succeeded.1, read.succeeded.1]

theorem Request.answers_iff {frame other : Vector UInt8 deviceDataSize}
    (request : Request calls status (some frame)) : Answers calls other ↔ other = frame := by
  cases request with
  | answered _ command read =>
    rw [Answers, received_bracket, List.filterMap_append, command.succeeded.2, read.succeeded.2]
    simp [Vector.toList_inj, eq_comm]

end Language

theorem osError_ne : osError ≠ osSuccess := by decide

section Log
variable {σ : Type} (plat : Platform σ) (log : List Call) (bus : Bus σ)

def preceded : Bus σ := { bus with calls := log ++ bus.calls }

theorem call_preceded (function : SpiInfo → σ → Status × SpiInfo × σ) (entry : SpiInfo → Status → Call) :
    (preceded log bus).call function entry = ((bus.call function entry).1, preceded log (bus.call function entry).2) := by
  simp [preceded, Bus.call]

theorem spiInitDev_preceded : spiInitDev plat (preceded log bus) = ((spiInitDev plat bus).1, preceded log (spiInitDev plat bus).2) :=
  call_preceded ..

theorem spiCloseDevice_preceded :
    spiCloseDevice plat (preceded log bus) = ((spiCloseDevice plat bus).1, preceded log (spiCloseDevice plat bus).2) :=
  call_preceded ..

theorem spiSelectChip_preceded :
    spiSelectChip plat (preceded log bus) = ((spiSelectChip plat bus).1, preceded log (spiSelectChip plat bus).2) :=
  call_preceded ..

theorem spiUnselectChip_preceded :
    spiUnselectChip plat (preceded log bus) = ((spiUnselectChip plat bus).1, preceded log (spiUnselectChip plat bus).2) :=
  call_preceded ..

theorem spiTransaction_preceded {length : Nat} (writeData readData : Vector UInt8 length) (delay : UInt32)
    (bitsPerWord deselect : UInt8) :
    spiTransaction plat (preceded log bus) writeData readData delay bitsPerWord deselect =
      ((spiTransaction plat bus writeData readData delay bitsPerWord deselect).1,
        (spiTransaction plat bus writeData readData delay bitsPerWord deselect).2.1,
        preceded log (spiTransaction plat bus writeData readData delay bitsPerWord deselect).2.2) := by
  simp [preceded, spiTransaction]

theorem transfer_preceded {length : Nat} (writeData readData : Vector UInt8 length) :
    transfer plat writeData readData (preceded log bus) =
      ((transfer plat writeData readData bus).1, (transfer plat writeData readData bus).2.1,
        preceded log (transfer plat writeData readData bus).2.2) := by
  simp only [transfer, spiSelectChip_preceded, spiUnselectChip_preceded, spiTransaction_preceded]
  split
  next selected => split <;> rfl
  next unselected => rfl

theorem commandDevice_preceded (writeData readData : Vector UInt8 deviceCmdSize) (cmdCode : UInt8) :
    commandDevice plat writeData readData cmdCode (preceded log bus) =
      ((commandDevice plat writeData readData cmdCode bus).1,
        preceded log (commandDevice plat writeData readData cmdCode bus).2) := by
  simp only [commandDevice, transfer_preceded]

theorem readData_preceded {length : Nat} (writeData received : Vector UInt8 length) :
    readData plat writeData received (preceded log bus) =
      ((readData plat writeData received bus).1, (readData plat writeData received bus).2.1,
        preceded log (readData plat writeData received bus).2.2) :=
  transfer_preceded ..

/-- The driver does not look at the calls that were made before. -/
theorem requestData_preceded (data : DeviceData) :
    requestData plat data (preceded log bus) =
      ((requestData plat data bus).1, (requestData plat data bus).2.1, preceded log (requestData plat data bus).2.2) := by
  have marked : (preceded log bus).record (.requestData (preceded log bus).device) =
      preceded log (bus.record (.requestData bus.device)) := by
    simp [preceded, Bus.record]
  have returned (status : Status) (bus : Bus σ) :
      (preceded log bus).record (.requestDataReturned status) = preceded log (bus.record (.requestDataReturned status)) := by
    simp [preceded, Bus.record]
  have world : (preceded log (bus.record (.requestData bus.device))).world = (bus.record (.requestData bus.device)).world := rfl
  simp only [requestData, marked, world, commandDevice_preceded, readData_preceded]
  split
  next commanded =>
    split
    next answered => split <;> simp only [returned]
    next unanswered => simp only [returned]
  next failed => simp only [returned]

end Log

section Driver
variable {σ : Type} (plat : Platform σ)

theorem transfer_exchange {length : Nat} (writeData readData : Vector UInt8 length) (bus : Bus σ) :
    ∃ calls, (transfer plat writeData readData bus).2.2.calls = bus.calls ++ calls ∧
      ((transfer plat writeData readData bus).1 = osSuccess ∧
          Exchange writeData.toList calls (some (transfer plat writeData readData bus).2.1.toList) ∨
        (transfer plat writeData readData bus).1 = osError ∧ Exchange writeData.toList calls none) := by
  have select : (spiSelectChip plat bus).2.calls = bus.calls ++ [.selectChip bus.device (spiSelectChip plat bus).1] := rfl
  simp only [transfer]
  split
  next selected =>
    rw [selected] at select
    generalize (spiSelectChip plat bus).2 = bus₁ at *
    have move := spiTransaction_calls plat bus₁ writeData readData cfgDelay cfgBitsPerWord 0
    split
    next moved =>
      rw [moved] at move
      generalize spiTransaction plat bus₁ writeData readData cfgDelay cfgBitsPerWord 0 = answer at *
      have release : (spiUnselectChip plat answer.2.2).2.calls =
        answer.2.2.calls ++ [.unselectChip answer.2.2.device (spiUnselectChip plat answer.2.2).1] := rfl
      split
      next released =>
        rw [released] at release
        exact ⟨_, by rw [release, move, select, List.append_assoc, List.append_assoc]; rfl, Or.inl ⟨rfl, .done _⟩⟩
      next stuck =>
        exact ⟨_, by rw [release, move, select, List.append_assoc, List.append_assoc]; rfl, Or.inr ⟨rfl, .unreleased stuck⟩⟩
    next refused =>
      exact ⟨_, by rw [move, select, List.append_assoc]; rfl, Or.inr ⟨rfl, .unmoved refused⟩⟩
  next unselected => exact ⟨_, select, Or.inr ⟨rfl, .unselected unselected⟩⟩

theorem readData_exchange {length : Nat} (writeData received : Vector UInt8 length) (bus : Bus σ) :
    ∃ calls, (readData plat writeData received bus).2.2.calls = bus.calls ++ calls ∧
      ((readData plat writeData received bus).1 = osSuccess ∧
          Exchange writeData.toList calls (some (readData plat writeData received bus).2.1.toList) ∨
        (readData plat writeData received bus).1 = osError ∧ Exchange writeData.toList calls none) :=
  transfer_exchange plat writeData received bus

theorem commandDevice_exchange (writeData readData : Vector UInt8 deviceCmdSize) (bus : Bus σ) :
    ∃ calls, (commandDevice plat writeData readData deviceReqDataCmd bus).2.calls = bus.calls ++ calls ∧
      ((commandDevice plat writeData readData deviceReqDataCmd bus).1 = osSuccess ∧
          (∃ echo, Exchange requestBytes calls (some echo)) ∨
        (commandDevice plat writeData readData deviceReqDataCmd bus).1 = osError ∧ Exchange requestBytes calls none) := by
  obtain ⟨calls, log, outcome⟩ := transfer_exchange plat (commandFrame writeData deviceReqDataCmd) readData bus
  have bytes : (commandFrame writeData deviceReqDataCmd).toList = requestBytes := by rw [commandFrame_eq]; rfl
  rw [bytes] at outcome
  exact ⟨calls, log, outcome.imp (fun ⟨returned, exchange⟩ => ⟨returned, _, exchange⟩) id⟩

theorem requestData_transmits (data : DeviceData) (bus : Bus σ) :
    ∃ calls response, (requestData plat data bus).2.2.calls = bus.calls ++ calls ∧
      Request calls (requestData plat data bus).1 response ∧
      (requestData plat data bus).2.1 = store plat.byteOrder data response ∧
      Transmits (plat.locals bus.world).writeData.toList calls := by
  have world : (bus.record (.requestData bus.device)).world = bus.world := rfl
  simp only [requestData, Bus.record_calls, world]
  generalize plat.locals _ = stack
  obtain ⟨command, commandLog, outcome⟩ := commandDevice_exchange plat stack.commandWriteData stack.commandReadData
    (bus.record (.requestData bus.device))
  generalize commandDevice plat stack.commandWriteData stack.commandReadData _ _ = commanded at *
  obtain ⟨status, bus₁⟩ := commanded
  simp only at commandLog outcome ⊢
  rcases outcome with ⟨rfl, _, commandExchange⟩ | ⟨rfl, commandExchange⟩
  · obtain ⟨read, readLog, outcome⟩ := readData_exchange plat stack.writeData stack.readData bus₁
    generalize readData plat stack.writeData stack.readData bus₁ = answered at *
    obtain ⟨status, frame, bus₂⟩ := answered
    simp only at readLog outcome ⊢
    have log : bus₂.calls = bus.calls ++ (.requestData bus.device :: (command ++ read)) := by
      rw [readLog, commandLog]
      simp
    rcases outcome with ⟨rfl, readExchange⟩ | ⟨rfl, readExchange⟩
    · have request : Request (.requestData bus.device :: (command ++ read) ++ [.requestDataReturned osSuccess]) _ _ :=
        .answered frame commandExchange readExchange
      have transmits := commandExchange.transmits_read readExchange bus.device osSuccess
      by_cases valid : ValidFrame frame
      · simp only [if_true, (accepts_iff frame).mpr valid]
        exact ⟨_, _, by rw [log, List.append_assoc], request, (decode_eq _ _).trans (if_pos valid).symm, transmits⟩
      · simp only [if_true, mt (accepts_iff frame).mp valid, Bool.false_eq_true, if_false]
        exact ⟨_, _, by rw [log, List.append_assoc], request, (if_neg valid).symm, transmits⟩
    · have request : Request (.requestData bus.device :: (command ++ read) ++ [.requestDataReturned osError]) _ _ :=
        .readFailed commandExchange readExchange
      have transmits := commandExchange.transmits_read readExchange bus.device osError
      simp only [if_true, if_neg osError_ne]
      exact ⟨_, _, by rw [log, List.append_assoc], request, rfl, transmits⟩
  · have request : Request (.requestData bus.device :: command ++ [.requestDataReturned osError]) _ _ :=
      .commandFailed commandExchange
    have transmits := commandExchange.transmits_command stack.writeData.toList bus.device osError
    simp only [if_neg osError_ne]
    exact ⟨_, _, by rw [commandLog]; simp, request, rfl, transmits⟩

/-- The driver's whole effect: it appends a word of the language, returns that
word's status, and stores a frame only if the whole exchange worked and the frame
is valid. -/
theorem requestData_request (data : DeviceData) (bus : Bus σ) :
    ∃ calls response, (requestData plat data bus).2.2.calls = bus.calls ++ calls ∧
      Request calls (requestData plat data bus).1 response ∧
      (requestData plat data bus).2.1 = store plat.byteOrder data response := by
  obtain ⟨calls, response, log, request, stored, _⟩ := requestData_transmits plat data bus
  exact ⟨calls, response, log, request, stored⟩

end Driver

end GenericFss.Proofs.Requests
