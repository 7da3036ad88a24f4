import GenericFss.ClosedLoop
import GenericFss.Proofs.SimulatorQueue

/-! The driver against the simulator. A request is two transfers; what the simulator
queues during the first is what the second reads, byte for byte. -/

namespace GenericFss.Proofs.EndToEnd
open GenericFss Device Simulator ClosedLoop Requests SimulatorFrame SimulatorQueue

variable {ρ : Type} (setup : Setup ρ)

/-- No other transfer comes between the next one and the one after it; backdoor commands may. -/
def ReadFollows (world : Loop) : Prop :=
  ∀ input ∈ setup.arrivals (world.transferred + 1), ∃ data, input = .command data

def commanded (world : Loop) : Loop :=
  (exchange setup (commandFrame (setup.locals world).commandWriteData deviceReqDataCmd) (setup.locals world).commandReadData
    world).2

def readBack (world : Loop) : Vector UInt8 deviceDataSize :=
  (exchange setup (setup.locals world).writeData (setup.locals world).readData (commanded setup world)).1

section Driver
variable {length : Nat} (writeData received : Vector UInt8 length) (bus : Bus Loop)

theorem commandDevice_closedLoop (writeData readData : Vector UInt8 deviceCmdSize) (cmdCode : UInt8) :
    (commandDevice (platform setup) writeData readData cmdCode bus).1 = osSuccess ∧
      (commandDevice (platform setup) writeData readData cmdCode bus).2.world =
        (exchange setup (commandFrame writeData cmdCode) readData bus.world).2 :=
  ⟨rfl, rfl⟩

theorem readData_closedLoop :
    (readData (platform setup) writeData received bus).1 = osSuccess ∧
      (readData (platform setup) writeData received bus).2.1 = (exchange setup writeData received bus.world).1 :=
  ⟨rfl, rfl⟩

/-- No call fails, so a request succeeds whatever it reads. -/
theorem requestData_closedLoop (data : DeviceData) :
    (requestData (platform setup) data bus).1 = osSuccess ∧
      (requestData (platform setup) data bus).2.1 = store setup.sim.byteOrder data (some (readBack setup bus.world)) := by
  simp only [requestData, (commandDevice_closedLoop setup _ _ _ _).1, (readData_closedLoop setup _ _ _).1, if_true,
    (readData_closedLoop setup _ _ _).2, (commandDevice_closedLoop setup _ _ _ _).2]
  have accepted := accepts_iff (readBack setup bus.world)
  split
  next valid => exact ⟨rfl, (decode_eq _ _).trans (if_pos (accepted.mp valid)).symm⟩
  next invalid => exact ⟨rfl, (if_neg (mt accepted.mpr invalid)).symm⟩

end Driver

section Queue

theorem deliver_commands {inputs : List Input} (only : ∀ input ∈ inputs, ∃ data, input = .command data)
    (slave : SpiSlaveConnection) : (deliver setup inputs slave).fss.queuedData = slave.fss.queuedData := by
  induction inputs generalizing slave with
  | nil => rfl
  | cons input rest ih =>
    obtain ⟨data, rfl⟩ := only input List.mem_cons_self
    exact (ih (fun later member => only later (List.mem_cons_of_mem _ member)) _).trans (commandCallback_frame data slave.fss).1

variable {setup} {world : Loop}

theorem commanded_queue (enabled : (arrived setup world).fss.enabled = simSuccess) :
    (commanded setup world).slave.fss.queuedData = frame setup.sim (setup.sim.dataPoint (arrived setup world).fss.samples) := by
  have bytes : (commandFrame (setup.locals world).commandWriteData deviceReqDataCmd).toList = requestBytes := by
    rw [commandFrame_eq]
    rfl
  have request : isRequest requestBytes = true := by decide
  simp only [commanded, exchange, bytes, spiWrite, determineSpiResponseForRequest, if_pos request,
    createGenericFssData_enabled setup.sim _ enabled]

/-- A read of sixteen bytes empties the queue into the receive buffer, whatever is sent meanwhile. -/
theorem exchange_queue {frame : List UInt8} (writeData readData : Vector UInt8 deviceDataSize) {world : Loop}
    (queued : (arrived setup world).fss.queuedData = frame) (full : frame.length = deviceDataSize) :
    (exchange setup writeData readData world).1.toList = frame := by
  have kept : Bytes.resize frame deviceDataSize 0xFF = frame := full ▸ Bytes.resize_self frame 0xFF
  have taken : frame.take deviceDataSize = frame := List.take_of_length_le (Nat.le_of_eq full)
  have covered : readData.toList.drop deviceDataSize = [] := List.drop_eq_nil_of_le (by simp)
  simp [exchange, spiRead, spiWrite, determineSpiResponseForRequest, queued, kept, full, taken, covered]

theorem readBack_frame (enabled : (arrived setup world).fss.enabled = simSuccess) (follows : ReadFollows setup world) :
    (readBack setup world).toList = frame setup.sim (setup.sim.dataPoint (arrived setup world).fss.samples) := by
  have undisturbed : (arrived setup (commanded setup world)).fss.queuedData = _ :=
    (deliver_commands setup follows _).trans (commanded_queue enabled)
  exact exchange_queue _ _ undisturbed (by simp)

end Queue

theorem readBack_measurement {world : Loop} (enabled : (arrived setup world).fss.enabled = simSuccess)
    (follows : ReadFollows setup world) (data : DeviceData) :
    store setup.sim.byteOrder data (some (readBack setup world)) =
      measurement setup.sim (setup.sim.dataPoint (arrived setup world).fss.samples) := by
  have read := readBack_frame enabled follows
  exact (if_pos (frame_valid read)).trans (carried_frame read)

/-- Fidelity: from any state of the simulator, a request that finds it enabled and
whose read follows directly returns the angles sampled at its command. -/
theorem request_fidelity (data : DeviceData) (bus : Bus Loop)
    (enabled : (arrived setup bus.world).fss.enabled = simSuccess) (follows : ReadFollows setup bus.world) :
    (requestData (platform setup) data bus).1 = osSuccess ∧
      (requestData (platform setup) data bus).2.1 =
        measurement setup.sim (setup.sim.dataPoint (arrived setup bus.world).fss.samples) := by
  obtain ⟨succeeded, stored⟩ := requestData_closedLoop setup bus data
  exact ⟨succeeded, stored.trans (readBack_measurement setup enabled follows data)⟩

/-- A request abandoned before this one has left a frame in the queue. -/
def abandonedSetup : Setup Unit where
  sim := stillSun
  sizeofNoArgsCmd := 8
  locals _ := ⟨.replicate _ 0, .replicate _ 0, .replicate _ 0, .replicate _ 0⟩
  arrivals n := if n = 0 then [.transfer requestBytes] else []

theorem request_fidelity_abandoned :
    let answer := requestData (platform abandonedSetup) ⟨0, 0, 0⟩ ⟨⟨.construct, 0⟩, .zero, []⟩
    answer.1 = osSuccess ∧ answer.2.1 = ⟨0x3F800000, 0x40000000, 0⟩ := by
  obtain ⟨succeeded, stored⟩ :=
    request_fidelity abandonedSetup ⟨0, 0, 0⟩ ⟨⟨.construct, 0⟩, .zero, []⟩ (by decide) (fun _ member => nomatch member)
  exact ⟨succeeded, stored.trans (by decide)⟩

end GenericFss.Proofs.EndToEnd
