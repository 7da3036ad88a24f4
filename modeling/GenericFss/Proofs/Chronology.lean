import GenericFss.Library.Chronicle
import GenericFss.Proofs.CfsMain
import GenericFss.Proofs.EndToEnd
import GenericFss.Proofs.FprimeStep
import GenericFss.Proofs.SimulatorTransfers

/-! Sun data in the closed loop, whatever else reaches the simulator and however often it
is disabled. A reading may be old, but it was measured, and none is older than one
that was sent before it. -/

namespace GenericFss.Proofs.Chronology
open GenericFss Device Simulator ClosedLoop Requests SimulatorFrame SimulatorQueue SimulatorTransfers EndToEnd

variable {ρ : Type} (setup : Setup ρ)

/-- The readings there are: what the application started with, then the data points in
the order the simulator takes them. -/
def reading (initial : DeviceData) : Nat → DeviceData
  | 0 => initial
  | number + 1 => measurement setup.sim (setup.sim.dataPoint number)

/-- What may be queued once reading `number` has been read: nothing a driver accepts, or a newer one. -/
inductive Queued (number samples : Nat) : List UInt8 → Prop where
  | empty : Queued number samples []
  | blank : Queued number samples (.replicate 16 0x00)
  | loaded (index : Nat) : number ≤ index → index < samples →
      Queued number samples (frame setup.sim (setup.sim.dataPoint index))

structure Ahead (number : Nat) (model : HardwareModel) : Prop where
  taken : number ≤ model.samples
  queued : Queued setup number model.samples model.queuedData

/-- The application's sun data and the simulator behind it, after reading `number`. -/
structure Holds (initial : DeviceData) (number : Nat) (data : DeviceData) (bus : Bus Loop) : Prop where
  stored : data = reading setup initial number
  ahead : Ahead setup number bus.world.slave.fss

section Simulator
variable {setup} {number : Nat} {model : HardwareModel}

theorem Ahead.command (ahead : Ahead setup number model) (data : List Char) :
    Ahead setup number (commandCallback data model).2 := by
  obtain ⟨queue, samples⟩ := commandCallback_frame data model
  exact ⟨samples ▸ ahead.taken, queue ▸ samples ▸ ahead.queued⟩

theorem Queued.padded {samples : Nat} {queue : List UInt8} (queued : Queued setup number samples queue) :
    Queued setup number (samples + 1) (Bytes.resize queue 16 0x00) := by
  have kept {queue : List UInt8} (full : queue.length = 16) : Bytes.resize queue 16 0x00 = queue :=
    full ▸ Bytes.resize_self queue 0x00
  cases queued with
  | empty =>
    rw [Bytes.resize_nil]
    exact .blank
  | blank =>
    rw [kept (List.length_replicate ..)]
    exact .blank
  | loaded index newer inside =>
    rw [kept (length_frame ..)]
    exact .loaded index newer (Nat.lt_succ_of_lt inside)

/-- Any transfer other than the request drops what was queued. -/
theorem Ahead.flush (taken : number ≤ model.samples) {wbuf : List UInt8} (other : isRequest wbuf = false) :
    Ahead setup number (determineSpiResponseForRequest setup.sim wbuf model).2 := by
  simp only [determineSpiResponseForRequest, other, Bool.false_eq_true, if_false, Bytes.resize_zero]
  exact ⟨taken, .empty⟩

theorem Ahead.transfer (ahead : Ahead setup number model) (wbuf : List UInt8) :
    Ahead setup number (determineSpiResponseForRequest setup.sim wbuf model).2 := by
  cases request : isRequest wbuf with
  | false => exact Ahead.flush ahead.taken request
  | true =>
    simp only [determineSpiResponseForRequest, request, if_true]
    by_cases enabled : model.enabled = simSuccess
    · rw [createGenericFssData_enabled setup.sim model enabled]
      exact ⟨Nat.le_succ_of_le ahead.taken, .loaded model.samples ahead.taken (Nat.lt_succ_self _)⟩
    · rw [createGenericFssData_disabled setup.sim model enabled]
      exact ⟨Nat.le_succ_of_le ahead.taken, ahead.queued.padded⟩

theorem Ahead.deliver {slave : SpiSlaveConnection} (ahead : Ahead setup number slave.fss) (inputs : List Input) :
    Ahead setup number (deliver setup inputs slave).fss := by
  induction inputs generalizing slave with
  | nil => exact ahead
  | cons input rest ih =>
    cases input with
    | command data => exact ih (ahead.command data)
    | transfer wbuf => exact ih (ahead.transfer wbuf)

end Simulator

section Driver
variable {setup} {number : Nat} {world : Loop}

theorem Ahead.exchange {length : Nat} (ahead : Ahead setup number world.slave.fss) (writeData readData : Vector UInt8 length) :
    Ahead setup number (exchange setup writeData readData world).2.slave.fss :=
  (ahead.deliver (setup.arrivals world.transferred)).transfer writeData.toList

theorem exchange_read {length : Nat} (writeData readData : Vector UInt8 length) (world : Loop) :
    (exchange setup writeData readData world).1.toList = Bytes.resize (arrived setup world).fss.queuedData length 0xFF := by
  have covered : readData.toList.drop length = [] := List.drop_eq_nil_of_le (by simp)
  have whole : (Bytes.resize (arrived setup world).fss.queuedData length (0xFF : UInt8)).take length = _ :=
    List.take_of_length_le (by simp)
  simp [exchange, spiRead, spiWrite, determineSpiResponseForRequest, covered, whole]

/-- What the driver makes of sixteen bytes from such a queue: it stays with its reading or takes a newer one. -/
theorem Ahead.store {model : HardwareModel} (ahead : Ahead setup number model) {received : Vector UInt8 deviceDataSize}
    (read : received.toList = Bytes.resize model.queuedData deviceDataSize 0xFF) (initial : DeviceData) :
    ∃ later, number ≤ later ∧ later ≤ model.samples ∧
      store setup.sim.byteOrder (reading setup initial number) (some received) = reading setup initial later := by
  have stays (unsynced : received.toList.take 4 ≠ [0xDE, 0xAD, 0xBE, 0xEF]) :
      Requests.store setup.sim.byteOrder (reading setup initial number) (some received) = reading setup initial number :=
    if_neg fun valid => unsynced valid.sync
  have queued := ahead.queued
  generalize model.queuedData = queue at read queued
  cases queued with
  | empty => exact ⟨number, Nat.le_refl number, ahead.taken, stays (by rw [read]; decide)⟩
  | blank => exact ⟨number, Nat.le_refl number, ahead.taken, stays (by rw [read]; decide)⟩
  | loaded index newer inside =>
    have kept : Bytes.resize (frame setup.sim (setup.sim.dataPoint index)) deviceDataSize 0xFF = _ :=
      @length_frame ρ setup.sim (setup.sim.dataPoint index) ▸ Bytes.resize_self _ 0xFF
    rw [kept] at read
    exact ⟨index + 1, Nat.le_succ_of_le newer, inside, (if_pos (frame_valid read)).trans (carried_frame read)⟩

theorem requestData_world (data : DeviceData) (bus : Bus Loop) :
    (requestData (platform setup) data bus).2.2.world =
      (exchange setup (setup.locals bus.world).writeData (setup.locals bus.world).readData (commanded setup bus.world)).2 := by
  simp only [requestData, (commandDevice_closedLoop setup _ _ _ _).1, (readData_closedLoop setup _ _ _).1, if_true]
  split <;> rfl

/-- A request moves on to a reading that is not older. -/
theorem Holds.request {initial data : DeviceData} {bus : Bus Loop} (holds : Holds setup initial number data bus) :
    ∃ later, number ≤ later ∧
      Holds setup initial later (requestData (platform setup) data bus).2.1 (requestData (platform setup) data bus).2.2 := by
  have commanded : Ahead setup number (commanded setup bus.world).slave.fss := holds.ahead.exchange ..
  have arrived := commanded.deliver (setup.arrivals (EndToEnd.commanded setup bus.world).transferred)
  obtain ⟨later, forward, taken, stored⟩ := arrived.store (exchange_read ..) initial
  refine ⟨later, forward, ?_, ?_⟩
  · rw [(requestData_closedLoop setup bus data).2, holds.stored]
    exact stored
  · rw [requestData_world]
    exact Ahead.flush taken (by simp [isRequest, deviceDataSize])

end Driver

section Cfs
open Cfs CfsStep

def noData : DeviceData := ⟨0, 0, 0⟩

abbrev HoldsApp (number : Nat) (app : AppData Loop) : Prop := Holds setup noData number app.devicePkt app.spi

abbrev Sent (number : Nat) (data : DeviceData) : Prop := data = reading setup noData number

abbrev ToldApp : AppData Loop → Prop := Chronicle.Told (Sent setup) devicePackets (HoldsApp setup)

variable {setup} {app app' : AppData Loop} {asked : Directive}

theorem request_moves {number : Nat} (holds : HoldsApp setup number app) :
    ∃ later, number ≤ later ∧ Holds setup noData later (request (platform setup) app).2.1 (request (platform setup) app).2.2 :=
  Holds.request holds

theorem Step.advances (step : Step (platform setup) app asked app') :
    Chronicle.Advances (Sent setup) devicePackets (HoldsApp setup) app app' := by
  intro number holds
  cases step with
  | noop | resetCounters | enableRefused | disableRefused | dataIgnored | rejected | enabled | enableFailed | disabled
  | disableFailed =>
    exact ⟨number, Nat.le_refl number, ⟨holds.stored, holds.ahead⟩, [], (List.append_nil _).symm, by simp⟩
  | housekeeping => exact ⟨number, Nat.le_refl number, holds, [], by simp [devicePackets], by simp⟩
  | dataSent =>
    obtain ⟨later, forward, held⟩ := request_moves holds
    generalize request (platform setup) app = answer at held ⊢
    refine ⟨later, forward, held, [answer.2.1], by simp [devicePackets], ?_⟩
    intro data member
    rw [List.mem_singleton.mp member]
    exact held.stored
  | dataFailed =>
    obtain ⟨later, forward, held⟩ := request_moves holds
    generalize request (platform setup) app = answer at held ⊢
    exact ⟨later, forward, held, [], (List.append_nil _).symm, by simp⟩

theorem startMain_told (cfe : InitStatus) : ToldApp setup (startMain cfe (.zero ⟨.construct, 0⟩)).app := by
  obtain ⟨_, blank, idle, silent⟩ := CfsMain.startMain_idle cfe (⟨.construct, 0⟩ : Loop)
  refine ⟨0, ?_, ?_⟩
  · rw [HoldsApp, blank, idle]
    exact ⟨rfl, Nat.le_refl 0, .empty⟩
  · rw [devicePackets, silent]
    exact .nil 0

/-- Whatever happens to the simulator, the device packets of the application are readings
it took, in the order it took them. -/
theorem appMain_inOrder (setup : Setup ρ) (cfe : InitStatus) (turns : List Turn) :
    let app := (appMain (platform setup) cfe ⟨.construct, 0⟩ turns).app
    ∃ latest, latest ≤ app.spi.world.slave.fss.samples ∧ app.devicePkt = reading setup noData latest ∧
      Chronicle.InOrder (fun number data => data = reading setup noData number) latest (devicePackets app) := by
  have told : ToldApp setup (appMain (platform setup) cfe ⟨.construct, 0⟩ turns).app := by
    apply CfsMain.appMain_preserves (platform setup) (fun _ _ _ => Iff.rfl) _ (startMain_told cfe)
    intro app asked app' step told
    exact told.advance (Step.advances step)
  obtain ⟨latest, holds, ordered⟩ := told
  exact ⟨latest, holds.ahead.taken, holds.stored, ordered⟩

end Cfs

section Fprime
open Fprime FprimeStep

/-- The sun data that an output carries, if any, is this. -/
def Carries (data : DeviceData) : Output → Prop
  | .fssOut _ sent => sent = data
  | .tlmWrite (.alpha value) => value = data.alpha
  | .tlmWrite (.beta value) => value = data.beta
  | .tlmWrite (.errorCode value) => value = data.errorCode
  | _ => True

abbrev HoldsComponent (initial : DeviceData) (number : Nat) (component : Component Loop) : Prop :=
  Holds setup initial number component.fssData component.fssSpi

abbrev ToldComponent (initial : DeviceData) : Component Loop → Prop :=
  Chronicle.Told (fun number => Carries (reading setup initial number)) Component.outputs (HoldsComponent setup initial)

theorem Step.carries {σ : Type} {plat : Platform σ} {component component' : Component σ} {invocation : Invocation}
    (step : Step plat component invocation component') :
    ∃ more, component'.outputs = component.outputs ++ more ∧ ∀ output ∈ more, Carries component'.fssData output := by
  cases step with
  | polled | pollFailed | reported | noop | resetCounters | housekeeping | housekeepingRefused =>
    exact ⟨_, rfl, by simp [Carries, dataChannels, countChannels, enabledChannel]⟩
  | enabled | enableFailed | enableRefused | disabled | disableFailed | disableRefused =>
    exact ⟨_, rfl, by simp [Carries, closingOutputs, countChannels, enabledChannel]⟩
  | dataRead | dataFailed | dataRefused =>
    exact ⟨_, rfl, by simp [Carries, requestOutputs, dataChannels, countChannels]⟩

variable {setup} {initial : DeviceData} {number : Nat} {component component' : Component Loop} {invocation : Invocation}

theorem polling_moves (holds : HoldsComponent setup initial number component) :
    ∃ later, number ≤ later ∧
      Holds setup initial later (request (platform setup) component).2.1 (request (platform setup) component).2.2 :=
  Holds.request holds

theorem Step.moves (step : FprimeStep.Step (platform setup) component invocation component')
    (holds : HoldsComponent setup initial number component) :
    ∃ later, number ≤ later ∧ HoldsComponent setup initial later component' := by
  cases step with
  | polled | pollFailed | dataRead | dataFailed =>
    obtain ⟨later, forward, held⟩ := polling_moves holds
    generalize request (platform setup) component = answer at held ⊢
    exact ⟨later, forward, held⟩
  | _ => exact ⟨number, Nat.le_refl number, holds.stored, holds.ahead⟩

theorem dispatch_advances (component : Component Loop) (invocation : Invocation) :
    Chronicle.Advances (fun number => Carries (reading setup initial number)) Component.outputs
      (HoldsComponent setup initial) component (dispatch (platform setup) component invocation) := by
  intro number holds
  have step := dispatch_step (platform setup) component invocation
  obtain ⟨later, forward, held⟩ := Step.moves step holds
  obtain ⟨more, grown, carried⟩ := Step.carries step
  rw [held.stored] at carried
  exact ⟨later, forward, held, more, grown, carried⟩

/-- The same for everything the F' component outputs, after the data it was constructed with. -/
theorem dispatch_inOrder (setup : Setup ρ) (uninitialized : DeviceData) (device : SpiInfo) (invocations : List Invocation) :
    let component := Machine.run (dispatch (platform setup))
      (construct (platform setup) uninitialized device ⟨.construct, 0⟩) invocations
    ∃ latest, latest ≤ component.fssSpi.world.slave.fss.samples ∧ component.fssData = reading setup uninitialized latest ∧
      Chronicle.InOrder (fun number => Carries (reading setup uninitialized number)) latest component.outputs := by
  have printed : Chronicle.InOrder (fun number => Carries (reading setup uninitialized number)) 0
      (construct (platform setup) uninitialized device ⟨.construct, 0⟩).outputs :=
    (Chronicle.InOrder.nil 0).append (Nat.le_refl 0) (by simp [Carries])
  have initial : ToldComponent setup uninitialized (construct (platform setup) uninitialized device ⟨.construct, 0⟩) :=
    ⟨0, ⟨rfl, Nat.le_refl 0, .empty⟩, printed⟩
  obtain ⟨latest, holds, ordered⟩ := Machine.run_preserves
    (fun component invocation told => Chronicle.Told.advance told (dispatch_advances component invocation)) initial invocations
  exact ⟨latest, holds.ahead.taken, holds.stored, ordered⟩

end Fprime

end GenericFss.Proofs.Chronology
