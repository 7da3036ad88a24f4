import GenericFss.Library.Provenance
import GenericFss.Proofs.DriverContract
import GenericFss.Proofs.FprimeStep

/-! Where the sun data that the F' component downlinks comes from. Three handlers write
what is stored, whether or not a frame has ever been stored there. -/

namespace GenericFss.Proofs.FprimeDownlink
open GenericFss Device Fprime FprimeStep Requests DriverContract

variable {σ : Type} (plat : Platform σ)

def newCalls (component component' : Component σ) : List Call := component'.fssSpi.calls.drop component.fssSpi.calls.length

/-- The invocation receives a valid frame that carries this sun data. -/
def Receives (component : Component σ) (invocation : Invocation) (data : DeviceData) : Prop :=
  ∃ frame, Received (newCalls component (dispatch plat component invocation)) frame ∧ ValidFrame frame ∧
    data = carried plat.byteOrder frame

def sunChannels (data : DeviceData) : List Channel := [.alpha data.alpha, .beta data.beta, .errorCode data.errorCode]

def sunWrite : Output → Option Channel
  | .tlmWrite (.alpha value) => some (.alpha value)
  | .tlmWrite (.beta value) => some (.beta value)
  | .tlmWrite (.errorCode value) => some (.errorCode value)
  | _ => none

def sunWrites (component : Component σ) (invocation : Invocation) : List Channel :=
  ((dispatch plat component invocation).outputs.drop component.outputs.length).filterMap sunWrite

/-- The invocations that write the sun data, the refused REQUEST_DATA among them. -/
def Reports (component : Component σ) : Invocation → Prop
  | .updateTlm | .command .requestData _ _ => True
  | .command .requestHousekeeping _ _ => component.hkTelemetryPkt.deviceEnabled = deviceEnabled
  | _ => False

/-- A frame that is received between two states is stored, and without one the sun data stays. -/
def StoresReceived (component component' : Component σ) : Prop :=
  (∃ frame, Received (newCalls component component') frame ∧ ValidFrame frame ∧
      component'.fssData = carried plat.byteOrder frame) ∨
    (¬ ∃ frame, Received (newCalls component component') frame ∧ ValidFrame frame) ∧
      component'.fssData = component.fssData

section Steps
variable {plat} {component component' : Component σ} {invocation : Invocation}

theorem Step.writes (step : Step plat component invocation component') :
    ∃ more, component'.outputs = component.outputs ++ more ∧
      (Reports component invocation ∧ more.filterMap sunWrite = sunChannels component'.fssData ∨
        ¬ Reports component invocation ∧ more.filterMap sunWrite = []) := by
  cases step with
  | polled | pollFailed | noop | resetCounters | enabled | enableFailed | enableRefused | disabled | disableFailed
  | disableRefused => exact ⟨_, rfl, Or.inr ⟨id, rfl⟩⟩
  | reported | dataRead | dataFailed | dataRefused => exact ⟨_, rfl, Or.inl ⟨trivial, rfl⟩⟩
  | housekeeping _ enabled => exact ⟨_, rfl, Or.inl ⟨enabled, rfl⟩⟩
  | housekeepingRefused _ disabled => exact ⟨_, rfl, Or.inr ⟨disabled, rfl⟩⟩

theorem idle_of_quiet {calls : List Call} (quiet : calls.filterMap Call.busOutcome = []) :
    ¬ ∃ frame, Received calls frame ∧ ValidFrame frame := by
  intro ⟨_, ⟨six, _⟩, _⟩
  rw [SixSucceeded, quiet] at six
  cases six

theorem storesReceived_of_request (log : newCalls component component' = requestCalls plat component.fssData component.fssSpi)
    (stored : component'.fssData = (requestData plat component.fssData component.fssSpi).2.1) :
    StoresReceived plat component component' := by
  rw [StoresReceived, log, stored]
  by_cases answered : ∃ frame, Received (requestCalls plat component.fssData component.fssSpi) frame ∧ ValidFrame frame
  · obtain ⟨frame, received, valid⟩ := answered
    exact Or.inl ⟨frame, received, valid, (stored_of_received received).trans (if_pos valid)⟩
  · exact Or.inr ⟨answered, stored_of_unanswered answered⟩

theorem Step.loads (step : Step plat component invocation component') : StoresReceived plat component component' := by
  cases step with
  | polled | pollFailed | dataRead | dataFailed => exact storesReceived_of_request rfl rfl
  | reported | noop | resetCounters | enableRefused | disableRefused | housekeeping | housekeepingRefused | dataRefused =>
    exact Or.inr ⟨idle_of_quiet (by simp [newCalls]), rfl⟩
  | enabled | enableFailed =>
    exact Or.inr ⟨idle_of_quiet (by simp [newCalls, spiInitDev, Call.busOutcome]), rfl⟩
  | disabled | disableFailed =>
    exact Or.inr ⟨idle_of_quiet (by simp [newCalls, spiCloseDevice, Call.busOutcome]), rfl⟩

end Steps

theorem receives_loads : Provenance.Loads (dispatch plat) Component.fssData (Receives plat) := by
  intro component invocation
  rcases Step.loads (dispatch_step plat component invocation) with loaded | ⟨unanswered, same⟩
  · exact Or.inl loaded
  · refine Or.inr ⟨?_, same⟩
    intro data ⟨frame, received, valid, _⟩
    exact unanswered ⟨frame, received, valid⟩

theorem sunWrites_eq (component : Component σ) (invocation : Invocation) :
    Reports component invocation ∧ sunWrites plat component invocation = sunChannels (dispatch plat component invocation).fssData ∨
      ¬ Reports component invocation ∧ sunWrites plat component invocation = [] := by
  obtain ⟨more, grown, written⟩ := Step.writes (dispatch_step plat component invocation)
  rwa [sunWrites, grown, List.drop_left]

/-- Everything written to the sun channels comes from the most recent valid frame. -/
def DownlinksReceived (start : Component σ) (invocations : List Invocation) : Prop :=
  ∀ before invocation after, invocations = before ++ invocation :: after →
    ∀ channel ∈ sunWrites plat (Machine.run (dispatch plat) start before) invocation,
      ∃ data, Provenance.Latest (dispatch plat) (Receives plat) start (before ++ [invocation]) data ∧
        channel ∈ sunChannels data

def ReportsReceived (start : Component σ) (invocations : List Invocation) : Prop :=
  ∀ before invocation after, invocations = before ++ invocation :: after →
    Reports (Machine.run (dispatch plat) start before) invocation →
      Provenance.Brought (dispatch plat) (Receives plat) start (before ++ [invocation])

/-- The component downlinks received angles exactly if it is not made to report before the first valid frame. -/
theorem downlinksReceived_iff (uninitialized : DeviceData) (device : SpiInfo) (world : σ) (invocations : List Invocation) :
    DownlinksReceived plat (construct plat uninitialized device world) invocations ↔
      ReportsReceived plat (construct plat uninitialized device world) invocations := by
  generalize construct plat uninitialized device world = start
  constructor
  · intro downlinks before invocation after split reports
    obtain ⟨_, written⟩ := (sunWrites_eq plat (Machine.run (dispatch plat) start before) invocation).resolve_right
      (fun silent => silent.1 reports)
    have written : ∃ channel, channel ∈ sunWrites plat (Machine.run (dispatch plat) start before) invocation := by
      rw [written]
      exact ⟨_, List.mem_cons_self⟩
    obtain ⟨channel, member⟩ := written
    obtain ⟨_, latest, _⟩ := downlinks before invocation after split channel member
    exact latest.brought
  · intro received before invocation after split channel member
    rcases sunWrites_eq plat (Machine.run (dispatch plat) start before) invocation with ⟨reports, written⟩ | ⟨_, silent⟩
    · have latest := Provenance.latest (receives_loads plat) (received before invocation after split reports)
      rw [Machine.run_concat] at latest
      exact ⟨_, latest, written ▸ member⟩
    · rw [silent] at member
      cases member

/-- The first report after construction sends whatever the uninitialized member held. -/
theorem downlinksReceived_fails :
    ¬ DownlinksReceived scripted (construct scripted ⟨0x3F800000, 0, 0⟩ .zero []) [.updateTlm] := by
  intro downlinks
  obtain ⟨_, latest, _⟩ := downlinks [] .updateTlm [] rfl (.alpha 0x3F800000) (by decide)
  have idle (data : DeviceData) : ¬ Receives scripted (construct scripted ⟨0x3F800000, 0, 0⟩ .zero []) .updateTlm data := by
    intro ⟨frame, received, valid, _⟩
    exact idle_of_quiet rfl ⟨frame, received, valid⟩
  obtain ⟨_, _, _, _, split, _⟩ := latest.brought.of_concat idle
  simp at split

end GenericFss.Proofs.FprimeDownlink
