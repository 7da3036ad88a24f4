import GenericFss.Proofs.CheckoutRun
import GenericFss.Proofs.DeviceLifecycle

/-! What a whole run of the checkout tool does to the sensor, whatever is typed: it
opens the device once, calls the driver for each request and closes it once. -/

namespace GenericFss.Proofs.CheckoutSession
open CString Checkout Requests CheckoutLanguage CheckoutRun DeviceLifecycle

/-- A call of the driver: what it did on the bus, what it returned and what it was given. -/
structure DriverCall where
  calls : List Call
  status : Status
  response : Option (Vector UInt8 deviceDataSize)
  request : Request calls status response

def verdict (status : Status) : String :=
  if status = osSuccess then "GENERIC_FSS_RequestData command success.\n" else "GENERIC_FSS_RequestData command failed!\n"

def isVerdict (text : String) : Bool := text = verdict osSuccess ∨ text = verdict osError

theorem isVerdict_verdict (status : Status) : isVerdict (verdict status) = true := by
  by_cases succeeded : status = osSuccess
  · simp [isVerdict, succeeded]
  · simp [isVerdict, verdict, succeeded, osError_ne]

section Serving
variable {σ : Type} {order : ByteOrder} {before between after : Main σ} {asked more : List DriverCall}

/-- Between the two states these calls of the driver have been made, and nothing else has been done
to the device. -/
structure Served (order : ByteOrder) (asked : List DriverCall) (before after : Main σ) : Prop where
  calls : after.fssSpi.calls = before.fssSpi.calls ++ (asked.map DriverCall.calls).flatten
  data : after.fssData = (asked.map DriverCall.response).foldl (store order) before.fssData
  verdicts : after.printed.filter isVerdict = before.printed.filter isVerdict ++ asked.map fun call => verdict call.status
  requests : (history after).count .request = (history before).count .request + asked.length

theorem Served.idle (calls : after.fssSpi.calls = before.fssSpi.calls) (data : after.fssData = before.fssData)
    (verdicts : after.printed.filter isVerdict = before.printed.filter isVerdict)
    (requests : (history after).count .request = (history before).count .request) : Served order [] before after where
  calls := by simpa using calls
  data := data
  verdicts := by simpa using verdicts
  requests := requests

theorem Served.trans (first : Served order asked before between) (second : Served order more between after) :
    Served order (asked ++ more) before after where
  calls := by rw [second.calls, first.calls, List.map_append, List.flatten_append, List.append_assoc]
  data := by rw [second.data, first.data, List.map_append, List.foldl_append]
  verdicts := by rw [second.verdicts, first.verdicts, List.map_append, List.append_assoc]
  requests := by rw [second.requests, first.requests, List.length_append, Nat.add_assoc]

end Serving

section Rounds
variable {σ : Type} (plat : Platform σ)

theorem fssProcessCommand_request (state : Main σ) :
    fssProcessCommand plat cmdGenericFss 0 state =
      (osSuccess, { state with
        fssData := (Device.requestData plat state.fssData state.fssSpi).2.1
        fssSpi := (Device.requestData plat state.fssData state.fssSpi).2.2
        printed := state.printed ++ [verdict (Device.requestData plat state.fssData state.fssSpi).1] }) := by
  have counted : fssCheckNumberArguments 0 0 state = (osSuccess, state) := rfl
  by_cases succeeded : (Device.requestData plat state.fssData state.fssSpi).1 = osSuccess
  · simp [fssProcessCommand, counted, succeeded, verdict, Main.print, cmdHelp, cmdExit, cmdGenericFss]
  · simp [fssProcessCommand, counted, succeeded, verdict, Main.print, cmdHelp, cmdExit, cmdGenericFss]

/-- A command that is no request prints at most a text and leaves the device alone. -/
theorem fssProcessCommand_idle {cc numTokens : Int} (other : ¬ (cc = cmdGenericFss ∧ numTokens = 0)) (state : Main σ) :
    ∃ texts, texts.filter isVerdict = [] ∧
      (fssProcessCommand plat cc numTokens state).2 = { state with printed := state.printed ++ texts } := by
  have help : [helpText].filter isVerdict = [] := by decide
  have invalid : [invalidFormat].filter isVerdict = [] := by decide
  simp only [fssProcessCommand]
  split
  next => exact ⟨_, help, rfl⟩
  next =>
    split
    next => exact ⟨[], rfl, by simp⟩
    next =>
      split
      next fss =>
        have several : numTokens ≠ 0 := fun alone => other ⟨fss, alone⟩
        simp only [fssCheckNumberArguments, if_pos several, if_neg osError_ne]
        exact ⟨_, invalid, rfl⟩
      next => exact ⟨_, invalid, rfl⟩

theorem carriedOut_request {call : Int × Int} : carriedOut call = .request ↔ call.1 = cmdGenericFss ∧ call.2 = 0 := by
  grind [carriedOut, cmdHelp, cmdExit, cmdGenericFss]

/-- All that one round can do to the device: nothing, or one call of the driver. -/
inductive Round (before after : Main σ) : Prop where
  | idle : after.fssSpi = before.fssSpi → after.fssData = before.fssData →
      after.printed.filter isVerdict = before.printed.filter isVerdict →
      (history after).count .request = (history before).count .request → Round before after
  | asked : after.fssSpi = (Device.requestData plat before.fssData before.fssSpi).2.2 →
      after.fssData = (Device.requestData plat before.fssData before.fssSpi).2.1 →
      after.printed.filter isVerdict =
        before.printed.filter isVerdict ++ [verdict (Device.requestData plat before.fssData before.fssSpi).1] →
      (history after).count .request = (history before).count .request + 1 → Round before after

variable {plat} {before after : Main σ}

theorem obey_round (cc numTokens : Int) (state : Main σ) : Round plat state (obey plat cc numTokens state) := by
  by_cases request : cc = cmdGenericFss ∧ numTokens = 0
  · obtain ⟨rfl, rfl⟩ := request
    rw [obey, fssProcessCommand_request]
    refine .asked rfl rfl ?_ ?_
    · simp [isVerdict_verdict]
    · simp [history, carriedOut_request.mpr]
  · obtain ⟨texts, silent, processed⟩ := fssProcessCommand_idle plat request
      { state with executed := state.executed ++ [(cc, numTokens)] }
    have other : carriedOut (cc, numTokens) ≠ .request := fun same => request (carriedOut_request.mp same)
    refine .idle ?_ ?_ ?_ ?_
    · simp only [obey, processed]
    · simp only [obey, processed]
    · simp only [obey, processed, List.filter_append, silent, List.append_nil]
    · simp [obey, processed, history, other]

theorem takeIn_verdicts (state : Main σ) (stdin inputBuf : List UInt8) (inputTokens : List (Int × List UInt8)) :
    (takeIn state stdin inputBuf inputTokens).printed.filter isVerdict = state.printed.filter isVerdict := by
  have prompted : [prompt].filter isVerdict = [] := by decide
  simp only [takeIn, Main.print, List.filter_append, prompted, List.append_nil]

/-- On any input. -/
theorem iteration_round (stepped : iteration plat before = some after) : Round plat before after := by
  obtain ⟨-, stdin, -, -, tokens, -, -, -, rfl⟩ := iteration_conclude plat stepped
  have verdicts := takeIn_verdicts before stdin (tokens.cursor.passed ++ tokens.cursor.rest) tokens.inputTokens
  rw [conclude]
  split
  next spoke =>
    cases obey_round tokens.cmd tokens.numInputTokens
      (takeIn before stdin (tokens.cursor.passed ++ tokens.cursor.rest) tokens.inputTokens) with
    | idle spi data printed requests => exact .idle spi data (printed.trans verdicts) requests
    | asked spi data printed requests => exact .asked spi data (verdicts ▸ printed) requests
  next silent => exact .idle rfl rfl verdicts rfl

theorem Round.serves (round : Round plat before after) : ∃ asked, Served plat.byteOrder asked before after := by
  cases round with
  | idle spi data verdicts requests => exact ⟨[], .idle (congrArg Bus.calls spi) data verdicts requests⟩
  | asked spi data verdicts requests =>
    obtain ⟨calls, response, log, request, stored⟩ := requestData_request plat before.fssData before.fssSpi
    refine ⟨[⟨calls, _, response, request⟩], ?_⟩
    exact {
      calls := by simpa [spi] using log
      data := data.trans stored
      verdicts := verdicts
      requests := requests }

end Rounds

section Runs
variable {σ : Type} (plat : Platform σ) (world : σ)

/-- The only `spi_init_dev` of a run, and how it ended. -/
def opening : Status := (spiInitDev plat ⟨world, SpiInfo.zero.configure, []⟩).1

def openingCall : Call := .initDev SpiInfo.zero.configure (opening plat world)

/-- Since the start of the program only the driver has been called. -/
structure Session (calls : List Call) (asked : List DriverCall) (state : Main σ) : Prop where
  calls : calls = openingCall plat world :: (asked.map DriverCall.calls).flatten
  data : state.fssData = (asked.map DriverCall.response).foldl (store plat.byteOrder) ⟨0, 0, 0⟩
  verdicts : state.printed.filter isVerdict = asked.map fun call => verdict call.status
  requests : (history state).count .request = asked.length

/-- The device is open and has been used within the protocol. -/
def InSession (state : Main σ) : Prop :=
  ∃ asked, Session plat world state.fssSpi.calls asked state ∧
    LegalCalls state.fssSpi.calls ∧ isOpen state.fssSpi.calls = true

/-- The device has been closed once, at the end, which was against the protocol only if it had
never been opened. -/
def Concluded (state : Main σ) : Prop :=
  ∃ asked before device closed, Session plat world before asked state ∧
    state.fssSpi.calls = before ++ [.closeDevice device closed] ∧
    (LegalCalls state.fssSpi.calls ↔ opening plat world = osSuccess) ∧
    (opening plat world ≠ osSuccess → asked = [])

theorem isVerdict_device (text : String) : isVerdict ("SPI device " ++ text) = false := by
  have letter (status : Status) : "SPI device " ++ text ≠ verdict status := by
    intro same
    have first := congrArg (fun text => text.toList.head?) same
    by_cases succeeded : status = osSuccess <;> simp [verdict, succeeded] at first
  simp [isVerdict, letter]

theorem startMain_session (inputBuf : Vector UInt8 maxInputBuf) (stdin : List UInt8) :
    Session plat world (startMain plat world inputBuf stdin).fssSpi.calls [] (startMain plat world inputBuf stdin) := by
  have help : isVerdict helpText = false := by decide
  simp only [startMain]
  split
  all_goals exact {
    calls := rfl
    data := rfl
    verdicts := by simp [fssPrintHelp, Main.print, String.append_assoc, isVerdict_device, help]
    requests := rfl }

theorem startMain_closed (inputBuf : Vector UInt8 maxInputBuf) (stdin : List UInt8)
    (failed : opening plat world ≠ osSuccess) : (startMain plat world inputBuf stdin).runs = false := by
  have status : (spiInitDev plat ⟨world, SpiInfo.zero.configure, []⟩).1 ≠ osSuccess := failed
  simp [startMain, status, fssPrintHelp, Main.runs, Main.print, runStatusOf_osError]

theorem stopMain_verdicts (state : Main σ) :
    (stopMain plat state).printed.filter isVerdict = state.printed.filter isVerdict := by
  have silent : ["Cleanly exiting generic_fss application...\n\n"].filter isVerdict = [] := by decide
  simp only [stopMain, Main.print, List.filter_append, silent, List.append_nil]

section Session
variable {plat world} {asked : List DriverCall} {calls : List Call} {state later : Main σ}

theorem Session.served (session : Session plat world state.fssSpi.calls [] state)
    (served : Served plat.byteOrder asked state later) :
    Session plat world later.fssSpi.calls asked later where
  calls := by rw [served.calls, session.calls]; rfl
  data := by rw [served.data, session.data]; rfl
  verdicts := by rw [served.verdicts, session.verdicts]; rfl
  requests := by rw [served.requests, session.requests]; exact Nat.zero_add _

/-- The protocol up to the end of the loop: a device that was opened is still open. -/
theorem Session.guarded (session : Session plat world calls asked state) (opened : opening plat world = osSuccess) :
    Lifecycle.Guarded true (calls.map Call.action) := by
  have start : Lifecycle.Guarded (decide (opening plat world = osSuccess)) [Call.action (openingCall plat world)] :=
    Lifecycle.Guarded.initial.acquire _
  rw [decide_eq_true opened] at start
  have uses : ∀ action ∈ (asked.map DriverCall.calls).flatten.map Call.action, action = .use ∨ action = .other := by
    simp only [List.mem_map, List.mem_flatten]
    rintro action ⟨call, ⟨word, ⟨driven, _, rfl⟩, inside⟩, rfl⟩
    exact driven.request.uses call inside
  rw [session.calls]
  exact start.uses uses

theorem Session.inSession (session : Session plat world state.fssSpi.calls asked state)
    (opened : opening plat world = osSuccess) : InSession plat world state :=
  ⟨asked, session, (session.guarded opened).legal, (session.guarded opened).flag_iff⟩

theorem Session.concluded (session : Session plat world state.fssSpi.calls asked state)
    (unused : opening plat world ≠ osSuccess → asked = []) : Concluded plat world (stopMain plat state) := by
  have closed : (stopMain plat state).fssSpi.calls =
      state.fssSpi.calls ++ [.closeDevice state.fssSpi.device (spiCloseDevice plat state.fssSpi).1] := rfl
  refine ⟨asked, state.fssSpi.calls, _, _, { session with verdicts := ?_ }, closed, ?_, unused⟩
  · rw [stopMain_verdicts, session.verdicts]
  · rw [closed, LegalCalls, List.map_append]
    by_cases opened : opening plat world = osSuccess
    · exact iff_of_true ((session.guarded opened).release _).legal opened
    · refine iff_of_false ?_ opened
      rw [session.calls, unused opened, List.map_singleton, Lifecycle.legal_concat]
      simp [openingCall, Call.action, Lifecycle.Action.Legal, Lifecycle.held, Lifecycle.Action.apply, opened]

end Session

/-- Whatever is typed, and whatever the bus answers, at every point of a run. -/
theorem main_session (rounds : Nat) (world : σ) (inputBuf : Vector UInt8 maxInputBuf) (stdin : List UInt8) :
    (∀ later, Loop.run Main.runs (iteration plat) rounds (startMain plat world inputBuf stdin) = .running later →
      InSession plat world later) ∧
    ∀ final, main plat rounds world inputBuf stdin = .ended final → Concluded plat world final := by
  have start := startMain_session plat world inputBuf stdin
  have kept (before after : Main σ)
      (reached : ∃ asked, Served plat.byteOrder asked (startMain plat world inputBuf stdin) before)
      (_ : before.runs = true) (stepped : iteration plat before = some after) :
      ∃ asked, Served plat.byteOrder asked (startMain plat world inputBuf stdin) after := by
    obtain ⟨asked, served⟩ := reached
    obtain ⟨more, next⟩ := (iteration_round stepped).serves
    exact ⟨asked ++ more, served.trans next⟩
  have reached := Loop.run_satisfies kept ⟨[], .idle rfl rfl rfl rfl⟩ rounds
  by_cases opened : opening plat world = osSuccess
  · constructor
    · intro later running
      rw [running] at reached
      obtain ⟨asked, served⟩ := reached
      exact (start.served served).inSession opened
    · intro final ended
      obtain ⟨stopped, looped, rfl⟩ := (ended_main plat).mp ended
      rw [looped] at reached
      obtain ⟨⟨asked, served⟩, -⟩ := reached
      exact (start.served served).concluded fun failed => absurd opened failed
  · have looped := @Loop.run_done _ Main.runs (iteration plat) _ rounds (startMain_closed plat world inputBuf stdin opened)
    constructor
    · intro later running
      rw [looped] at running
      cases running
    · intro final ended
      obtain ⟨stopped, same, rfl⟩ := (ended_main plat).mp ended
      rw [looped] at same
      cases same
      exact start.concluded fun _ => rfl

/-- One request and an `exit`. -/
theorem main_session_request : ∃ final, Concluded scripted [] final ∧ history final = [.request, .exit] := by
  have typed : ∀ line ∈ [literal "fss"] ++ [literal "exit"], Typed line := by
    simp only [List.singleton_append, List.forall_mem_cons]
    exact ⟨⟨⟨by decide, by decide, by decide⟩, by decide⟩, ⟨⟨by decide, by decide, by decide⟩, by decide⟩, by simp⟩
  obtain ⟨runs, input, fresh⟩ := @startMain_runs _ scripted [] (.replicate _ 0)
    (typedInput [literal "fss"] (literal "exit")) (by decide)
  obtain ⟨rounds, stopped, ended, executed⟩ := executes_lines scripted typed (by decide) runs input
  refine ⟨stopMain scripted stopped, ?_, ?_⟩
  · exact (main_session scripted rounds [] (.replicate _ 0) _).2 _ ((ended_main scripted).mpr ⟨stopped, ended, rfl⟩)
  · rw [fresh] at executed
    exact executed

end Runs

end GenericFss.Proofs.CheckoutSession
