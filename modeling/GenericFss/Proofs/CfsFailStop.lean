import Mathlib.Data.List.TakeWhile
import GenericFss.Script
import GenericFss.Proofs.CfsMain

/-! The application under an executive that keeps its word. The whole program then is
the messages that precede the first failure, in order, and one disabling of the
device. A message behind a failed read is never served. -/

namespace GenericFss.Proofs.CfsFailStop
open GenericFss Device Cfs CfsStep

variable {σ : Type} (plat : Platform σ)

/-- `CFE_ES_RunLoop` answers true only for the run status `APP_RUN`, which it leaves alone. -/
def Obeys (input : Turn) : Prop :=
  ∀ runStatus, (input.runLoop runStatus).1 = true →
    runStatus = runStatusAppRun ∧ (input.runLoop runStatus).2 = runStatusAppRun

def granted (input : Turn) : Bool := (input.runLoop runStatusAppRun).1

def serves (input : Turn) : Bool := granted input && decide (input.receiveStatus = cfeSuccess)

def served (cfe : InitStatus) (turns : List Turn) : List Message :=
  if cfe = .success then (turns.takeWhile serves).map (·.message) else []

/-- A loop that is not granted a turn is left at once, a failed read is noticed
only by the next one. -/
def LeavesWith (failing : List Turn) : Prop :=
  ∃ input later, failing = input :: later ∧ (granted input = true → later ≠ [])

/-- A failed initialization is noticed by the first turn. -/
def Leaves (cfe : InitStatus) (turns : List Turn) : Prop :=
  if cfe = .success then LeavesWith (turns.dropWhile serves) else turns ≠ []

/-- The program as a whole: `app` is what the messages served have made. -/
def Ended (left : Prop) (app : AppData σ) (main : Main σ) : Prop :=
  ∃ runStatus events, left ∧ main = ⟨disable plat { app with runStatus, events }, true⟩ ∨
    ¬left ∧ main = ⟨{ app with runStatus, events }, false⟩

variable {plat}

theorem runStatusAppError_ne : runStatusAppError ≠ runStatusAppRun := by
  decide

theorem appInit_succeeds_iff {cfe : InitStatus} {app : AppData σ} : (appInit cfe app).1 = cfeSuccess ↔ cfe = .success := by
  obtain ⟨evsRegister, createPipe, subscribeCmd, subscribeReqHk, startupEvent⟩ := cfe
  simp only [appInit, InitStatus.success, InitStatus.mk.injEq]
  (repeat' split) <;> simp_all

theorem startMain_running (cfe : InitStatus) (world : σ) :
    (startMain cfe (.zero world)).exited = false ∧
      ((startMain cfe (.zero world)).app.runStatus = runStatusAppRun ↔ cfe = .success) := by
  have status : (appInit cfe (.zero world)).2.runStatus = runStatusAppRun := by
    simp only [appInit]
    (repeat' split) <;> rfl
  simp only [startMain]
  split
  next failed =>
    refine ⟨rfl, ?_⟩
    exact iff_of_false runStatusAppError_ne (mt appInit_succeeds_iff.mpr failed)
  next initialized => exact ⟨rfl, iff_of_true status (appInit_succeeds_iff.mp (not_not.mp initialized))⟩

theorem Step.runStatus {app app' : AppData σ} {asked : Directive} (step : Step plat app asked app') :
    app'.runStatus = app.runStatus := by
  cases step <;> rfl

theorem run_exited {main : Main σ} (exited : main.exited = true) (turns : List Turn) :
    Machine.run (turn plat) main turns = main := by
  induction turns with
  | nil => rfl
  | cons input rest ih =>
    have stays : turn plat main input = main := by
      rw [turn, if_pos exited]
    rw [Machine.run_cons, stays, ih]

section Turns
variable {app : AppData σ} {input : Turn} {later : List Turn}

theorem run_refused (refused : (input.runLoop app.runStatus).1 = false) :
    Machine.run (turn plat) ⟨app, false⟩ (input :: later) =
      ⟨disable plat { app with runStatus := (input.runLoop app.runStatus).2 }, true⟩ := by
  have left : turn plat ⟨app, false⟩ input =
      ⟨disable plat { app with runStatus := (input.runLoop app.runStatus).2 }, true⟩ := by
    simp only [turn, Bool.false_eq_true, if_false, refused]
  rw [Machine.run_cons, left]
  exact run_exited rfl later

theorem run_failed (obeys : ∀ input ∈ later, Obeys input) (failed : app.runStatus ≠ runStatusAppRun) :
    Ended plat (later ≠ []) app (Machine.run (turn plat) ⟨app, false⟩ later) := by
  cases later with
  | nil => exact ⟨app.runStatus, app.events, .inr ⟨not_not.mpr rfl, rfl⟩⟩
  | cons input rest =>
    have refused : (input.runLoop app.runStatus).1 = false := by
      by_contra granted
      exact failed (obeys input (by simp) _ (Bool.not_eq_false _ ▸ granted)).1
    exact ⟨_, app.events, .inl ⟨List.cons_ne_nil _ _, run_refused refused⟩⟩

theorem turn_served (running : app.runStatus = runStatusAppRun) (obeys : Obeys input) (serving : serves input = true) :
    turn plat ⟨app, false⟩ input = ⟨processCommandPacket plat app input.message, false⟩ := by
  obtain ⟨accorded, received⟩ := Bool.and_eq_true_iff.mp serving
  have unchanged : { app with runStatus := (input.runLoop app.runStatus).2 } = app := by
    rw [running, (obeys _ accorded).2, ← running]
  have accorded : (input.runLoop app.runStatus).1 = true := running ▸ accorded
  simp only [turn, Bool.false_eq_true, if_false, accorded, if_true, unchanged, if_pos (of_decide_eq_true received)]

theorem run_unread (running : app.runStatus = runStatusAppRun) (accorded : granted input = true)
    (unread : input.receiveStatus ≠ cfeSuccess) (obeys : ∀ input ∈ later, Obeys input) :
    Ended plat (later ≠ []) app (Machine.run (turn plat) ⟨app, false⟩ (input :: later)) := by
  have accorded : (input.runLoop app.runStatus).1 = true := running ▸ accorded
  let events := app.events ++ [⟨pipeErrEid, .error, "GENERIC_FSS: SB Pipe Read Error = %d", [input.receiveStatus.toInt]⟩]
  have stopping : turn plat ⟨app, false⟩ input = ⟨{ app with runStatus := runStatusAppError, events }, false⟩ := by
    simp only [turn, Bool.false_eq_true, if_false, accorded, if_true, if_neg unread]
    rfl
  rw [Machine.run_cons, stopping]
  exact @run_failed _ plat { app with runStatus := runStatusAppError, events } later obeys runStatusAppError_ne

theorem leavesWith_granted (accorded : granted input = true) : LeavesWith (input :: later) = (later ≠ []) := by
  apply propext
  constructor
  · intro ⟨_, _, same, waits⟩
    obtain ⟨rfl, rfl⟩ := List.cons.inj same
    exact waits accorded
  · intro more
    exact ⟨input, later, rfl, fun _ => more⟩

end Turns

/-- From a running loop on: the messages up to the first turn that does not serve one. -/
theorem run_ended {app : AppData σ} (running : app.runStatus = runStatusAppRun) {turns : List Turn}
    (obeys : ∀ input ∈ turns, Obeys input) :
    Ended plat (LeavesWith (turns.dropWhile serves))
      (((turns.takeWhile serves).map (·.message)).foldl (processCommandPacket plat) app)
      (Machine.run (turn plat) ⟨app, false⟩ turns) := by
  induction turns generalizing app with
  | nil => exact ⟨app.runStatus, app.events, .inr ⟨by simp [LeavesWith], rfl⟩⟩
  | cons input later ih =>
    have others : ∀ input ∈ later, Obeys input := fun other member => obeys other (List.mem_cons_of_mem _ member)
    cases serving : serves input with
    | true =>
      have kept := (Step.runStatus (processCommandPacket_step plat app input.message)).trans running
      rw [Machine.run_cons, turn_served running (obeys input (by simp)) serving, List.takeWhile_cons_of_pos serving,
        List.dropWhile_cons_of_pos serving]
      exact ih kept others
    | false =>
      rw [List.takeWhile_cons_of_neg (by simp [serving]), List.dropWhile_cons_of_neg (by simp [serving])]
      cases accorded : granted input with
      | false =>
        have refused : (input.runLoop app.runStatus).1 = false := running ▸ accorded
        exact ⟨_, app.events, .inl ⟨⟨input, later, rfl, by simp [accorded]⟩, run_refused refused⟩⟩
      | true =>
        have unread : input.receiveStatus ≠ cfeSuccess := by
          intro received
          simp [serves, accorded, received] at serving
        rw [leavesWith_granted accorded]
        exact run_unread running accorded unread others

/-- The program over every run: it serves the messages before the first failure, and
has ended with a single disabling of the device exactly when the loop was left. -/
theorem appMain_failStop (cfe : InitStatus) (world : σ) (turns : List Turn) (obeys : ∀ input ∈ turns, Obeys input) :
    Ended plat (Leaves cfe turns)
      ((served cfe turns).foldl (processCommandPacket plat) (startMain cfe (.zero world)).app)
      (appMain plat cfe world turns) := by
  obtain ⟨entered, running⟩ := startMain_running cfe world
  have start : startMain cfe (.zero world) = ⟨(startMain cfe (.zero world)).app, false⟩ := entered ▸ rfl
  have run : appMain plat cfe world turns =
      Machine.run (turn plat) ⟨(startMain cfe (.zero world)).app, false⟩ turns := start ▸ rfl
  rw [run, Leaves, served]
  split
  next initialized => exact run_ended (running.mpr initialized) obeys
  next failed => exact run_failed obeys (mt running.mp failed)

def faithful (receiveStatus : Status) (message : Message) : Turn :=
  ⟨fun runStatus => (runStatus = runStatusAppRun, runStatus), receiveStatus, message⟩

theorem faithful_obeys (receiveStatus : Status) (message : Message) : Obeys (faithful receiveStatus message) := by
  intro runStatus accorded
  have running : runStatus = runStatusAppRun := of_decide_eq_true accorded
  exact ⟨running, running⟩

/-- The pipe breaks after an ENABLE. -/
def brokenPipe : List Turn :=
  [faithful cfeSuccess ⟨cmdMid, enableCc, 8⟩, faithful (-1) ⟨0, 0, 0⟩, faithful cfeSuccess ⟨cmdMid, noopCc, 8⟩]

/-- The NOOP that follows is not served. -/
theorem appMain_failStop_brokenPipe :
    served .success brokenPipe = [⟨cmdMid, enableCc, 8⟩] ∧ Leaves .success brokenPipe ∧
      Ended scripted (Leaves .success brokenPipe)
        ((served .success brokenPipe).foldl (processCommandPacket scripted) (startMain .success (.zero [])).app)
        (appMain scripted .success [] brokenPipe) := by
  refine ⟨rfl, ?_, appMain_failStop .success [] brokenPipe ?_⟩
  · exact ⟨faithful (-1) ⟨0, 0, 0⟩, [faithful cfeSuccess ⟨cmdMid, noopCc, 8⟩], rfl, fun _ => List.cons_ne_nil _ _⟩
  · intro input member
    simp only [brokenPipe, List.mem_cons, List.not_mem_nil, or_false] at member
    rcases member with rfl | rfl | rfl <;> exact faithful_obeys _ _

end GenericFss.Proofs.CfsFailStop
