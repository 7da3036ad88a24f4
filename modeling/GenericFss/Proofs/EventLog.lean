import GenericFss.Library.Machine
import GenericFss.Library.Tally
import GenericFss.Proofs.CfsStep

/-! The event log of the cFS application against its counters. Every count but that of the
device's successes leaves an event, and the event that a reset leaves starts the counts anew. -/

namespace GenericFss.Proofs.EventLog
open GenericFss Device Cfs

section Classes
variable (event : Event)

def clears : Bool := event.eventId == cmdResetInfEid

/-- A command was carried out, or its attempt failed in the driver. -/
def accepts : Bool := [cmdNoopInfEid, enableInfEid, spiInitErrEid, disableInfEid, spiCloseErrEid].contains event.eventId

def refuses : Bool :=
  [lenErrEid, processCmdErrEid, cmdErrEid, enableErrEid, disableErrEid, deviceTlmErrEid].contains event.eventId

def fails : Bool := [spiInitErrEid, spiCloseErrEid, reqDataErrEid].contains event.eventId

end Classes

/-- Three of the four counters can be read off the log. -/
structure Explains (events : List Event) (hk : HkTlm) : Prop where
  commandCount : Tally.Shows hk.commandCount ((Tally.sinceLast clears events).countP accepts)
  commandErrorCount : Tally.Shows hk.commandErrorCount ((Tally.sinceLast clears events).countP refuses)
  deviceErrorCount : Tally.Shows hk.deviceErrorCount ((Tally.sinceLast clears events).countP fails)

section Rules
variable {events : List Event} {hk hk' : HkTlm} {event : Event}

theorem Explains.record (explains : Explains events hk) (kept : clears event = false)
    (command : hk'.commandCount = if accepts event then hk.commandCount + 1 else hk.commandCount)
    (error : hk'.commandErrorCount = if refuses event then hk.commandErrorCount + 1 else hk.commandErrorCount)
    (device : hk'.deviceErrorCount = if fails event then hk.deviceErrorCount + 1 else hk.deviceErrorCount) :
    Explains (events ++ [event]) hk' := by
  refine ⟨?_, ?_, ?_⟩ <;> rw [Tally.sinceLast_kept kept]
  · exact explains.commandCount.record event command
  · exact explains.commandErrorCount.record event error
  · exact explains.deviceErrorCount.record event device

theorem Explains.cleared (cleared : clears event = true) : Explains (events ++ [event]) hk.resetCounters := by
  constructor <;> rw [Tally.sinceLast_cleared cleared] <;> exact .zero

end Rules

section Functions
variable {σ : Type} (plat : Platform σ) {app : AppData σ} (msg : Message)

abbrev Explained (app : AppData σ) : Prop := Explains app.events app.hkTelemetryPkt

theorem enable_explained (explained : Explained app) : Explained (enable plat app) := by
  simp only [enable]
  split
  next closed =>
    split
    next opened => exact explained.record rfl rfl rfl rfl
    next failed => exact explained.record rfl rfl rfl rfl
  next opened => exact explained.record rfl rfl rfl rfl

theorem disable_explained (explained : Explained app) : Explained (disable plat app) := by
  simp only [disable]
  split
  next opened =>
    split
    next closed => exact explained.record rfl rfl rfl rfl
    next failed => exact explained.record rfl rfl rfl rfl
  next closed => exact explained.record rfl rfl rfl rfl

theorem reportDeviceTelemetry_explained (explained : Explained app) : Explained (reportDeviceTelemetry plat app) := by
  simp only [reportDeviceTelemetry]
  split
  next enabled =>
    split
    next sent => exact ⟨explained.commandCount, explained.commandErrorCount, explained.deviceErrorCount⟩
    next failed => exact explained.record rfl rfl rfl rfl
  next disabled => exact explained

theorem whenVerified_explained {action : AppData σ → AppData σ} (acted : ∀ app, Explained app → Explained (action app))
    (explained : Explained app) : Explained (whenVerified plat msg action app) := by
  by_cases sized : msg.size = plat.sizeofNoArgsCmd.toNat
  · rw [CfsStep.whenVerified_sized plat app msg action sized]
    exact acted app explained
  · simp only [whenVerified, verifyCmdLength, if_neg (Ne.symm sized), if_neg Requests.osError_ne]
    exact explained.record rfl rfl rfl rfl

theorem processGroundCommand_explained (explained : Explained app) : Explained (processGroundCommand plat msg app) := by
  simp only [processGroundCommand]
  split
  next noop => exact whenVerified_explained plat msg (fun _ explained => explained.record rfl rfl rfl rfl) explained
  next notNoop =>
    split
    next resetCounters => exact whenVerified_explained plat msg (fun _ _ => .cleared rfl) explained
    next notReset =>
      split
      next enable =>
        refine whenVerified_explained plat msg (fun app explained => ?_) explained
        exact (enable_explained plat explained).record rfl rfl rfl rfl
      next notEnable =>
        split
        next disable =>
          refine whenVerified_explained plat msg (fun app explained => ?_) explained
          exact (disable_explained plat explained).record rfl rfl rfl rfl
        next unknown => exact explained.record rfl rfl rfl rfl

theorem processTelemetryRequest_explained (explained : Explained app) : Explained (processTelemetryRequest plat msg app) := by
  simp only [processTelemetryRequest]
  split
  next housekeeping => exact explained
  next notHousekeeping =>
    split
    next data => exact reportDeviceTelemetry_explained plat explained
    next unknown => exact explained.record rfl rfl rfl rfl

theorem processCommandPacket_explained (explained : Explained app) : Explained (processCommandPacket plat app msg) := by
  simp only [processCommandPacket]
  split
  next command => exact processGroundCommand_explained plat msg explained
  next notCommand =>
    split
    next request => exact processTelemetryRequest_explained plat msg explained
    next unknown => exact explained.record rfl rfl rfl rfl

end Functions

section Main
variable {σ : Type} (plat : Platform σ)

theorem startMain_explained (cfe : InitStatus) (world : σ) : Explained (startMain cfe (.zero world)).app := by
  have start : Explains [] .zero := ⟨.zero, .zero, .zero⟩
  have initialized : Explained (appInit cfe (.zero world)).2 := by
    simp only [appInit]
    split
    next registerFailed => exact start
    next registered =>
      split
      next pipeFailed => exact start.record rfl rfl rfl rfl
      next piped =>
        split
        next subscribeFailed => exact start.record rfl rfl rfl rfl
        next subscribed =>
          split
          next subscribeFailed => exact start.record rfl rfl rfl rfl
          next subscribed => split <;> exact start.record rfl rfl rfl rfl
  simp only [startMain]
  split <;> exact initialized

theorem turn_explained (main : Main σ) (input : Turn) (explained : Explained main.app) : Explained (turn plat main input).app := by
  simp only [turn]
  split
  next exited => exact explained
  next running =>
    split
    next keepRunning =>
      split
      next received => exact processCommandPacket_explained plat input.message explained
      next receiveError => exact explained.record rfl rfl rfl rfl
    next stopped => exact disable_explained plat explained

/-- At every point of every run the event log explains the command counters and the error
counter of the device, however initialization went and whatever the executive answered. -/
theorem appMain_explained (cfe : InitStatus) (world : σ) (turns : List Turn) : Explained (appMain plat cfe world turns).app := by
  have main := @Machine.run_preserves _ _ (turn plat) (fun main => Explained main.app) (turn_explained plat) _
    (startMain_explained cfe world) turns
  exact main

end Main

end GenericFss.Proofs.EventLog
