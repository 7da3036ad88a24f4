import GenericFss.Library.Machine
import GenericFss.Library.Tally
import GenericFss.Proofs.FprimeStep

/-! What the F' component sends out against what it was asked and what it counts. Every command
is answered once, in order; the TELEM messages and the sun data explain all counts but that of
the device's errors, since a poll that fails leaves no trace. -/

namespace GenericFss.Proofs.FprimeLog
open GenericFss Device Fprime FprimeStep

section Answers
variable {σ : Type} (plat : Platform σ) {component component' : Component σ}

def answer : Output → Option (UInt32 × UInt32)
  | .cmdResponse opCode cmdSeq => some (opCode, cmdSeq)
  | _ => none

def asked : Invocation → Option (UInt32 × UInt32)
  | .command _ opCode cmdSeq => some (opCode, cmdSeq)
  | _ => none

def answers (component : Component σ) : List (UInt32 × UInt32) := component.outputs.filterMap answer

theorem Step.answers {invocation : Invocation} (step : Step plat component invocation component') :
    answers component' = answers component ++ (asked invocation).toList := by
  cases step <;> exact List.filterMap_append

theorem run_answers (component : Component σ) (invocations : List Invocation) :
    answers (Machine.run (dispatch plat) component invocations) = answers component ++ invocations.filterMap asked := by
  induction invocations generalizing component with
  | nil => simp
  | cons invocation rest ih =>
    have first := Step.answers plat (dispatch_step plat component invocation)
    rw [Machine.run_cons, ih, first, List.append_assoc, List.filterMap_cons]
    cases asked invocation <;> rfl

/-- Every command is answered exactly once, in the order of dispatch, whatever the device does. -/
theorem dispatch_answers (uninitialized : DeviceData) (device : SpiInfo) (world : σ) (invocations : List Invocation) :
    answers (Machine.run (dispatch plat) (construct plat uninitialized device world) invocations) =
      invocations.filterMap asked := by
  have silent : answers (construct plat uninitialized device world) = [] := by
    simp only [construct]
    split <;> rfl
  rw [run_answers, silent, List.nil_append]

end Answers

section Counts

def clears : Output → Bool
  | .logTelem message => message == "Reset Counters command successful!"
  | _ => false

def accepts : Output → Bool
  | .logTelem message => [
      "NOOP command success!", "Enable command success!", "Enable command failed to init SPI!", "Disable command success!",
      "Disable command failed to close SPI!", "Requested Housekeeping!", "RequestData command success\n",
      "RequestData command failed\n"].contains message
  | _ => false

def refuses : Output → Bool
  | .logTelem message => [
      "Enable failed, already Enabled!", "Disable failed, already Disabled!",
      "RequestData command failed, Device Disabled\n"].contains message
  | _ => false

def succeeds : Output → Bool
  | .logTelem message =>
    ["Enable command success!", "Disable command success!", "RequestData command success\n"].contains message
  | .fssOut _ _ => true
  | _ => false

structure Explains (outputs : List Output) (hk : HkTlm) : Prop where
  commandCount : Tally.Shows hk.commandCount ((Tally.sinceLast clears outputs).countP accepts)
  commandErrorCount : Tally.Shows hk.commandErrorCount ((Tally.sinceLast clears outputs).countP refuses)
  deviceCount : Tally.Shows hk.deviceCount ((Tally.sinceLast clears outputs).countP succeeds)

theorem Explains.record {outputs : List Output} {hk hk' : HkTlm} {output : Output} (explains : Explains outputs hk)
    (kept : clears output = false)
    (command : hk'.commandCount = if accepts output then hk.commandCount + 1 else hk.commandCount)
    (error : hk'.commandErrorCount = if refuses output then hk.commandErrorCount + 1 else hk.commandErrorCount)
    (device : hk'.deviceCount = if succeeds output then hk.deviceCount + 1 else hk.deviceCount) :
    Explains (outputs ++ [output]) hk' := by
  refine ⟨?_, ?_, ?_⟩ <;> rw [Tally.sinceLast_kept kept]
  · exact explains.commandCount.record output command
  · exact explains.commandErrorCount.record output error
  · exact explains.deviceCount.record output device

theorem Explains.cleared {outputs : List Output} {hk : HkTlm} {output : Output} (cleared : clears output = true) :
    Explains (outputs ++ [output]) hk.resetCounters := by
  constructor <;> rw [Tally.sinceLast_cleared cleared] <;> exact .zero

theorem Explains.written {outputs : List Output} {hk : HkTlm} (explains : Explains outputs hk) (channel : Channel) :
    Explains (outputs ++ [.tlmWrite channel]) hk := explains.record rfl rfl rfl rfl

theorem Explains.answered {outputs : List Output} {hk : HkTlm} (explains : Explains outputs hk) (opCode cmdSeq : UInt32) :
    Explains (outputs ++ [.cmdResponse opCode cmdSeq]) hk := explains.record rfl rfl rfl rfl

variable {σ : Type} (plat : Platform σ) {component : Component σ} (opCode cmdSeq : UInt32)

abbrev Explained (component : Component σ) : Prop := Explains component.outputs component.hkTelemetryPkt

/-- How ENABLE and DISABLE end. -/
theorem reported_explained (explained : Explained component) :
    Explained ((tlmWriteHousekeeping component).output (.cmdResponse opCode cmdSeq)) :=
  (((((explained.written _).written _).written _).written _).written _).answered _ _

theorem enableCmdHandler_explained (explained : Explained component) :
    Explained (enableCmdHandler plat opCode cmdSeq component) := by
  simp only [enableCmdHandler]
  refine reported_explained opCode cmdSeq ?_
  split
  next closed =>
    split
    next opened => exact explained.record rfl rfl rfl rfl
    next failed => exact explained.record rfl rfl rfl rfl
  next opened => exact explained.record rfl rfl rfl rfl

theorem disableCmdHandler_explained (explained : Explained component) :
    Explained (disableCmdHandler plat opCode cmdSeq component) := by
  simp only [disableCmdHandler]
  refine reported_explained opCode cmdSeq ?_
  split
  next opened =>
    split
    next closed => exact explained.record rfl rfl rfl rfl
    next failed => exact explained.record rfl rfl rfl rfl
  next closed => exact explained.record rfl rfl rfl rfl

/-- The count moves before the channels are written, the message comes after them. -/
theorem requestHousekeepingCmdHandler_explained (explained : Explained component) :
    Explained (requestHousekeepingCmdHandler opCode cmdSeq component) := by
  simp only [requestHousekeepingCmdHandler]
  refine Explains.answered ?_ opCode cmdSeq
  split
  next enabled =>
    refine Explains.record ?_ rfl rfl rfl rfl
    exact (((((((explained.written _).written _).written _).written _).written _).written _).written _).written _
  next disabled => exact explained.record rfl rfl rfl rfl

theorem requestDataCmdHandler_explained (explained : Explained component) :
    Explained (requestDataCmdHandler plat opCode cmdSeq component) := by
  simp only [requestDataCmdHandler]
  refine Explains.answered (((((((Explains.written ?_ _).written _).written _).written _).written _).written _).written _) _ _
  split
  next enabled =>
    split
    next read => exact explained.record rfl rfl rfl rfl
    next failed => exact explained.record rfl rfl rfl rfl
  next disabled => exact explained.record rfl rfl rfl rfl

theorem updateDataHandler_explained (explained : Explained component) : Explained (updateDataHandler plat component) := by
  simp only [updateDataHandler]
  split
  next polled => exact explained.record rfl rfl rfl rfl
  next failed => exact ⟨explained.commandCount, explained.commandErrorCount, explained.deviceCount⟩

theorem dispatch_explained (component : Component σ) (invocation : Invocation) (explained : Explained component) :
    Explained (dispatch plat component invocation) := by
  match invocation with
  | .updateData => exact updateDataHandler_explained plat explained
  | .updateTlm => exact ((((((explained.written _).written _).written _).written _).written _).written _).written _
  | .command .noop opCode cmdSeq =>
    have counted : Explained ((component.modifyHk .countCommand).logTelem "NOOP command success!") :=
      explained.record rfl rfl rfl rfl
    exact ((counted.written _).written _).answered _ _
  | .command .resetCounters opCode cmdSeq =>
    have cleared : Explained ((component.modifyHk .resetCounters).logTelem "Reset Counters command successful!") := .cleared rfl
    exact ((((cleared.written _).written _).written _).written _).answered _ _
  | .command .enable opCode cmdSeq => exact enableCmdHandler_explained plat opCode cmdSeq explained
  | .command .disable opCode cmdSeq => exact disableCmdHandler_explained plat opCode cmdSeq explained
  | .command .requestHousekeeping opCode cmdSeq => exact requestHousekeepingCmdHandler_explained opCode cmdSeq explained
  | .command .requestData opCode cmdSeq => exact requestDataCmdHandler_explained plat opCode cmdSeq explained

/-- After any invocations the outputs explain the command counters and the success counter of the device. -/
theorem run_explained (uninitialized : DeviceData) (device : SpiInfo) (world : σ) (invocations : List Invocation) :
    Explained (Machine.run (dispatch plat) (construct plat uninitialized device world) invocations) := by
  have silent : Explained (construct plat uninitialized device world) := by
    simp only [construct]
    split <;> exact ⟨.zero, .zero, .zero⟩
  exact Machine.run_preserves (dispatch_explained plat) silent invocations

end Counts

end GenericFss.Proofs.FprimeLog
