import GenericFss.Library.Machine
import GenericFss.Proofs.Requests
import GenericFss.Script

/-! Selecting and releasing the chip. The three calls of an exchange are chained, so
a failure skips the rest of the chain; a transfer that fails leaves its chip selected
until some later exchange releases it. -/

namespace GenericFss.Proofs.ChipSelect
open GenericFss Device Requests

/-- The chip is released before it is selected again and before the request returns. -/
def releasedNext : List Call → Bool
  | .unselectChip .. :: _ => true
  | [] | .selectChip .. :: _ | .requestDataReturned _ :: _ => false
  | _ :: rest => releasedNext rest

def released : List Call → Bool
  | [] => true
  | .selectChip _ status :: rest => (status ≠ spiSuccess || releasedNext rest) && released rest
  | _ :: rest => released rest

def TransfersSucceeded (calls : List Call) : Prop :=
  ∀ device sent received status, .transaction device sent received status ∈ calls → status = spiSuccess

theorem TransfersSucceeded.append {first rest : List Call} :
    TransfersSucceeded (first ++ rest) ↔ TransfersSucceeded first ∧ TransfersSucceeded rest := by
  simp only [TransfersSucceeded, List.mem_append, or_imp, forall_and]

section Language
variable {writeData : List UInt8} {calls rest : List Call} {response : Option (List UInt8)}

theorem Exchange.boundary (exchange : Exchange writeData calls response) : releasedNext (calls ++ rest) = false := by
  cases exchange <;> rfl

/-- Whatever follows an exchange does not release its chip in time, so only its own calls matter. -/
theorem Exchange.released_append (exchange : Exchange writeData calls response) (boundary : releasedNext rest = false) :
    released (calls ++ rest) = true ↔ TransfersSucceeded calls ∧ released rest = true := by
  cases exchange with
  | unselected failed => simp [released, TransfersSucceeded, failed]
  | unmoved failed =>
    apply iff_of_false
    · simp [released, releasedNext, boundary]
    · intro ⟨succeeded, _⟩
      exact failed (succeeded _ _ _ _ (List.mem_cons_of_mem _ List.mem_cons_self))
  | unreleased _ | done => simp [released, releasedNext, TransfersSucceeded]

theorem Request.released_append {status : Status} {response} (request : Request calls status response) :
    released (calls ++ rest) = true ↔ TransfersSucceeded calls ∧ released rest = true := by
  have marked (device : SpiInfo) (status : Status) (work : List Call) :
      TransfersSucceeded (.requestData device :: work ++ [.requestDataReturned status]) ↔ TransfersSucceeded work := by
    simp [TransfersSucceeded]
  cases request with
  | commandFailed command =>
    rw [marked, List.cons_append, List.cons_append, List.append_assoc]
    exact Exchange.released_append command rfl
  | readFailed command read | answered _ command read =>
    rw [marked, TransfersSucceeded.append, and_assoc, List.cons_append, List.cons_append, List.append_assoc, List.append_assoc]
    refine (Exchange.released_append command (Exchange.boundary read)).trans (and_congr_right ?_)
    intro _
    exact Exchange.released_append read rfl

end Language

variable {σ : Type} (plat : Platform σ)

def requests (bus : Bus σ) (contents : List DeviceData) : Bus σ :=
  Machine.run (fun bus data => (requestData plat data bus).2.2) bus contents

theorem requests_released (bus : Bus σ) (contents : List DeviceData) :
    ∃ calls, (requests plat bus contents).calls = bus.calls ++ calls ∧ (released calls = true ↔ TransfersSucceeded calls) := by
  induction contents generalizing bus with
  | nil => exact ⟨[], by simp [requests], by simp [released, TransfersSucceeded]⟩
  | cons data rest ih =>
    obtain ⟨first, _, log, request, _⟩ := requestData_request plat data bus
    obtain ⟨later, logs, law⟩ := ih (requestData plat data bus).2.2
    refine ⟨first ++ later, ?_, ?_⟩
    · rw [← List.append_assoc, ← log]
      exact logs
    · rw [Request.released_append request, TransfersSucceeded.append, law]

theorem released_iff (bus : Bus σ) (contents : List DeviceData) :
    released ((requests plat bus contents).calls.drop bus.calls.length) = true ↔
      TransfersSucceeded ((requests plat bus contents).calls.drop bus.calls.length) := by
  obtain ⟨calls, log, law⟩ := requests_released plat bus contents
  rwa [log, List.drop_left]

/-- The transfer of the command fails: the request returns with the chip selected. -/
theorem released_fails : ¬ released (requests scripted ⟨[.ok, .error], .zero, []⟩ [⟨0, 0, 0⟩]).calls = true := by
  decide

end GenericFss.Proofs.ChipSelect
