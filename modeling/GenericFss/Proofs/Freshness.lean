import GenericFss.Library.Machine
import GenericFss.Proofs.CfsStep
import GenericFss.Proofs.FprimeStep
import GenericFss.Script

/-! Sun data against the bytes it was read from. A request that got sixteen bytes is
counted and sent on as a success whatever the bytes are, so the output is fresh
exactly as far as the device answers with valid frames. -/

namespace GenericFss.Proofs.Freshness
open GenericFss Device Cfs Fprime CfsStep FprimeStep Requests

/-- What a data request may send out and count for the calls it made: the data of
the valid frame that answered it, and nothing but an error otherwise. -/
structure Honest (order : ByteOrder) (calls : List Call) (sent : List DeviceData) (before after : HkTlm) : Prop where
  validated : sent ≠ [] ∨ after.deviceCount ≠ before.deviceCount →
    ∃ frame, Answers calls frame ∧ ValidFrame frame ∧ sent = [carried order frame] ∧
      after.deviceCount = before.deviceCount + 1
  rejected : (∀ frame, Answers calls frame → ¬ ValidFrame frame) →
    sent = [] ∧ after.deviceErrorCount = before.deviceErrorCount + 1

def AnsweredValid (calls : List Call) : Prop :=
  BusSucceeded calls → ∃ frame, Answers calls frame ∧ ValidFrame frame

/-- The two outcomes that both applications make of a request. -/
inductive Reported (order : ByteOrder) (data : DeviceData) (status : Status)
    (response : Option (Vector UInt8 deviceDataSize)) (hk : HkTlm) : List DeviceData → HkTlm → Prop where
  | sent : status = osSuccess → Reported order data status response hk [store order data response] hk.countDevice
  | failed : status ≠ osSuccess → Reported order data status response hk [] hk.countDeviceError

theorem Reported.honest_iff {order : ByteOrder} {data : DeviceData} {status : Status} {response hk sent hk'}
    {calls : List Call} (reported : Reported order data status response hk sent hk')
    (request : Request calls status response) : Honest order calls sent hk hk' ↔ AnsweredValid calls := by
  cases reported with
  | sent succeeded =>
    rcases request.status_cases with ⟨_, frame, rfl⟩ | ⟨failed, _⟩
    · constructor
      · intro honest _
        obtain ⟨frame, answers, valid, _⟩ := honest.validated (Or.inl nofun)
        exact ⟨frame, answers, valid⟩
      · intro answered
        obtain ⟨other, answers, valid⟩ := answered (request.busSucceeded_iff.mpr ⟨frame, rfl⟩)
        -- A request is answered once, so the valid frame is the one that was stored.
        obtain rfl := request.answers_iff.mp answers
        constructor
        · intro _
          exact ⟨other, answers, valid, by simp [store, valid], rfl⟩
        · intro none
          exact absurd valid (none other answers)
    · exact absurd (failed.symm.trans succeeded) osError_ne
  | failed failed =>
    rcases request.status_cases with ⟨succeeded, _⟩ | ⟨_, rfl⟩
    · exact absurd succeeded failed
    · constructor
      · intro _ succeeded
        obtain ⟨frame, none⟩ := request.busSucceeded_iff.mp succeeded
        cases none
      · intro _
        exact ⟨by simp, fun _ => ⟨rfl, rfl⟩⟩

def Fresh (order : ByteOrder) (poll : Prop) (calls : List Call) (before after : List DeviceData) (hk hk' : HkTlm) : Prop :=
  ∃ sent, after = before ++ sent ∧ (¬ poll → sent = []) ∧ (poll → Honest order calls sent hk hk')

theorem fresh_iff_of {order : ByteOrder} {poll : Prop} {calls : List Call} {before after : List DeviceData} {hk hk' : HkTlm}
    (silent : ¬ poll → after = before)
    (requested : poll → ∃ data status response sent, after = before ++ sent ∧ Request calls status response ∧
      Reported order data status response hk sent hk') :
    Fresh order poll calls before after hk hk' ↔ (poll → AnsweredValid calls) := by
  by_cases polled : poll
  · obtain ⟨data, status, response, sent, grown, request, reported⟩ := requested polled
    rw [forall_prop_of_true polled, ← reported.honest_iff request]
    constructor
    · intro ⟨others, same, _, honest⟩
      obtain rfl := List.append_cancel_left (same.symm.trans grown)
      exact honest polled
    · intro honest
      refine ⟨sent, grown, ?_, fun _ => honest⟩
      intro notPolled
      exact absurd polled notPolled
  · constructor
    · intro _ now
      exact absurd now polled
    · intro _
      refine ⟨[], by simp [silent polled], fun _ => rfl, ?_⟩
      intro now
      exact absurd now polled

variable {σ : Type} (plat : Platform σ)

def CfsPoll (app : AppData σ) (msg : Message) : Prop :=
  directive plat msg = .data ∧ app.hkTelemetryPkt.deviceEnabled = deviceEnabled

def CfsFresh (before : AppData σ) (msg : Message) (after : AppData σ) : Prop :=
  Fresh plat.byteOrder (CfsPoll plat before msg) (after.spi.calls.drop before.spi.calls.length) (devicePackets before)
    (devicePackets after) before.hkTelemetryPkt after.hkTelemetryPkt

def CfsAnswered (before : AppData σ) (msg : Message) (after : AppData σ) : Prop :=
  CfsPoll plat before msg → AnsweredValid (after.spi.calls.drop before.spi.calls.length)

theorem cfsFresh_iff (app : AppData σ) (msg : Message) :
    CfsFresh plat app msg (processCommandPacket plat app msg) ↔
      CfsAnswered plat app msg (processCommandPacket plat app msg) := by
  obtain ⟨calls, response, log, request, stored⟩ := requestData_request plat app.devicePkt app.spi
  have step := processCommandPacket_step plat app msg
  generalize processCommandPacket plat app msg = app' at step ⊢
  simp only [CfsFresh, CfsAnswered, CfsPoll]
  generalize directive plat msg = asked at step ⊢
  apply fresh_iff_of
  · intro notPoll
    cases step with
    | dataSent enabled => exact absurd ⟨rfl, enabled⟩ notPoll
    | housekeeping => simp [devicePackets]
    | _ => rfl
  · rintro ⟨rfl, enabled⟩
    cases step with
    | dataIgnored disabled => exact absurd enabled disabled
    | dataSent _ succeeded =>
      refine ⟨app.devicePkt, _, response, _, ?_, by rwa [log, List.drop_left], .sent succeeded⟩
      simp [devicePackets, CfsStep.request, stored]
    | dataFailed _ _ failed =>
      exact ⟨app.devicePkt, _, response, _, (List.append_nil _).symm, by rwa [log, List.drop_left], .failed failed⟩

def FprimeFresh (before : Component σ) (invocation : Invocation) (after : Component σ) : Prop :=
  Fresh plat.byteOrder (invocation = .updateData) (after.fssSpi.calls.drop before.fssSpi.calls.length)
    (fssOutputs before) (fssOutputs after) before.hkTelemetryPkt after.hkTelemetryPkt

def FprimeAnswered (before : Component σ) (invocation : Invocation) (after : Component σ) : Prop :=
  invocation = .updateData → AnsweredValid (after.fssSpi.calls.drop before.fssSpi.calls.length)

theorem fprimeFresh_iff (component : Component σ) (invocation : Invocation) :
    FprimeFresh plat component invocation (dispatch plat component invocation) ↔
      FprimeAnswered component invocation (dispatch plat component invocation) := by
  obtain ⟨calls, response, log, request, stored⟩ := requestData_request plat component.fssData component.fssSpi
  have step := dispatch_step plat component invocation
  generalize dispatch plat component invocation = component' at step ⊢
  simp only [FprimeFresh, FprimeAnswered]
  apply fresh_iff_of
  · intro notPoll
    exact step.silent plat notPoll
  · rintro rfl
    cases step with
    | polled succeeded =>
      refine ⟨component.fssData, _, response, _, ?_, by rwa [log, List.drop_left], .sent succeeded⟩
      rw [fssOutputs_after, FprimeStep.request, stored]
      rfl
    | pollFailed failed =>
      exact ⟨component.fssData, _, response, _, fssOutputs_after _ _, by rwa [log, List.drop_left], .failed failed⟩

/-- Both applications: the sun data of a run is fresh exactly if every data request
of the run whose bus calls all succeeded was answered with a valid frame. -/
theorem fresh_iff (app : AppData σ) (msgs : List Message) (component : Component σ) (invocations : List Invocation) :
    (Machine.Always (processCommandPacket plat) (CfsFresh plat) app msgs ↔
        Machine.Always (processCommandPacket plat) (CfsAnswered plat) app msgs) ∧
      (Machine.Always (dispatch plat) (FprimeFresh plat) component invocations ↔
        Machine.Always (dispatch plat) FprimeAnswered component invocations) :=
  have cfs := Machine.always_congr' (cfsFresh_iff plat) app msgs
  have fprime := Machine.always_congr' (fprimeFresh_iff plat) component invocations
  ⟨cfs, fprime⟩

section Stale

instance (calls : List Call) : Decidable (BusSucceeded calls) := List.decidableBAll _ _

theorem not_answeredValid {calls : List Call} (bytes : List UInt8) (succeeded : BusSucceeded calls)
    (received : (calls.filterMap Call.received)[1]? = some bytes) (unsynced : bytes.take 4 ≠ [0xDE, 0xAD, 0xBE, 0xEF]) :
    ¬ AnsweredValid calls := by
  intro answered
  obtain ⟨frame, answers, valid⟩ := answered succeeded
  exact answers.not_valid received unsynced valid

/-- Every call succeeds and the device sends sixteen zeros: both applications count a
success and send out sun data that no valid frame carried. -/
theorem fresh_fails :
    ¬ Machine.Always (processCommandPacket scripted) (CfsFresh scripted) (appInit .success (.zero [])).2
        [⟨cmdMid, enableCc, 8⟩, ⟨reqHkMid, reqDataTlm, 8⟩] ∧
      ¬ Machine.Always (dispatch scripted) (FprimeFresh scripted) (construct scripted ⟨0, 0, 0⟩ .zero []) [.updateData] := by
  constructor
  · intro ⟨_, fresh, _⟩
    have answered := (cfsFresh_iff scripted _ _).mp fresh ⟨by decide, by decide⟩
    exact not_answeredValid (.replicate 16 0) (by decide) (by decide) (by decide) answered
  · intro ⟨fresh, _⟩
    have answered := (fprimeFresh_iff scripted _ _).mp fresh rfl
    exact not_answeredValid (.replicate 16 0) (by decide) (by decide) (by decide) answered

end Stale

end GenericFss.Proofs.Freshness
