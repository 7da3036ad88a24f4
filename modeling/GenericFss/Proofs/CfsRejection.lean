import GenericFss.Library.Machine
import GenericFss.Proofs.CfsStep

/-! Rejected messages do not interfere. Which messages are rejected depends on the
state reached so far, so two runs are compared: one with the rejected messages and
one from which they have been deleted. -/

namespace GenericFss.Proofs.CfsRejection
open GenericFss Device Cfs CfsStep

variable {σ : Type} (plat : Platform σ)

/-- Unknown MID, unknown code, wrong length, ENABLE unless disabled, DISABLE unless enabled. -/
def rejects (app : AppData σ) (msg : Message) : Bool :=
  match directive plat msg with
  | .rejected => true
  | .enable => app.hkTelemetryPkt.deviceEnabled ≠ deviceDisabled
  | .disable => app.hkTelemetryPkt.deviceEnabled ≠ deviceEnabled
  | _ => false

def concealHk (hk : HkTlm) : HkTlm := { hk with commandErrorCount := 0 }

def conceal : Packet → Packet
  | .housekeeping hk => .housekeeping (concealHk hk)
  | .device data => .device data

/-- Equal but for CommandErrorCount, in the record and in published copies of it,
and for what goes to the event log. -/
structure Alike (app image : AppData σ) : Prop where
  record : concealHk app.hkTelemetryPkt = concealHk image.hkTelemetryPkt
  devicePkt : app.devicePkt = image.devicePkt
  spi : app.spi = image.spi
  published : app.published.map conceal = image.published.map conceal

section Steps
variable {plat} {app image app' image' : AppData σ} {asked : Directive}

theorem Alike.refl (app : AppData σ) : Alike app app := ⟨rfl, rfl, rfl, rfl⟩

theorem Alike.flag (alike : Alike app image) :
    app.hkTelemetryPkt.deviceEnabled = image.hkTelemetryPkt.deviceEnabled := by
  have same := congrArg HkTlm.deviceEnabled alike.record
  exact same

theorem Alike.modify (alike : Alike app image) (change : HkTlm → HkTlm)
    (blind : ∀ hk, concealHk (change hk) = concealHk (change (concealHk hk))) :
    concealHk (change app.hkTelemetryPkt) = concealHk (change image.hkTelemetryPkt) := by
  rw [blind, alike.record, ← blind]

theorem Step.follow (step : Step plat app asked app') (alike : Alike app image) :
    ∃ image', Step plat image asked image' ∧ Alike app' image' := by
  have flag := alike.flag
  have opened : opening plat app = opening plat image := by rw [opening, alike.spi]
  have closed : closing plat app = closing plat image := by rw [closing, alike.spi]
  have answered : request plat app = request plat image := by rw [request, alike.spi, alike.devicePkt]
  cases step with
  | noop => exact ⟨_, .noop [], alike.modify .countCommand fun _ => rfl, alike.devicePkt, alike.spi, alike.published⟩
  | resetCounters =>
    exact ⟨_, .resetCounters [], alike.modify .resetCounters fun _ => rfl, alike.devicePkt, alike.spi,
      alike.published⟩
  | enabled _ free succeeded =>
    exact ⟨_, .enabled [] (flag ▸ free) (opened ▸ succeeded),
      alike.modify (·.countCommand.countDevice.setEnabled deviceEnabled) fun _ => rfl, alike.devicePkt,
      congrArg Prod.snd opened, alike.published⟩
  | enableFailed _ free failed =>
    exact ⟨_, .enableFailed [] (flag ▸ free) (opened ▸ failed),
      alike.modify (·.countCommand.countDeviceError) fun _ => rfl, alike.devicePkt, congrArg Prod.snd opened,
      alike.published⟩
  | enableRefused _ busy =>
    exact ⟨_, .enableRefused [] (flag ▸ busy), alike.modify .countCommandError fun _ => rfl,
      alike.devicePkt, alike.spi, alike.published⟩
  | disabled _ busy succeeded =>
    exact ⟨_, .disabled [] (flag ▸ busy) (closed ▸ succeeded),
      alike.modify (·.countCommand.countDevice.setEnabled deviceDisabled) fun _ => rfl, alike.devicePkt,
      congrArg Prod.snd closed, alike.published⟩
  | disableFailed _ busy failed =>
    exact ⟨_, .disableFailed [] (flag ▸ busy) (closed ▸ failed),
      alike.modify (·.countCommand.countDeviceError) fun _ => rfl, alike.devicePkt, congrArg Prod.snd closed,
      alike.published⟩
  | disableRefused _ free =>
    exact ⟨_, .disableRefused [] (flag ▸ free), alike.modify .countCommandError fun _ => rfl,
      alike.devicePkt, alike.spi, alike.published⟩
  | housekeeping =>
    exact ⟨_, .housekeeping, alike.record, alike.devicePkt, alike.spi,
      by simp [conceal, alike.record, alike.published]⟩
  | dataSent busy succeeded =>
    exact ⟨_, .dataSent (flag ▸ busy) (answered ▸ succeeded), alike.modify .countDevice fun _ => rfl,
      congrArg (·.2.1) answered, congrArg (·.2.2) answered, by simp [answered, alike.published]⟩
  | dataFailed _ busy failed =>
    exact ⟨_, .dataFailed [] (flag ▸ busy) (answered ▸ failed), alike.modify .countDeviceError fun _ => rfl,
      congrArg (·.2.1) answered, congrArg (·.2.2) answered, alike.published⟩
  | dataIgnored free => exact ⟨_, .dataIgnored (flag ▸ free), alike⟩
  | rejected =>
    exact ⟨_, .rejected [], alike.modify .countCommandError fun _ => rfl, alike.devicePkt, alike.spi,
      alike.published⟩

end Steps

theorem processCommandPacket_alike {app image : AppData σ} (msg : Message) (alike : Alike app image) :
    Alike (processCommandPacket plat app msg) (processCommandPacket plat image msg) := by
  obtain ⟨image', step, after⟩ := Step.follow (processCommandPacket_step plat app msg) alike
  rw [step.deterministic plat (processCommandPacket_step plat image msg)]
  exact ⟨after.record, after.devicePkt, after.spi, after.published⟩

theorem rejected_invisible {app image : AppData σ} (msg : Message) (alike : Alike app image)
    (rejected : rejects plat app msg = true) : Alike (processCommandPacket plat app msg) image := by
  have step := processCommandPacket_step plat app msg
  generalize processCommandPacket plat app msg = app' at step ⊢
  simp only [rejects] at rejected
  generalize directive plat msg = asked at step rejected
  cases step with
  | enableRefused | disableRefused | rejected => exact ⟨alike.record, alike.devicePkt, alike.spi, alike.published⟩
  | enabled _ free | enableFailed _ free => simp [free] at rejected
  | disabled _ busy | disableFailed _ busy => simp [busy] at rejected
  | noop | resetCounters | housekeeping | dataSent | dataFailed | dataIgnored => exact absurd rejected Bool.false_ne_true

section Packets
variable {app image : AppData σ}

private theorem devicePackets_conceal (app : AppData σ) :
    devicePackets app = (app.published.map conceal).filterMap fun
      | .housekeeping _ => none
      | .device data => some data := by
  rw [devicePackets, List.filterMap_map]
  congr 1
  funext packet
  cases packet <;> rfl

private theorem housekeepingPackets_conceal (app : AppData σ) :
    (housekeepingPackets app).map concealHk = (app.published.map conceal).filterMap fun
      | .housekeeping hk => some hk
      | .device _ => none := by
  rw [housekeepingPackets, List.filterMap_map, List.map_filterMap]
  congr 1
  funext packet
  cases packet <;> rfl

theorem Alike.devicePackets_eq (alike : Alike app image) : devicePackets app = devicePackets image := by
  rw [devicePackets_conceal, devicePackets_conceal, alike.published]

theorem Alike.housekeepingPackets_eq (alike : Alike app image) :
    (housekeepingPackets app).map concealHk = (housekeepingPackets image).map concealHk := by
  rw [housekeepingPackets_conceal, housekeepingPackets_conceal, alike.published]

end Packets

/-- Noninterference: a run without the rejected messages makes the same calls and
publishes the same data, and its housekeeping differs in CommandErrorCount only. -/
theorem rejected_noninterference (start : AppData σ) (msgs : List Message) :
    let full := Machine.run (processCommandPacket plat) start msgs
    let purged := Machine.run (processCommandPacket plat) start
      (Machine.purge (processCommandPacket plat) (rejects plat) start msgs)
    full.spi.calls = purged.spi.calls ∧
      devicePackets full = devicePackets purged ∧
      full.hkTelemetryPkt.deviceEnabled = purged.hkTelemetryPkt.deviceEnabled ∧
      full.hkTelemetryPkt.commandCount = purged.hkTelemetryPkt.commandCount ∧
      full.hkTelemetryPkt.deviceCount = purged.hkTelemetryPkt.deviceCount ∧
      full.hkTelemetryPkt.deviceErrorCount = purged.hkTelemetryPkt.deviceErrorCount ∧
      full.devicePkt = purged.devicePkt ∧
      (housekeepingPackets full).map concealHk = (housekeepingPackets purged).map concealHk := by
  intro full purged
  have alike : Alike full purged :=
    Machine.purge_related
      (fun _ _ msg alike _ => processCommandPacket_alike plat msg alike)
      (fun _ _ msg alike rejected => rejected_invisible plat msg alike rejected)
      (.refl start) msgs
  have record := alike.record
  simp only [concealHk, HkTlm.mk.injEq] at record
  obtain ⟨_, commandCount, deviceErrorCount, deviceCount, flag⟩ := record
  exact ⟨congrArg Bus.calls alike.spi, alike.devicePackets_eq, flag, commandCount, deviceCount, deviceErrorCount,
    alike.devicePkt, alike.housekeepingPackets_eq⟩

end GenericFss.Proofs.CfsRejection
