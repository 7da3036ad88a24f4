import GenericFss.Library.Mirror
import GenericFss.Proofs.FprimeStep

/-! The telemetry channels of the F' component against the values they stand for. Every
handler writes the channels of what it changed, except the periodic poll, which leaves
the device counters and the sun data to be written later. -/

namespace GenericFss.Proofs.FprimeTelemetry
open GenericFss Device Fprime FprimeStep

inductive ChannelId where
  | commandCount
  | commandErrorCount
  | deviceCount
  | deviceErrorCount
  | deviceEnabled
  | alpha
  | beta
  | errorCode
deriving DecidableEq, Repr

variable {σ : Type} (plat : Platform σ)

namespace ChannelId

def ofChannel : Channel → ChannelId
  | .commandCount _ => commandCount
  | .commandErrorCount _ => commandErrorCount
  | .deviceCount _ => deviceCount
  | .deviceErrorCount _ => deviceErrorCount
  | .deviceEnabled _ => deviceEnabled
  | .alpha _ => alpha
  | .beta _ => beta
  | .errorCode _ => errorCode

/-- What the channel should read: the stored value, in the type of the channel. -/
def stored (component : Component σ) : ChannelId → Channel
  | commandCount => .commandCount component.hkTelemetryPkt.commandCount.toUInt32
  | commandErrorCount => .commandErrorCount component.hkTelemetryPkt.commandErrorCount.toUInt32
  | deviceCount => .deviceCount component.hkTelemetryPkt.deviceCount.toUInt32
  | deviceErrorCount => .deviceErrorCount component.hkTelemetryPkt.deviceErrorCount.toUInt32
  | deviceEnabled =>
    .deviceEnabled (if component.hkTelemetryPkt.deviceEnabled = GenericFss.deviceEnabled then .enabled else .disabled)
  | alpha => .alpha component.fssData.alpha
  | beta => .beta component.fssData.beta
  | errorCode => .errorCode component.fssData.errorCode

/-- The channels that the poll leaves behind. -/
def polled : ChannelId → Bool
  | commandCount | commandErrorCount | deviceEnabled => false
  | deviceCount | deviceErrorCount | alpha | beta | errorCode => true

end ChannelId

def writesTo (id : ChannelId) (outputs : List Output) : List Channel :=
  outputs.filterMap fun
    | .tlmWrite channel => if ChannelId.ofChannel channel = id then some channel else none
    | _ => none

def writes (id : ChannelId) (component : Component σ) : List Channel := writesTo id component.outputs

abbrev Reporting (id : ChannelId) : Component σ → Invocation → Component σ → Prop :=
  Mirror.Reporting id.stored (writes id) fun invocation => invocation = .updateData ∧ id.polled = true

section Steps
variable {plat} {component component' : Component σ} {invocation : Invocation}

theorem writes_after (id : ChannelId) (base : Component σ) (hk : HkTlm) (more : List Output) :
    writes id (after base hk more) = writes id base ++ writesTo id more :=
  List.filterMap_append

/-- A step that is not the poll writes the new value of a channel last, or does not touch it. -/
theorem Step.reporting (step : Step plat component invocation component') (id : ChannelId) :
    Reporting id component invocation component' := by
  cases step with
  | polled | pollFailed =>
    refine ⟨_, writes_after id _ _ _, Or.inr ⟨rfl, ?_⟩⟩
    cases id with
    | commandCount | commandErrorCount | deviceEnabled => exact Or.inl rfl
    | deviceCount | deviceErrorCount | alpha | beta | errorCode => exact Or.inr ⟨rfl, rfl⟩
  | reported =>
    refine ⟨_, writes_after id _ _ _, ?_⟩
    cases id with
    | deviceEnabled => exact Or.inr ⟨rfl, Or.inl rfl⟩
    | _ => exact Or.inl rfl
  | noop _ same =>
    refine ⟨_, writes_after id _ _ _, ?_⟩
    subst same
    cases id with
    | commandCount | deviceEnabled => exact Or.inl rfl
    | _ => exact Or.inr ⟨rfl, Or.inl rfl⟩
  | resetCounters _ same =>
    refine ⟨_, writes_after id _ _ _, ?_⟩
    subst same
    cases id with
    | commandCount | commandErrorCount | deviceCount | deviceErrorCount => exact Or.inl rfl
    | deviceEnabled | alpha | beta | errorCode => exact Or.inr ⟨rfl, Or.inl rfl⟩
  | enabled _ _ _ same | enableFailed _ _ _ same | enableRefused _ _ same | disabled _ _ _ same | disableFailed _ _ _ same
  | disableRefused _ _ same =>
    refine ⟨_, writes_after id _ _ _, ?_⟩
    cases id with
    | alpha | beta | errorCode => exact Or.inr ⟨rfl, Or.inl rfl⟩
    | _ => exact Or.inl rfl
  | housekeeping _ _ same =>
    refine ⟨_, writes_after id _ _ _, Or.inl ?_⟩
    cases id <;> rfl
  | housekeepingRefused =>
    refine ⟨_, writes_after id _ _ _, Or.inr ⟨rfl, Or.inl ?_⟩⟩
    rfl
  | dataRead _ _ _ same | dataFailed _ _ _ same | dataRefused _ _ same =>
    refine ⟨_, writes_after id _ _ _, ?_⟩
    subst same
    cases id with
    | deviceEnabled => exact Or.inr ⟨rfl, Or.inl rfl⟩
    | _ => exact Or.inl rfl

end Steps

theorem construct_writes (uninitialized : DeviceData) (device : SpiInfo) (world : σ) (id : ChannelId) :
    writes id (construct plat uninitialized device world) = [] := by
  simp only [construct]
  split <;> rfl

/-- The channels mirror the component: the last value written to a channel is the stored
one, or the channel has never been written and the value is still that of construction.
The channels of the device counters and the sun data may also be behind by a poll that
came after the last write. -/
theorem channels_mirror (uninitialized : DeviceData) (device : SpiInfo) (world : σ) (invocations : List Invocation)
    (id : ChannelId) :
    let start := construct plat uninitialized device world
    let now := Machine.run (dispatch plat) start invocations
    (writes id now).getLast? = some (id.stored now) ∨
      writes id now = [] ∧ id.stored now = id.stored start ∨
      id.polled = true ∧ ∃ before after, invocations = before ++ .updateData :: after ∧
        writes id now = writes id (Machine.run (dispatch plat) start before) := by
  intro start now
  have known := Mirror.known (fun component invocation => Step.reporting (dispatch_step plat component invocation) id)
    (construct_writes plat uninitialized device world id) invocations
  cases known with
  | told last => exact Or.inl last
  | untouched never initial => exact Or.inr (Or.inl ⟨never, initial⟩)
  | outdated before poll after split exempted quiet =>
    obtain ⟨rfl, polled⟩ := exempted
    exact Or.inr (Or.inr ⟨polled, before, after, split, quiet⟩)

end GenericFss.Proofs.FprimeTelemetry
