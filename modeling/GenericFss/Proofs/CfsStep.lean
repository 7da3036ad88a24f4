import GenericFss.Proofs.Requests
import GenericFss.Cfs

/-! Everything one message can do to the cFS application, said once. A message is
first read as a directive; the step relation then lists the guards and the effect
of each branch. Invariants are case analyses of this relation. -/

namespace GenericFss.Proofs.CfsStep
open GenericFss Device Cfs

/-- What a message asks for. Everything the application cannot accept in any
state, a wrongly sized command included, is `rejected`. -/
inductive Directive where
  | noop
  | resetCounters
  | enable
  | disable
  | housekeeping
  | data
  | rejected
deriving DecidableEq, Repr

variable {σ : Type} (plat : Platform σ)

def directive (msg : Message) : Directive :=
  if msg.msgId = cmdMid then
    if msg.size = plat.sizeofNoArgsCmd.toNat then
      if msg.fcnCode = noopCc then .noop
      else if msg.fcnCode = resetCountersCc then .resetCounters
      else if msg.fcnCode = enableCc then .enable
      else if msg.fcnCode = disableCc then .disable
      else .rejected
    else .rejected
  else if msg.msgId = reqHkMid then
    if msg.fcnCode = reqHkTlm then .housekeeping
    else if msg.fcnCode = reqDataTlm then .data
    else .rejected
  else .rejected

abbrev opening (app : AppData σ) : Status × Bus σ :=
  spiInitDev plat { app.spi with device := app.spi.device.configure }

abbrev closing (app : AppData σ) : Status × Bus σ := spiCloseDevice plat app.spi

abbrev request (app : AppData σ) : Status × DeviceData × Bus σ := requestData plat app.devicePkt app.spi

/-- The effect of one directive. Only event messages are left open. -/
inductive Step (app : AppData σ) : Directive → AppData σ → Prop where
  | noop (events : List Event) :
      Step app .noop { app with hkTelemetryPkt := app.hkTelemetryPkt.countCommand, events }
  | resetCounters (events : List Event) :
      Step app .resetCounters { app with hkTelemetryPkt := app.hkTelemetryPkt.resetCounters, events }
  | enabled (events : List Event) : app.hkTelemetryPkt.deviceEnabled = deviceDisabled →
      (opening plat app).1 = osSuccess →
      Step app .enable { app with
        hkTelemetryPkt := app.hkTelemetryPkt.countCommand.countDevice.setEnabled deviceEnabled
        spi := (opening plat app).2, events }
  | enableFailed (events : List Event) : app.hkTelemetryPkt.deviceEnabled = deviceDisabled →
      (opening plat app).1 ≠ osSuccess →
      Step app .enable { app with
        hkTelemetryPkt := app.hkTelemetryPkt.countCommand.countDeviceError
        spi := (opening plat app).2, events }
  | enableRefused (events : List Event) : app.hkTelemetryPkt.deviceEnabled ≠ deviceDisabled →
      Step app .enable { app with hkTelemetryPkt := app.hkTelemetryPkt.countCommandError, events }
  | disabled (events : List Event) : app.hkTelemetryPkt.deviceEnabled = deviceEnabled →
      (closing plat app).1 = osSuccess →
      Step app .disable { app with
        hkTelemetryPkt := app.hkTelemetryPkt.countCommand.countDevice.setEnabled deviceDisabled
        spi := (closing plat app).2, events }
  | disableFailed (events : List Event) : app.hkTelemetryPkt.deviceEnabled = deviceEnabled →
      (closing plat app).1 ≠ osSuccess →
      Step app .disable { app with
        hkTelemetryPkt := app.hkTelemetryPkt.countCommand.countDeviceError
        spi := (closing plat app).2, events }
  | disableRefused (events : List Event) : app.hkTelemetryPkt.deviceEnabled ≠ deviceEnabled →
      Step app .disable { app with hkTelemetryPkt := app.hkTelemetryPkt.countCommandError, events }
  | housekeeping :
      Step app .housekeeping { app with published := app.published ++ [.housekeeping app.hkTelemetryPkt] }
  | dataSent : app.hkTelemetryPkt.deviceEnabled = deviceEnabled →
      (request plat app).1 = osSuccess →
      Step app .data { app with
        hkTelemetryPkt := app.hkTelemetryPkt.countDevice
        devicePkt := (request plat app).2.1
        spi := (request plat app).2.2
        published := app.published ++ [.device (request plat app).2.1] }
  | dataFailed (events : List Event) : app.hkTelemetryPkt.deviceEnabled = deviceEnabled →
      (request plat app).1 ≠ osSuccess →
      Step app .data { app with
        hkTelemetryPkt := app.hkTelemetryPkt.countDeviceError
        devicePkt := (request plat app).2.1
        spi := (request plat app).2.2, events }
  | dataIgnored : app.hkTelemetryPkt.deviceEnabled ≠ deviceEnabled →
      Step app .data app
  | rejected (events : List Event) :
      Step app .rejected { app with hkTelemetryPkt := app.hkTelemetryPkt.countCommandError, events }

theorem Step.deterministic {app app' app'' : AppData σ} {asked : Directive} (first : Step plat app asked app')
    (second : Step plat app asked app'') : app'' = { app' with events := app''.events } := by
  cases first <;> cases second <;> first | rfl | contradiction

section Functions
variable (app : AppData σ) (msg : Message)

theorem whenVerified_sized (action : AppData σ → AppData σ) (sized : msg.size = plat.sizeofNoArgsCmd.toNat) :
    whenVerified plat msg action app = action app := by
  simp [whenVerified, verifyCmdLength, sized]

theorem whenVerified_missized (action : AppData σ → AppData σ) (missized : msg.size ≠ plat.sizeofNoArgsCmd.toNat) :
    ∃ events, whenVerified plat msg action app =
      { app with hkTelemetryPkt := app.hkTelemetryPkt.countCommandError, events } := by
  simp only [whenVerified, verifyCmdLength, if_neg missized.symm, if_neg Requests.osError_ne]
  exact ⟨_, rfl⟩

theorem enable_step {eventId : Nat} {text : String} :
    Step plat app .enable ((enable plat app).sendEvent eventId .information text) := by
  simp only [enable]
  split
  next closed =>
    split
    next opened => exact .enabled _ closed opened
    next failed => exact .enableFailed _ closed failed
  next opened => exact .enableRefused _ opened

theorem disable_step {eventId : Nat} {text : String} :
    Step plat app .disable ((disable plat app).sendEvent eventId .information text) := by
  simp only [disable]
  split
  next opened =>
    split
    next closed => exact .disabled _ opened closed
    next failed => exact .disableFailed _ opened failed
  next closed => exact .disableRefused _ closed

theorem reportDeviceTelemetry_step : Step plat app .data (reportDeviceTelemetry plat app) := by
  simp only [reportDeviceTelemetry]
  split
  next enabled =>
    split
    next sent => exact .dataSent enabled sent
    next failed => exact .dataFailed _ enabled failed
  next disabled => exact .dataIgnored disabled

private theorem processGroundCommand_step (command : msg.msgId = cmdMid) :
    Step plat app (directive plat msg) (processGroundCommand plat msg app) := by
  by_cases sized : msg.size = plat.sizeofNoArgsCmd.toNat
  · simp only [directive, if_pos command, if_pos sized, processGroundCommand, whenVerified_sized plat app msg _ sized]
    split
    next code => exact .noop _
    next notNoop =>
      split
      next code => exact .resetCounters _
      next notReset =>
        split
        next code => exact enable_step plat app
        next notEnable =>
          split
          next code => exact disable_step plat app
          next notDisable => exact .rejected _
  · have missized (action : AppData σ → AppData σ) : Step plat app .rejected (whenVerified plat msg action app) := by
      obtain ⟨events, same⟩ := whenVerified_missized plat app msg action sized
      exact same ▸ .rejected _
    simp only [directive, if_pos command, if_neg sized, processGroundCommand]
    split
    · exact missized _
    · split
      · exact missized _
      · split
        · exact missized _
        · split
          · exact missized _
          · exact .rejected _

private theorem processTelemetryRequest_step (request : msg.msgId = reqHkMid) :
    Step plat app (directive plat msg) (processTelemetryRequest plat msg app) := by
  have other : msg.msgId ≠ cmdMid := by
    rw [request]
    decide
  simp only [directive, if_neg other, if_pos request, processTelemetryRequest]
  split
  next code => exact .housekeeping
  next notHk =>
    split
    next code => exact reportDeviceTelemetry_step plat app
    next notData => exact .rejected _

/-- Every message takes the step of its directive. -/
theorem processCommandPacket_step : Step plat app (directive plat msg) (processCommandPacket plat app msg) := by
  simp only [processCommandPacket]
  split
  next command => exact processGroundCommand_step plat app msg command
  next notCommand =>
    split
    next request => exact processTelemetryRequest_step plat app msg request
    next notRequest =>
      simp only [directive, if_neg notCommand, if_neg notRequest]
      exact .rejected _

end Functions

end GenericFss.Proofs.CfsStep
