import GenericFss.Cfs

/-! The ground library's commanding of the cFS application. An uplink of the
command may be lost; a housekeeping request is not, and the packet it asks for
arrives. Delivered messages are recorded; no function of the library reads them. -/

namespace GenericFss.Ground
open Cfs

structure Session (σ : Type) where
  app : AppData σ
  hkTlm : HkTlm
  delivered : List Message

variable {σ : Type} (plat : Platform σ)

namespace Session
variable (session : Session σ)

/-- The ground holds a current housekeeping packet. -/
def start (app : AppData σ) : Session σ := ⟨app, app.hkTelemetryPkt, []⟩

def deliver (msg : Message) : Session σ :=
  { session with app := processCommandPacket plat session.app msg, delivered := session.delivered ++ [msg] }

/-- `tlm("… HK_TLM CMD_COUNT")`, an integer without a bound. -/
def cmdCount : Nat := session.hkTlm.commandCount.toNat

end Session

def reqHk : Message := ⟨reqHkMid, reqHkTlm, 8⟩

def cmd (lost : Bool) (command : Message) (session : Session σ) : Session σ :=
  if lost then session else session.deliver plat command

def getFssHk (session : Session σ) : Session σ :=
  let session := session.deliver plat reqHk
  match session.app.published.getLast? with
  | some (.housekeeping hk) => { session with hkTlm := hk }
  | _ => session

/-- The verdict of the final `check`, and the session it ends in. -/
def fssCmd (command : Message) (lost : Fin 3 → Bool) (session : Session σ) : Bool × Session σ :=
  let count := session.cmdCount + 1
  let count := if count = 256 then 0 else count
  let session := getFssHk plat (cmd plat (lost 0) command session)
  let session :=
    if session.cmdCount ≠ count then
      let session := getFssHk plat (cmd plat (lost 1) command session)
      if session.cmdCount ≠ count then
        getFssHk plat (cmd plat (lost 2) command session)
      else session
    else session
  (decide (session.cmdCount ≥ count), session)

/-- A command outside `fss_cmd` is sent only once. -/
def onlyUplink : Fin 3 := 0

end GenericFss.Ground
