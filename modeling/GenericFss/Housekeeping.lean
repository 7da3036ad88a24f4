import GenericFss.Device
import Mathlib.Tactic.Simps.Basic

/-! The housekeeping record that both applications keep. `GENERIC_FSS_Hk_tlm_t`
and `FSS_Hk_tlm_t` order the same five bytes differently; nothing reads the order. -/

namespace GenericFss

def deviceDisabled : UInt8 := 0
def deviceEnabled : UInt8 := 1

structure HkTlm where
  commandErrorCount : UInt8
  commandCount : UInt8
  deviceErrorCount : UInt8
  deviceCount : UInt8
  deviceEnabled : UInt8
deriving DecidableEq, Repr

namespace HkTlm
variable (hk : HkTlm)

def zero : HkTlm := ⟨0, 0, 0, 0, 0⟩

@[simps] def countCommand : HkTlm := { hk with commandCount := hk.commandCount + 1 }

@[simps] def countCommandError : HkTlm := { hk with commandErrorCount := hk.commandErrorCount + 1 }

@[simps] def countDevice : HkTlm := { hk with deviceCount := hk.deviceCount + 1 }

@[simps] def countDeviceError : HkTlm := { hk with deviceErrorCount := hk.deviceErrorCount + 1 }

@[simps] def setEnabled (enabled : UInt8) : HkTlm := { hk with deviceEnabled := enabled }

@[simps] def resetCounters : HkTlm :=
  { hk with commandErrorCount := 0, commandCount := 0, deviceErrorCount := 0, deviceCount := 0 }

end HkTlm

theorem deviceEnabled_ne : deviceEnabled ≠ deviceDisabled := by decide

end GenericFss
