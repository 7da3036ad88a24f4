import GenericFss.Simulator

/-! The flight software on one end of the SPI bus and the simulator on the other.
Every call succeeds, and a transfer hands its bytes to the simulator and fills the
receive buffer from it. Whatever else reaches the simulator arrives between transfers. -/

namespace GenericFss.ClosedLoop
open Simulator

structure Loop where
  slave : SpiSlaveConnection
  transferred : Nat
deriving DecidableEq, Repr

/-- What the simulator is built from and what the flight software is built with;
`arrivals n` reaches the simulator just before transfer `n` of the flight software. -/
structure Setup (ρ : Type) where
  sim : Simulation ρ
  sizeofNoArgsCmd : UInt16
  locals : Loop → Locals
  arrivals : Nat → List Input

variable {ρ : Type} (setup : Setup ρ)

def deliver (inputs : List Input) (slave : SpiSlaveConnection) : SpiSlaveConnection :=
  inputs.foldl (slaveStep setup.sim) slave

def arrived (world : Loop) : SpiSlaveConnection := deliver setup (setup.arrivals world.transferred) world.slave

theorem length_spiRead (rbuf : List UInt8) (slave : SpiSlaveConnection) : (spiRead rbuf slave).length = rbuf.length := by
  simp only [spiRead]
  split <;> simp <;> omega

/-- `spi_write` and then `spi_read`, with one length. -/
def exchange {length : Nat} (writeData readData : Vector UInt8 length) (world : Loop) : Vector UInt8 length × Loop :=
  let slave := spiWrite setup.sim writeData.toList (arrived setup world)
  let received := spiRead readData.toList slave
  (⟨received.toArray, by simp [received, length_spiRead]⟩, ⟨slave, world.transferred + 1⟩)

def platform : Platform Loop where
  byteOrder := setup.sim.byteOrder
  sizeofNoArgsCmd := setup.sizeofNoArgsCmd
  locals := setup.locals
  initDev device world := (spiSuccess, device, world)
  closeDevice device world := (spiSuccess, device, world)
  selectChip device world := (spiSuccess, device, world)
  transaction device writeData readData _ _ _ world :=
    (spiSuccess, (exchange setup writeData readData world).1, device, (exchange setup writeData readData world).2)
  unselectChip device world := (spiSuccess, device, world)

end GenericFss.ClosedLoop
