/-! The parts of the flight software's world that this repository only calls: the
hwlib SPI functions, the byte order it is compiled for, and one size that cFE
fixes. They are parameters. Everything proved holds for every platform. -/

namespace GenericFss

abbrev Status := Int32

def osSuccess : Status := 0
def osError : Status := -1
def spiSuccess : Status := 0

inductive ByteOrder where
  | littleEndian
  | bigEndian
deriving DecidableEq, Repr

/-- The fields of `spi_info_t` that the flight software sets. A null string is `none`. -/
structure SpiInfo where
  deviceString : Option String
  handle : Int32
  baudrate : UInt32
  spiMode : UInt8
  bitsPerWord : UInt8
  bus : UInt8
  cs : UInt8
deriving DecidableEq, Repr

def SpiInfo.zero : SpiInfo := ⟨none, 0, 0, 0, 0, 0, 0⟩

def cfgString : String := "spi_1"
def cfgHandle : Int32 := 1
def cfgDelay : UInt32 := 32
def cfgBaud : UInt32 := 1000000
def cfgSpiMode : UInt8 := 1
def cfgBitsPerWord : UInt8 := 8
def cfgBus : UInt8 := 0
def cfgCs : UInt8 := 1

/-- The seven assignments that precede every `spi_init_dev`. -/
def SpiInfo.configure (device : SpiInfo) : SpiInfo :=
  { device with
    deviceString := some cfgString
    handle := cfgHandle
    baudrate := cfgBaud
    spiMode := cfgSpiMode
    bitsPerWord := cfgBitsPerWord
    bus := cfgBus
    cs := cfgCs }

abbrev deviceCmdSize : Nat := 7
abbrev deviceDataSize : Nat := 16

/-- What the driver's local buffers hold when it is called: it does not initialize them. -/
structure Locals where
  commandWriteData : Vector UInt8 deviceCmdSize
  commandReadData : Vector UInt8 deviceCmdSize
  writeData : Vector UInt8 deviceDataSize
  readData : Vector UInt8 deviceDataSize

/-- A hwlib function may change the `spi_info_t` it is given a pointer to. `σ` is
whatever decides its answers: a script, a real bus, the simulator. -/
structure Platform (σ : Type) where
  byteOrder : ByteOrder
  sizeofNoArgsCmd : UInt16
  locals : σ → Locals
  initDev : SpiInfo → σ → Status × SpiInfo × σ
  closeDevice : SpiInfo → σ → Status × SpiInfo × σ
  selectChip : SpiInfo → σ → Status × SpiInfo × σ
  transaction : {length : Nat} → SpiInfo → (writeData readData : Vector UInt8 length) →
    (delay : UInt32) → (bitsPerWord deselect : UInt8) → σ → Status × Vector UInt8 length × SpiInfo × σ
  unselectChip : SpiInfo → σ → Status × SpiInfo × σ

/-- A call the flight software made, with the configuration it passed and the
outcome. `requestData` and `requestDataReturned` bracket a call of the driver. -/
inductive Call where
  | initDev (device : SpiInfo) (status : Status)
  | closeDevice (device : SpiInfo) (status : Status)
  | selectChip (device : SpiInfo) (status : Status)
  | transaction (device : SpiInfo) (writeData readData : List UInt8) (status : Status)
  | unselectChip (device : SpiInfo) (status : Status)
  | requestData (device : SpiInfo)
  | requestDataReturned (status : Status)
deriving DecidableEq, Repr

/-- An application's `spi_info_t`, the world behind it and the calls made so far.
The program never reads the calls. -/
structure Bus (σ : Type) where
  world : σ
  device : SpiInfo
  calls : List Call

namespace Bus
variable {σ : Type}

def record (bus : Bus σ) (call : Call) : Bus σ := { bus with calls := bus.calls ++ [call] }

def call (bus : Bus σ) (function : SpiInfo → σ → Status × SpiInfo × σ) (entry : SpiInfo → Status → Call) :
    Status × Bus σ :=
  let (status, device, world) := function bus.device bus.world
  (status, ⟨world, device, bus.calls ++ [entry bus.device status]⟩)

end Bus

variable {σ : Type} (plat : Platform σ) (bus : Bus σ)

def spiInitDev : Status × Bus σ := bus.call plat.initDev .initDev

def spiCloseDevice : Status × Bus σ := bus.call plat.closeDevice .closeDevice

def spiSelectChip : Status × Bus σ := bus.call plat.selectChip .selectChip

def spiUnselectChip : Status × Bus σ := bus.call plat.unselectChip .unselectChip

def spiTransaction {length : Nat} (writeData readData : Vector UInt8 length) (delay : UInt32)
    (bitsPerWord deselect : UInt8) : Status × Vector UInt8 length × Bus σ :=
  let (status, received, device, world) :=
    plat.transaction bus.device writeData readData delay bitsPerWord deselect bus.world
  (status, received, ⟨world, device, bus.calls ++ [.transaction bus.device writeData.toList received.toList status]⟩)

section Calls

@[simp] theorem Bus.record_calls (call : Call) : (bus.record call).calls = bus.calls ++ [call] := rfl

@[simp] theorem Bus.call_calls (function : SpiInfo → σ → Status × SpiInfo × σ) (entry : SpiInfo → Status → Call) :
    (bus.call function entry).2.calls = bus.calls ++ [entry bus.device (bus.call function entry).1] := rfl

@[simp] theorem spiTransaction_calls {length : Nat} (writeData readData : Vector UInt8 length) (delay : UInt32)
    (bitsPerWord deselect : UInt8) :
    (spiTransaction plat bus writeData readData delay bitsPerWord deselect).2.2.calls =
      bus.calls ++ [.transaction bus.device writeData.toList
        (spiTransaction plat bus writeData readData delay bitsPerWord deselect).2.1.toList
        (spiTransaction plat bus writeData readData delay bitsPerWord deselect).1] := rfl

end Calls

end GenericFss
