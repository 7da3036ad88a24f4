import GenericFss.DataPoint

/-! A platform whose answers are written down beforehand and given out in call
order, and a simulation of a sun that stands still. Concrete runs are played on them. -/

namespace GenericFss

structure Answer where
  status : Status
  bytes : List UInt8
deriving DecidableEq, Repr

namespace Answer

def ok : Answer := ⟨spiSuccess, []⟩

def error : Answer := ⟨-1, []⟩

def receives (bytes : List UInt8) : Answer := ⟨spiSuccess, bytes⟩

def next : List Answer → Answer × List Answer
  | [] => (ok, [])
  | answer :: rest => (answer, rest)

end Answer

/-- A transfer overwrites as much of the receive buffer as its answer has bytes for. -/
def scripted : Platform (List Answer) where
  byteOrder := .littleEndian
  sizeofNoArgsCmd := 8
  locals _ := ⟨.replicate _ 0, .replicate _ 0, .replicate _ 0, .replicate _ 0⟩
  initDev device script := ((Answer.next script).1.status, device, (Answer.next script).2)
  closeDevice device script := ((Answer.next script).1.status, device, (Answer.next script).2)
  selectChip device script := ((Answer.next script).1.status, device, (Answer.next script).2)
  transaction device _ readData _ _ _ script :=
    ((Answer.next script).1.status,
      .ofFn fun index => (Answer.next script).1.bytes.getD index readData[index], device, (Answer.next script).2)
  unselectChip device script := ((Answer.next script).1.status, device, (Answer.next script).2)

/-- The device answers the command, and then the read with these bytes. -/
def answering (bytes : List UInt8) : Bus (List Answer) := ⟨[.ok, .ok, .ok, .ok, .receives bytes], .zero, []⟩

/-- The conversion to `float` of the doubles 1 and 2, the only ones that occur. -/
def floatOfSmallDouble (double : UInt64) : UInt32 :=
  if double = 0x3FF0000000000000 then 0x3F800000 else if double = 0x4000000000000000 then 0x40000000 else 0

def stillSun : Simulation Unit where
  byteOrder := .littleEndian
  floatOfDouble := floatOfSmallDouble
  getValueForKey _ _ := .error "no records"
  parseDoubleVector _ := .error "no records"
  dataPoint _ := .ofValues () 0 1 0x3FF0000000000000 0x4000000000000000

end GenericFss
