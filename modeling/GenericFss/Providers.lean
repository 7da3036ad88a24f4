import GenericFss.Simulator

/-! The two data providers of the simulator. One passes on the records that 42 sends
over a socket, the other what 42 leaves in shared memory. -/

namespace GenericFss.Providers

variable {ρ : Type}

/-- The constructor keeps the configured spacecraft in 16 bits. -/
def spacecraft (configured : Int32) : Int16 := configured.toInt16

/-- `Generic_fss42DataProvider::get_data_point`, of the record last received. -/
def fss42DataPoint (sc : Int16) (dp42 : ρ) : DataPoint ρ := .ofRecord sc dp42

structure BlackboardData where
  fssValid : Int32
  fssSunAng0 : UInt64
  fssSunAng1 : UInt64
deriving DecidableEq, Repr

/-- `GenericFssShmemDataProvider::get_data_point`. The new point has a record and a
spacecraft as well, which are not set; the accessors are called for the debug message. -/
def fssShmemDataPoint (sim : Simulation ρ) (dp : ρ) (sc : Int16) (blackboardData : BlackboardData) : DataPoint ρ :=
  let point : DataPoint ρ :=
    .ofValues dp sc blackboardData.fssValid blackboardData.fssSunAng0 blackboardData.fssSunAng1
  let (_, point) := point.getGenericFssValid sim
  let (_, point) := point.getGenericFssAlpha sim
  let (_, point) := point.getGenericFssBeta sim
  point

def with42 (sim : Simulation ρ) (configured : Int32) (records : Nat → ρ) : Simulation ρ :=
  { sim with dataPoint := fun index => fss42DataPoint (spacecraft configured) (records index) }

def withShmem (sim : Simulation ρ) (dp : ρ) (sc : Int16) (blackboards : Nat → BlackboardData) : Simulation ρ :=
  { sim with dataPoint := fun index => fssShmemDataPoint sim dp sc (blackboards index) }

end GenericFss.Providers
