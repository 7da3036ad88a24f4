import GenericFss.Platform

/-! The simulator's data point. It is parsed lazily: every accessor first parses
the 42 record, again if an earlier attempt threw. A `double` is its 64-bit pattern. -/

namespace GenericFss

/-- `Generic_fssDataPoint`, over the type `ρ` of 42 telemetry records. -/
structure DataPoint (ρ : Type) where
  dp : ρ
  sc : Int16
  notParsed : Bool
  valid : Bool
  alpha : UInt64
  beta : UInt64

/-- What the simulator is compiled and linked against: its byte order, the `(float)`
conversion, the base class that parses 42 records, and the provider's samples in
the order they are taken. -/
structure Simulation (ρ : Type) where
  byteOrder : ByteOrder
  floatOfDouble : UInt64 → UInt32
  getValueForKey : ρ → String → Except String String
  parseDoubleVector : String → Except String (List UInt64)
  dataPoint : Nat → DataPoint ρ

namespace DataPoint
variable {ρ : Type} (sim : Simulation ρ) (point : DataPoint ρ)

def ofRecord (spacecraft : Int16) (record : ρ) : DataPoint ρ where
  dp := record
  sc := spacecraft
  notParsed := true
  valid := false
  alpha := 0
  beta := 0

/-- The constructor the shared memory provider uses; it leaves the other members unset. -/
def ofValues (dp : ρ) (sc : Int16) (valid : Int32) (alpha beta : UInt64) : DataPoint ρ where
  dp := dp
  sc := sc
  notParsed := false
  valid := valid != 0
  alpha := alpha
  beta := beta

def validKey : String := "SC[" ++ toString point.sc.toInt ++ "].FSS[0].Valid"

def sunangKey : String := "SC[" ++ toString point.sc.toInt ++ "].FSS[0].SunAng"

def doParsing : DataPoint ρ :=
  -- An exception leaves the assignments made before it, and the point unparsed.
  match sim.getValueForKey point.dp point.validKey with
  | .error _ => point
  | .ok validValue =>
    match sim.getValueForKey point.dp point.sunangKey with
    | .error _ => point
    | .ok sunangValues =>
      let point := { point with valid := validValue == "1" }
      match sim.parseDoubleVector sunangValues with
      | .error _ => point
      | .ok (alpha :: beta :: _) => { point with alpha, beta, notParsed := false }
      | .ok _ => { point with valid := false, notParsed := false }

def parseDataPoint : DataPoint ρ := if point.notParsed then point.doParsing sim else point

def getGenericFssValid : Bool × DataPoint ρ :=
  let point := point.parseDataPoint sim
  (point.valid, point)

def getGenericFssAlpha : UInt64 × DataPoint ρ :=
  let point := point.parseDataPoint sim
  (point.alpha, point)

def getGenericFssBeta : UInt64 × DataPoint ρ :=
  let point := point.parseDataPoint sim
  (point.beta, point)

section Text

/-- `std::numeric_limits<double>::digits10`. -/
def precision : Nat := 15

/-- `numerator / denominator` rounded to an integer, ties to even. -/
def roundedQuotient (numerator denominator : Nat) : Nat :=
  let quotient := numerator / denominator
  let twice := 2 * (numerator % denominator)
  if twice < denominator ∨ (twice = denominator ∧ quotient % 2 = 0) then quotient else quotient + 1

/-- A `double` written to a stream that is set to `std::fixed` and `precision` digits. -/
def fixedText (double : UInt64) : String :=
  let bits := double.toNat
  let sign := if bits >>> 63 = 1 then "-" else ""
  let exponent := (bits >>> 52) % 2048
  let fraction := bits % (1 <<< 52)
  if exponent = 2047 then sign ++ (if fraction = 0 then "inf" else "nan")
  else
    -- The value is `significand * 2 ^ (power - 1075)`; a subnormal has no leading one.
    let significand := if exponent = 0 then fraction else (1 <<< 52) + fraction
    let power := if exponent = 0 then 1 else exponent
    let unit := Nat.pow 10 precision
    let units := roundedQuotient ((significand <<< power) * unit) (1 <<< 1075)
    sign ++ toString (units / unit) ++ "." ++ String.ofList ((toString (units % unit)).toList.leftpad precision '0')

/-- It prints the members as they stand: unlike the other accessors it does not parse first. -/
protected def toString : String :=
  "Generic_fss Data Point:   Valid: " ++ " Generic_fss valid: " ++ (if point.valid then "True" else "False") ++
    "alpha: " ++ fixedText point.alpha ++ "beta: " ++ fixedText point.beta

example : fixedText 0xC00921FB54442D18 = "-3.141592653589793" := by decide +kernel

end Text

section Parsing

/-- All that a parse can come to. -/
inductive Parses : DataPoint ρ → Prop where
  | unread : (∀ value values, sim.getValueForKey point.dp point.validKey = .ok value →
      sim.getValueForKey point.dp point.sunangKey ≠ .ok values) → Parses point
  | interrupted {value values error} : sim.getValueForKey point.dp point.validKey = .ok value →
      sim.getValueForKey point.dp point.sunangKey = .ok values → sim.parseDoubleVector values = .error error →
      Parses { point with valid := value == "1" }
  | incomplete {value values data} : sim.getValueForKey point.dp point.validKey = .ok value →
      sim.getValueForKey point.dp point.sunangKey = .ok values → sim.parseDoubleVector values = .ok data → data.length < 2 →
      Parses { point with valid := false, notParsed := false }
  | complete {value values alpha beta rest} : sim.getValueForKey point.dp point.validKey = .ok value →
      sim.getValueForKey point.dp point.sunangKey = .ok values → sim.parseDoubleVector values = .ok (alpha :: beta :: rest) →
      Parses { point with valid := value == "1", alpha, beta, notParsed := false }

theorem doParsing_parses : Parses sim point (point.doParsing sim) := by
  rw [doParsing]
  split
  next unread => exact .unread fun value values seen => by rw [unread] at seen; cases seen
  next value seen =>
    split
    next unread => exact .unread fun value values _ found => by rw [unread] at found; cases found
    next values found =>
      split
      next thrown => exact .interrupted seen found thrown
      next parsed => exact .complete seen found parsed
      next data short parsed =>
        refine .incomplete seen found parsed ?_
        match data with
        | [] | [_] => simp
        | alpha :: beta :: rest => exact absurd rfl (short alpha beta rest)

theorem doParsing_cases :
    (point.doParsing sim).notParsed = false ∨ (point.doParsing sim).doParsing sim = point.doParsing sim := by
  have parses := point.doParsing_parses sim
  generalize parsing : point.doParsing sim = parsed at parses ⊢
  cases parses with
  | unread _ => exact .inr parsing
  | interrupted seen found thrown =>
    refine .inr ?_
    simp only [validKey, sunangKey] at seen found
    simp only [doParsing, validKey, sunangKey, seen, found, thrown]
  | incomplete | complete => exact .inl rfl

/-- Parsing again changes nothing, whether the first attempt succeeded or threw. -/
@[simp] theorem parseDataPoint_parseDataPoint :
    (point.parseDataPoint sim).parseDataPoint sim = point.parseDataPoint sim := by
  cases unparsed : point.notParsed with
  | false => simp [parseDataPoint, unparsed]
  | true =>
    rcases point.doParsing_cases sim with parsed | stuck
    · simp [parseDataPoint, unparsed, parsed]
    · simp [parseDataPoint, unparsed, stuck]

end Parsing

end DataPoint

end GenericFss
