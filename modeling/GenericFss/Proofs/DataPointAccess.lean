import Mathlib.Data.List.Basic
import GenericFss.Library.Lazy
import GenericFss.Script
import GenericFss.Proofs.SimulatorFrame

/-! What a data point tells whoever asks it. Three accessors parse the record first, the
fourth does not; and an exception in the middle of the parse leaves the validity set
without the angles. -/

namespace GenericFss.Proofs.DataPointAccess
open GenericFss Simulator ResponseFrame SimulatorFrame

inductive Access where
  | valid
  | alpha
  | beta
  | text
deriving DecidableEq, Repr

inductive Result where
  | valid (value : Bool)
  | alpha (value : UInt64)
  | beta (value : UInt64)
  | text (value : String)
deriving DecidableEq, Repr

namespace Access

def parses : Access → Bool
  | valid | alpha | beta => true
  | text => false

end Access

variable {ρ : Type} (sim : Simulation ρ)

def access (point : DataPoint ρ) : Access → Result × DataPoint ρ
  | .valid =>
    let (value, point) := point.getGenericFssValid sim
    (.valid value, point)
  | .alpha =>
    let (value, point) := point.getGenericFssAlpha sim
    (.alpha value, point)
  | .beta =>
    let (value, point) := point.getGenericFssBeta sim
    (.beta value, point)
  | .text => (.text point.toString, point)

def results (point : DataPoint ρ) : List Access → List Result
  | [] => []
  | next :: rest => (access sim point next).1 :: results (access sim point next).2 rest

def shown (point : DataPoint ρ) : Access → Result
  | .valid => .valid point.valid
  | .alpha => .alpha point.alpha
  | .beta => .beta point.beta
  | .text => .text point.toString

theorem access_eq (point : DataPoint ρ) (next : Access) :
    access sim point next =
      (shown (Lazy.look (DataPoint.parseDataPoint sim) Access.parses point next) next,
        Lazy.look (DataPoint.parseDataPoint sim) Access.parses point next) := by
  cases next <;> rfl

theorem results_lazy (point : DataPoint ρ) (accesses : List Access) :
    results sim point accesses =
      Lazy.answers (DataPoint.parseDataPoint sim) Access.parses shown point accesses := by
  induction accesses generalizing point with
  | nil => rfl
  | cons next rest ih => rw [results, access_eq, ih, Lazy.answers]

section Validity
variable (spacecraft : Int16) (record : ρ)

def Recorded (alpha beta : UInt64) : Prop :=
  let point := DataPoint.ofRecord spacecraft record
  ∃ values rest, sim.getValueForKey record point.validKey = .ok "1" ∧
    sim.getValueForKey record point.sunangKey = .ok values ∧ sim.parseDoubleVector values = .ok (alpha :: beta :: rest)

/-- The parse gets as far as the angles of a record that says the sun is seen, and throws there. -/
def Interrupted : Prop :=
  let point := DataPoint.ofRecord spacecraft record
  ∃ values error, sim.getValueForKey record point.validKey = .ok "1" ∧
    sim.getValueForKey record point.sunangKey = .ok values ∧ sim.parseDoubleVector values = .error error

/-- Whoever is told that the data point is valid is also told the angles of the record. -/
def Honest : Prop :=
  ∀ accesses, .valid true ∈ results sim (.ofRecord spacecraft record) accesses →
    ∃ alpha beta, Recorded sim spacecraft record alpha beta ∧
      ∀ result ∈ results sim (.ofRecord spacecraft record) accesses,
        (∀ value, result = .alpha value → value = alpha) ∧ ∀ value, result = .beta value → value = beta

/-- Error code 0 leaves an enabled simulator only with the angles of the record. -/
def SendsRecorded : Prop :=
  ∀ model, model.enabled = simSuccess → sim.dataPoint model.samples = .ofRecord spacecraft record →
    (createGenericFssData sim model).queuedData[14]? = some 0 →
      ∃ alpha beta, Recorded sim spacecraft record alpha beta ∧
        ((createGenericFssData sim model).queuedData.drop 6).take 8 =
          (hostBytes sim.byteOrder (sim.floatOfDouble alpha)).toList ++
            (hostBytes sim.byteOrder (sim.floatOfDouble beta)).toList

variable {sim spacecraft record}

theorem Interrupted.unrecorded (interrupted : Interrupted sim spacecraft record) (alpha beta : UInt64) :
    ¬ Recorded sim spacecraft record alpha beta := by
  obtain ⟨values, error, _, angles, thrown⟩ := interrupted
  intro ⟨values', rest, _, angles', parsed⟩
  cases angles.symm.trans angles'
  cases thrown.symm.trans parsed

theorem Interrupted.valid (interrupted : Interrupted sim spacecraft record) :
    ((DataPoint.ofRecord spacecraft record).parseDataPoint sim).valid = true := by
  obtain ⟨values, error, seen, angles, thrown⟩ := interrupted
  have unparsed : (DataPoint.ofRecord spacecraft record).notParsed = true := rfl
  have same : (DataPoint.ofRecord spacecraft record).dp = record := rfl
  simp [DataPoint.parseDataPoint, unparsed, DataPoint.doParsing, same, seen, angles, thrown]

theorem parsed_valid (claimed : ((DataPoint.ofRecord spacecraft record).parseDataPoint sim).valid = true) :
    Interrupted sim spacecraft record ∨
      Recorded sim spacecraft record ((DataPoint.ofRecord spacecraft record).parseDataPoint sim).alpha
        ((DataPoint.ofRecord spacecraft record).parseDataPoint sim).beta := by
  have parses := (DataPoint.ofRecord spacecraft record).doParsing_parses sim
  have parsing : (DataPoint.ofRecord spacecraft record).parseDataPoint sim =
      (DataPoint.ofRecord spacecraft record).doParsing sim := rfl
  rw [parsing] at claimed ⊢
  generalize (DataPoint.ofRecord spacecraft record).doParsing sim = parsed at parses claimed ⊢
  cases parses with
  | unread _ | incomplete => cases claimed
  | interrupted seen found thrown => exact .inl ⟨_, _, beq_iff_eq.mp claimed ▸ seen, found, thrown⟩
  | complete seen found parsed => exact .inr ⟨_, _, beq_iff_eq.mp claimed ▸ seen, found, parsed⟩

/-- What is told: before the record is parsed only the text, afterwards the parsed members. -/
theorem told (accesses : List Access) {result : Result}
    (member : result ∈ results sim (.ofRecord spacecraft record) accesses) :
    (∃ text, result = .text text) ∨
      ∃ next, result = shown ((DataPoint.ofRecord spacecraft record).parseDataPoint sim) next := by
  rw [results_lazy, Lazy.answers_eq _ _ (DataPoint.parseDataPoint_parseDataPoint sim), List.mem_append, List.mem_map,
    List.mem_map] at member
  rcases member with ⟨next, early, rfl⟩ | ⟨next, _, rfl⟩
  · have unparsed := List.all_eq_true.mp List.all_takeWhile next early
    cases next with
    | text => exact Or.inl ⟨_, rfl⟩
    | valid | alpha | beta => cases unparsed
  · exact Or.inr ⟨next, rfl⟩

theorem honest_iff : Honest sim spacecraft record ↔ ¬ Interrupted sim spacecraft record := by
  constructor
  · intro honest interrupted
    have claimed : results sim (.ofRecord spacecraft record) [.valid] = [.valid true] :=
      congrArg (fun value => [Result.valid value]) interrupted.valid
    obtain ⟨alpha, beta, recorded, _⟩ := honest [.valid] (by rw [claimed]; exact List.mem_singleton_self _)
    exact interrupted.unrecorded alpha beta recorded
  · intro uninterrupted accesses claims
    have claimed : ((DataPoint.ofRecord spacecraft record).parseDataPoint sim).valid = true := by
      rcases told accesses claims with ⟨text, same⟩ | ⟨next, same⟩
      · cases same
      · cases next with
        | valid => exact (Result.valid.inj same).symm
        | alpha | beta | text => cases same
    have recorded := (parsed_valid claimed).resolve_left uninterrupted
    refine ⟨_, _, recorded, ?_⟩
    intro result member
    rcases told accesses member with ⟨text, rfl⟩ | ⟨next, rfl⟩
    · exact ⟨nofun, nofun⟩
    · cases next <;> simp [shown]

theorem sendsRecorded (uninterrupted : ¬ Interrupted sim spacecraft record) : SendsRecorded sim spacecraft record := by
  intro model enabled taken sent
  rw [createGenericFssData_enabled sim model enabled, taken] at sent ⊢
  rw [frame, response_parts.1] at sent
  have claimed : ((DataPoint.ofRecord spacecraft record).parseDataPoint sim).valid = true := by
    simpa [measurement] using sent
  exact ⟨_, _, (parsed_valid claimed).resolve_left uninterrupted, response_parts.2⟩

theorem validity_iff :
    Honest sim spacecraft record ∧ SendsRecorded sim spacecraft record ↔ ¬ Interrupted sim spacecraft record := by
  constructor
  · intro ⟨honest, _⟩
    exact honest_iff.mp honest
  · intro uninterrupted
    exact ⟨honest_iff.mpr uninterrupted, sendsRecorded uninterrupted⟩

/-- Records that say the sun is seen and have something unreadable in place of the angles. -/
def unreadable : Simulation Unit :=
  { stillSun with
    getValueForKey := fun _ key => .ok (if key = "SC[0].FSS[0].Valid" then "1" else "?")
    parseDoubleVector := fun _ => .error "bad lexical cast" }

theorem validity_fails : ¬ (Honest unreadable 0 () ∧ SendsRecorded unreadable 0 ()) := by
  intro ⟨honest, _⟩
  have seen : (if (DataPoint.ofRecord 0 ()).validKey = "SC[0].FSS[0].Valid" then "1" else "?") = "1" := by decide
  have angles : (if (DataPoint.ofRecord 0 ()).sunangKey = "SC[0].FSS[0].Valid" then "1" else "?") = "?" := by decide
  have interrupted : Interrupted unreadable 0 () := ⟨"?", _, congrArg Except.ok seen, congrArg Except.ok angles, rfl⟩
  exact honest_iff.mp honest interrupted

end Validity

section Laziness
variable (spacecraft : Int16) (record : ρ)

def Invisible (accesses : List Access) : Prop :=
  results sim (.ofRecord spacecraft record) accesses =
    accesses.map (shown ((DataPoint.ofRecord spacecraft record).doParsing sim))

/-- The record prints like a data point that was never parsed: the sun is not seen, and two angles
that are there print as zero. -/
def Blank : Prop :=
  let point := DataPoint.ofRecord spacecraft record
  ∀ value values, sim.getValueForKey record point.validKey = .ok value →
    sim.getValueForKey record point.sunangKey = .ok values →
    match sim.parseDoubleVector values with
    | .error _ => value ≠ "1"
    | .ok (alpha :: beta :: _) =>
      value ≠ "1" ∧ DataPoint.fixedText alpha = "0.000000000000000" ∧ DataPoint.fixedText beta = "0.000000000000000"
    | .ok _ => True

section Text

theorem fixedText_zero : DataPoint.fixedText 0 = "0.000000000000000" := by decide +kernel

private theorem delimited_inj {first second rest rest' : String}
    (noLetter : 'b' ∉ first.toList ∧ 'b' ∉ ("eta: " ++ rest).toList) :
    first ++ ("beta: " ++ rest) = second ++ ("beta: " ++ rest') ↔ first = second ∧ rest = rest' := by
  have split (first rest : String) : (first ++ ("beta: " ++ rest)).toList = first.toList ++ 'b' :: ("eta: " ++ rest).toList := by
    simp
  rw [← String.toList_inj, split, split, List.append_cons_inj_of_notMem noLetter.1 noLetter.2]
  simp only [String.toList_inj, String.append_right_inj, true_and]

theorem toString_unparsed_iff (point : DataPoint ρ) :
    (DataPoint.ofRecord spacecraft record).toString = point.toString ↔
      point.valid = false ∧ DataPoint.fixedText point.alpha = "0.000000000000000" ∧
        DataPoint.fixedText point.beta = "0.000000000000000" := by
  have noLetter : 'b' ∉ "0.000000000000000".toList ∧ 'b' ∉ ("eta: " ++ "0.000000000000000").toList := by decide
  unfold DataPoint.toString DataPoint.ofRecord
  simp only [String.append_assoc, fixedText_zero]
  generalize "0.000000000000000" = zero at noLetter ⊢
  cases point.valid with
  | true =>
    apply iff_of_false
    · intro same
      rw [String.append_right_inj, String.append_right_inj] at same
      have letters := congrArg (fun text => text.toList.head?) same
      simp at letters
    · simp
  | false =>
    simp only [Bool.false_eq_true, if_false, String.append_right_inj, delimited_inj noLetter]
    simp [eq_comm]

variable {sim spacecraft record}

private theorem blank_of_read {value values : String}
    (seen : sim.getValueForKey record (DataPoint.ofRecord spacecraft record).validKey = .ok value)
    (found : sim.getValueForKey record (DataPoint.ofRecord spacecraft record).sunangKey = .ok values) :
    Blank sim spacecraft record ↔
      match sim.parseDoubleVector values with
      | .error _ => value ≠ "1"
      | .ok (alpha :: beta :: _) =>
        value ≠ "1" ∧ DataPoint.fixedText alpha = "0.000000000000000" ∧ DataPoint.fixedText beta = "0.000000000000000"
      | .ok _ => True := by
  constructor
  · intro blank
    exact blank value values seen found
  · intro holds value' values' seen' found'
    cases seen.symm.trans seen'
    cases found.symm.trans found'
    exact holds

theorem blank_iff :
    Blank sim spacecraft record ↔
      (DataPoint.ofRecord spacecraft record).toString = ((DataPoint.ofRecord spacecraft record).doParsing sim).toString := by
  have parses := (DataPoint.ofRecord spacecraft record).doParsing_parses sim
  have unset : DataPoint.fixedText (DataPoint.ofRecord spacecraft record).alpha = "0.000000000000000" ∧
      DataPoint.fixedText (DataPoint.ofRecord spacecraft record).beta = "0.000000000000000" := ⟨fixedText_zero, fixedText_zero⟩
  rw [toString_unparsed_iff]
  generalize (DataPoint.ofRecord spacecraft record).doParsing sim = parsed at parses ⊢
  cases parses with
  | unread neither =>
    apply iff_of_true
    · intro value values seen found
      exact absurd found (neither value values seen)
    · exact ⟨rfl, unset⟩
  | interrupted seen found thrown =>
    refine (blank_of_read seen found).trans ?_
    rw [thrown]
    simp [unset]
  | @incomplete value values data seen found parsed short =>
    refine (blank_of_read seen found).trans ?_
    rw [parsed]
    match data with
    | [] | [_] => exact iff_of_true trivial ⟨rfl, unset⟩
    | _ :: _ :: _ => exact absurd short (by simp)
  | complete seen found parsed =>
    refine (blank_of_read seen found).trans ?_
    rw [parsed]
    simp
end Text

/-- The parse is noticed only by a text that is asked for first, of a record that does not print
like no record at all. -/
theorem invisible_iff (accesses : List Access) :
    Invisible sim spacecraft record accesses ↔ (accesses.head? = some .text → Blank sim spacecraft record) := by
  have parsing : (DataPoint.ofRecord spacecraft record).parseDataPoint sim =
      (DataPoint.ofRecord spacecraft record).doParsing sim := rfl
  rw [Invisible, results_lazy, ← parsing, Lazy.answers_eager_iff _ _ (DataPoint.parseDataPoint_parseDataPoint sim), parsing,
    blank_iff]
  generalize DataPoint.ofRecord spacecraft record = point
  constructor
  · intro unnoticed asked
    obtain ⟨rest, rfl⟩ := List.head?_eq_some_iff.mp asked
    exact Result.text.inj (unnoticed .text List.mem_cons_self)
  · intro same next early
    have unparsed := List.all_eq_true.mp List.all_takeWhile next early
    cases next with
    | valid | alpha | beta => cases unparsed
    | text =>
      have first : accesses.head? = some .text := by
        cases accesses with
        | nil => cases early
        | cons head rest =>
          cases head with
          | text => rfl
          | valid | alpha | beta => simp [Access.parses] at early
      rw [shown, shown, same first]

def readable : Simulation Unit :=
  { stillSun with
    getValueForKey := fun _ key => .ok (if key = "SC[0].FSS[0].Valid" then "1" else "1.0 2.0")
    parseDoubleVector := fun _ => .ok [0x3FF0000000000000, 0x4000000000000000] }

/-- Asked for its text first, the data point calls a valid record invalid. -/
theorem invisible_fails :
    ((DataPoint.ofRecord 0 ()).doParsing readable).notParsed = false ∧ ¬ Invisible readable 0 () [.text] := by
  constructor
  · rfl
  · intro invisible
    have same := List.cons.inj invisible
    have text := Result.text.inj same.1
    exact absurd text (by decide +kernel)

end Laziness

end GenericFss.Proofs.DataPointAccess
