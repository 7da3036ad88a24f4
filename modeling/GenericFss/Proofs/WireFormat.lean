import GenericFss.Proofs.DriverContract
import GenericFss.Proofs.SimulatorFrame

/-! Angles on the wire. Encoder and decoder choose their byte order by the host they
are compiled for, although the shifts they use do not depend on the host; the frame
format of the documentation has the most significant byte of an angle first. -/

namespace GenericFss.Proofs.WireFormat
open GenericFss Device Simulator Bytes Requests ResponseFrame SimulatorFrame DriverContract

section Hosts
variable {ρ : Type} (sim : Simulation ρ)

/-- Whatever host reads them, the bytes that the simulator's host writes are those
of the pattern, least significant first, and give the pattern back. -/
def HostIndependent (order : ByteOrder) (input : UInt64) : Prop :=
  let bytes := doubleTo4bytesLittleEndian sim input
  onFour (fourbytesLittleEndianToFloat order) bytes = sim.floatOfDouble input ∧
    bytes = leastFirst (sim.floatOfDouble input)

theorem hostIndependent_iff (order : ByteOrder) (input : UInt64) :
    HostIndependent sim order input ↔
      sim.byteOrder = .littleEndian ∧ order = .littleEndian ∨
        mostFirst (sim.floatOfDouble input) = leastFirst (sim.floatOfDouble input) := by
  simp only [HostIndependent, fourbytes_eq, doubleTo4bytes_eq, hostWord, hostBytes]
  generalize sim.floatOfDouble input = pattern
  cases sim.byteOrder with
  | littleEndian =>
    cases order with
    | littleEndian => simp
    | bigEndian => simp [ofBytes_mostFirst_iff]
  | bigEndian =>
    cases order with
    | littleEndian => simp [ofBytes_mostFirst_iff]
    | bigEndian => simp

/-- A big-endian simulator and a little-endian flight computer: 1.0 arrives as 4.6e-41. -/
theorem hostIndependent_fails :
    ¬ HostIndependent { stillSun with byteOrder := .bigEndian } .littleEndian 0x3FF0000000000000 := by
  intro ⟨readBack, _⟩
  exact absurd readBack (by decide)

end Hosts

section Documented

/-- The documented response: angles are sent most significant byte first. -/
def documentedFrame (alpha beta : UInt32) (errorCode : UInt8) : List UInt8 :=
  response (mostFirst alpha) (mostFirst beta) errorCode

/-- The worked example of the documentation, 5 degrees and 10 degrees. -/
example : documentedFrame 0x40A00000 0x41200000 0 =
    [0xDE, 0xAD, 0xBE, 0xEF, 0x01, 0x0A, 0x40, 0xA0, 0x00, 0x00, 0x41, 0x20, 0x00, 0x00, 0x00, 0x4C] := by decide

def Palindromic (pattern : UInt32) : Prop := mostFirst pattern = leastFirst pattern

variable {σ ρ : Type} {plat : Platform σ} {data : DeviceData} {bus : Bus σ} {sim : Simulation ρ} {model : HardwareModel}
  {alpha beta : UInt32} {errorCode : UInt8}

theorem driver_conforms_iff (little : plat.byteOrder = .littleEndian) {frame : Vector UInt8 deviceDataSize}
    (documented : frame.toList = documentedFrame alpha beta errorCode)
    (received : Received (requestCalls plat data bus) frame) :
    (requestData plat data bus).2.1 = ⟨alpha, beta, errorCode⟩ ↔ Palindromic alpha ∧ Palindromic beta := by
  have stored := (stored_of_received received).trans (if_pos (response_valid documented))
  rw [stored, carried_response documented, little]
  simp [hostWord, ofBytes_mostFirst_iff, Palindromic]

theorem simulator_conforms_iff (little : sim.byteOrder = .littleEndian) (enabled : model.enabled = simSuccess) :
    let reading := measurement sim (sim.dataPoint model.samples)
    (createGenericFssData sim model).queuedData = documentedFrame reading.alpha reading.beta reading.errorCode ↔
      Palindromic reading.alpha ∧ Palindromic reading.beta := by
  simp only [createGenericFssData_enabled sim model enabled, frame, hostBytes, little, documentedFrame, response_inj]
  constructor
  · rintro ⟨first, second, -⟩
    exact ⟨first.symm, second.symm⟩
  · rintro ⟨first, second⟩
    exact ⟨first.symm, second.symm, trivial⟩

theorem conforms_iff (alpha beta : UInt32) (errorCode : UInt8) :
    (∀ {σ : Type} (plat : Platform σ) (data : DeviceData) (bus : Bus σ) (frame : Vector UInt8 deviceDataSize),
        plat.byteOrder = .littleEndian → frame.toList = documentedFrame alpha beta errorCode →
          Received (requestCalls plat data bus) frame →
            ((requestData plat data bus).2.1 = ⟨alpha, beta, errorCode⟩ ↔ Palindromic alpha ∧ Palindromic beta)) ∧
      ∀ {ρ : Type} (sim : Simulation ρ) (model : HardwareModel), sim.byteOrder = .littleEndian →
        model.enabled = simSuccess → measurement sim (sim.dataPoint model.samples) = ⟨alpha, beta, errorCode⟩ →
          ((createGenericFssData sim model).queuedData = documentedFrame alpha beta errorCode ↔
            Palindromic alpha ∧ Palindromic beta) := by
  constructor
  · intro σ plat data bus frame little documented received
    exact driver_conforms_iff little documented received
  · intro ρ sim model little enabled measured
    have conforms := simulator_conforms_iff little enabled
    simpa only [measured] using conforms

theorem conforms_iff_zero :
    (requestData scripted ⟨1, 1, 1⟩ (answering (documentedFrame 0 0 0))).2.1 = ⟨0, 0, 0⟩ ∧
      (createGenericFssData { stillSun with dataPoint := fun _ => .ofValues () 0 1 0 0 } .construct).queuedData =
        documentedFrame 0 0 0 := by
  have frame : (#v[0xDE, 0xAD, 0xBE, 0xEF, 1, 10, 0, 0, 0, 0, 0, 0, 0, 0, 0, 11] : Vector UInt8 deviceDataSize).toList =
      documentedFrame 0 0 0 := by decide
  have palindromic : Palindromic 0 ∧ Palindromic 0 := ⟨rfl, rfl⟩
  constructor
  · exact ((conforms_iff 0 0 0).1 scripted ⟨1, 1, 1⟩ _ _ rfl frame (frame ▸ received_answering _ _)).mpr palindromic
  · exact ((conforms_iff 0 0 0).2 _ .construct rfl rfl rfl).mpr palindromic

def documentedBus : Bus (List Answer) := answering (documentedFrame 0x40A00000 0x41200000 0)

theorem conforms_fails :
    (∃ frame, frame.toList = documentedFrame 0x40A00000 0x41200000 0 ∧
        Received (requestCalls scripted ⟨0, 0, 0⟩ documentedBus) frame) ∧
      (requestData scripted ⟨0, 0, 0⟩ documentedBus).2.1 ≠ ⟨0x40A00000, 0x41200000, 0⟩ := by
  have documented : (#v[0xDE, 0xAD, 0xBE, 0xEF, 0x01, 0x0A, 0x40, 0xA0, 0x00, 0x00, 0x41, 0x20, 0x00, 0x00, 0x00, 0x4C] :
      Vector UInt8 deviceDataSize).toList = documentedFrame 0x40A00000 0x41200000 0 := by decide
  constructor
  · refine ⟨_, documented, ?_⟩
    rw [documentedBus, ← documented]
    exact received_answering _ _
  · decide

end Documented

end GenericFss.Proofs.WireFormat
