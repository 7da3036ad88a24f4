import GenericFss.Proofs.CheckoutSession
import GenericFss.Proofs.Nominal

/-! The checkout tool on the other end of the simulator's bus: what it stores and what it
reports, whatever is typed. -/

namespace GenericFss.Proofs.CheckoutBench
open GenericFss CString Checkout ClosedLoop Nominal Chronology CheckoutLanguage CheckoutRun CheckoutSession

variable {ρ : Type} {setup : Setup ρ}

/-- Each request has taken one data point. The last of them is stored, and every one was reported
as a success. -/
structure Measures (setup : Setup ρ) (state : Main Loop) : Prop where
  settled : Settled setup state.fssSpi.world
  taken : state.fssSpi.world.slave.fss.samples = (history state).count .request
  stored : state.fssData = reading setup ⟨0, 0, 0⟩ ((history state).count .request)
  reported : state.printed.filter isVerdict = .replicate ((history state).count .request) (verdict osSuccess)

theorem Measures.round {before after : Main Loop} (measures : Measures setup before)
    (round : Round (platform setup) before after) : Measures setup after := by
  obtain ⟨settled, taken, stored, reported⟩ := measures
  cases round with
  | idle spi data verdicts requests =>
    refine ⟨spi ▸ settled, ?_, ?_, ?_⟩
    · rw [spi, taken, requests]
    · rw [data, stored, requests]
    · rw [verdicts, reported, requests]
  | asked spi data verdicts requests =>
    obtain ⟨bus, answer, still, samples⟩ := settled.requestData before.fssData
    rw [answer] at spi data verdicts
    refine ⟨spi ▸ still, ?_, ?_, ?_⟩
    · rw [spi, samples, taken, requests]
    · rw [data, requests, taken]
      rfl
    · rw [verdicts, reported, requests, List.replicate_succ']

theorem Measures.start (undisturbed : Undisturbed setup) (inputBuf : Vector UInt8 maxInputBuf) (stdin : List UInt8) :
    Measures setup (startMain (platform setup) ⟨.construct, 0⟩ inputBuf stdin) := by
  obtain ⟨calls, data, verdicts, requests⟩ := startMain_session (platform setup) ⟨.construct, 0⟩ inputBuf stdin
  exact {
    settled := undisturbed.settled rfl
    taken := requests.symm
    stored := by rw [data, requests]; rfl
    reported := by rw [verdicts, requests]; rfl }

theorem Measures.stop {state : Main Loop} (measures : Measures setup state) :
    Measures setup (stopMain (platform setup) state) where
  settled := measures.settled
  taken := measures.taken
  stored := measures.stored
  reported := (stopMain_verdicts (platform setup) state).trans measures.reported

/-- At every point of every run, on any input. -/
theorem main_measures (undisturbed : Undisturbed setup) (rounds : Nat) (inputBuf : Vector UInt8 maxInputBuf)
    (stdin : List UInt8) :
    (main (platform setup) rounds ⟨.construct, 0⟩ inputBuf stdin).Satisfies (Measures setup) (Measures setup) := by
  have reached := @Loop.run_satisfies _ Main.runs (iteration (platform setup)) _ (Measures setup)
    (fun _ _ measures _ stepped => measures.round (iteration_round stepped)) (.start undisturbed inputBuf stdin) rounds
  exact reached.finish fun _ stopped => stopped.1.stop

def twoRequests : List UInt8 := typedInput [literal "f", literal "FSS"] (literal "exit")

/-- Two requests and an `exit`, with the sun that stands still. -/
theorem main_measures_twice : ∃ rounds final,
    main (platform quietSetup) rounds ⟨.construct, 0⟩ (.replicate _ 0) twoRequests = .ended final ∧
      final.fssData = ⟨0x3F800000, 0x40000000, 0⟩ := by
  have typed : ∀ line ∈ [literal "f", literal "FSS"] ++ [literal "exit"], Typed line := by
    simp only [List.cons_append, List.nil_append, List.forall_mem_cons]
    exact ⟨⟨⟨by decide, by decide, by decide⟩, by decide⟩, ⟨⟨by decide, by decide, by decide⟩, by decide⟩,
      ⟨⟨by decide, by decide, by decide⟩, by decide⟩, by simp⟩
  obtain ⟨runs, input, fresh⟩ := @startMain_runs _ (platform quietSetup) ⟨.construct, 0⟩ (.replicate _ 0) twoRequests rfl
  obtain ⟨rounds, stopped, looped, executed⟩ := executes_lines (platform quietSetup) typed (by decide) runs input
  have ended := (ended_main (platform quietSetup)).mpr ⟨stopped, looped, rfl⟩
  have measures := main_measures quietSetup_undisturbed rounds (.replicate _ 0) twoRequests
  rw [ended] at measures
  refine ⟨rounds, _, ended, measures.stored.trans ?_⟩
  have same : history (stopMain (platform quietSetup) stopped) = history stopped := rfl
  rw [same, executed, fresh]
  decide

end GenericFss.Proofs.CheckoutBench
