import GenericFss.Library.Loop
import GenericFss.Proofs.CheckoutLanguage

/-! Whole runs of the checkout tool on a finite standard input. -/

namespace GenericFss.Proofs.CheckoutRun
open CString Checkout CheckoutCommand CheckoutTokens CheckoutLanguage

inductive Command where
  | help
  | exit
  | request
  | wrongArguments
  | unknown
deriving DecidableEq, Repr

/-- The command of a line of these words, if there are any. -/
def commandOf : List (List UInt8) → Option Command
  | [] => none
  | first :: arguments => some (
    if equalIgnoringCase first (literal "help") then .help
    else if equalIgnoringCase first (literal "exit") then .exit
    else if equalIgnoringCase first (literal "fss") ∨ equalIgnoringCase first (literal "f") then
      if arguments = [] then .request else .wrongArguments
    else .unknown)

def spoken (line : List UInt8) : Option Command := commandOf (words isDelimiter line)

/-- The command that a call of `fss_process_command` carries out. -/
def carriedOut (call : Int × Int) : Command :=
  if call.1 = cmdHelp then .help
  else if call.1 = cmdExit then .exit
  else if call.1 = cmdGenericFss then if call.2 = 0 then .request else .wrongArguments
  else .unknown

def history {σ : Type} (state : Main σ) : List Command := state.executed.map carriedOut

/-- Nothing is expected after the first `exit`. -/
def upToExit : List Command → List Command
  | [] => []
  | command :: rest => if command = .exit then [command] else command :: upToExit rest

/-- The lines, each ended by a newline, and a last piece that is not. -/
def typedInput (lines : List (List UInt8)) (last : List UInt8) : List UInt8 := lines.flatMap (· ++ [newline]) ++ last

section Rounds
variable {σ : Type} (plat : Platform σ) {state after : Main σ}

theorem iteration_cases (stepped : iteration plat state = some after) :
    after.runs = state.runs ∨ ∃ cc numTokens before, after = obey plat cc numTokens before := by
  obtain ⟨-, stdin, -, -, tokens, -, -, -, rfl⟩ := iteration_conclude plat stepped
  rw [conclude]
  split
  next spoke => exact .inr ⟨tokens.cmd, tokens.numInputTokens, _, rfl⟩
  next silent => exact .inl rfl

theorem carriedOut_exit {call : Int × Int} : carriedOut call = .exit ↔ call.1 = cmdExit := by
  grind [carriedOut, cmdHelp, cmdExit, cmdGenericFss]

theorem exit_executed (runs : state.runs = true) (stepped : iteration plat state = some after) (stops : after.runs = false) :
    .exit ∈ history after := by
  rcases iteration_cases plat stepped with same | ⟨cc, numTokens, before, rfl⟩
  · rw [stops, runs] at same
    cases same
  · obtain ⟨texts, calls, effect⟩ := obey_effect plat cc numTokens before
    have exits : cc = cmdExit := by
      refine Classical.not_not.mp fun other => ?_
      rw [effect.runs.mpr other] at stops
      cases stops
    rw [history, effect.executed, List.map_append, List.mem_append]
    exact .inr (List.mem_singleton.mpr (carriedOut_exit.mpr exits).symm)

theorem commandOf_exit {tokens : List (List UInt8)} : commandOf tokens = some .exit ↔
    ∃ first ∈ tokens.head?, equalIgnoringCase first (literal "exit") = true := by
  cases tokens with
  | nil => simp [commandOf]
  | cons first arguments =>
    have notHelp : equalIgnoringCase first (literal "exit") = true → equalIgnoringCase first (literal "help") = false :=
      equalIgnoringCase_unique (by decide)
    simp only [List.head?_cons, Option.mem_def, Option.some_inj, exists_eq_left']
    grind [commandOf]

theorem carriedOut_commandCode (first : List UInt8) (arguments : List (List UInt8)) (count : Int)
    (alone : count = 0 ↔ arguments = []) : some (carriedOut (commandCode first, count)) =
      commandOf (first :: arguments) := by
  rw [commandOf, carriedOut]
  simp only [commandCode_help, commandCode_exit, commandCode_fss, alone]

theorem iteration_spoken {tokens : List (List UInt8)} {rest : List UInt8} (offered : Offered state tokens rest)
    (short : ∀ first ∈ tokens.head?, first.length < maxInputTokenSize) (runs : state.runs = true) :
    ∃ after, iteration plat state = some after ∧ after.stdin = rest ∧ LeftOver tokens after.inputBuf ∧
      history after = history state ++ (commandOf tokens).toList ∧ (after.runs = false ↔ commandOf tokens = some .exit) := by
  cases tokens with
  | nil =>
    obtain ⟨inputBuf, left, stepped⟩ := iteration_blank plat offered
    refine ⟨_, stepped, rfl, left, (List.append_nil _).symm, ?_⟩
    have goes : (takeIn state rest inputBuf state.inputTokens).runs = true := runs
    simp [commandOf, goes]
  | cons first arguments =>
    obtain ⟨inputBuf, stores, left, -, stepped⟩ := iteration_command plat offered (short first rfl)
    obtain ⟨texts, calls, effect⟩ := obey_effect plat (commandCode first) (min arguments.length maxInputTokens)
      (takeIn state rest inputBuf (state.inputTokens ++ stores))
    have command := carriedOut_commandCode first arguments _ count_eq_zero
    refine ⟨_, stepped, effect.stdin, effect.inputBuf.symm ▸ left, ?_, ?_⟩
    · rw [history, effect.executed, List.map_append, ← command]
      rfl
    · rw [← command, Option.some_inj, carriedOut_exit, ← Bool.not_eq_true, effect.runs, Classical.not_not]

theorem iteration_line {line rest : List UInt8} (next : NextLine state.stdin line rest) (typed : Typed line)
    (runs : state.runs = true) :
    ∃ after, iteration plat state = some after ∧ after.stdin = rest ∧ LeftOver (words isDelimiter line) after.inputBuf ∧
      history after = history state ++ (spoken line).toList ∧ (after.runs = false ↔ spoken line = some .exit) :=
  iteration_spoken plat (next.offered typed.toReadable) typed.command runs

end Rounds

section Runs
variable {σ : Type} (plat : Platform σ) {state : Main σ} {lines : List (List UInt8)} {line last rest : List UInt8}

def Executes (state : Main σ) (commands : List Command) : Prop :=
  ∃ rounds final, Loop.run Main.runs (iteration plat) rounds state = .ended final ∧ history final = history state ++ commands

theorem upToExit_append {said : Option Command} {commands : List Command} (other : said ≠ some .exit) :
    upToExit (said.toList ++ commands) = said.toList ++ upToExit commands := by
  cases said with
  | none => rfl
  | some command =>
    have goesOn : command ≠ .exit := fun same => other (congrArg some same)
    simp [upToExit, goesOn]

theorem executes_line {commands : List Command} (next : NextLine state.stdin line rest) (typed : Typed line)
    (runs : state.runs = true)
    (later : spoken line ≠ some .exit → ∀ after : Main σ, after.runs = true → after.stdin = rest →
      Executes plat after (upToExit commands)) :
    Executes plat state (upToExit ((spoken line).toList ++ commands)) := by
  obtain ⟨after, stepped, left, -, executed, stops⟩ := iteration_line plat next typed runs
  by_cases exits : spoken line = some .exit
  · refine ⟨1, after, ?_, ?_⟩
    · rw [Loop.run_succ 0 runs stepped, Loop.run_done 0 (stops.mpr exits)]
    · rw [executed, exits]
      rfl
  · have goes : after.runs = true := Bool.not_eq_false _ ▸ mt stops.mp exits
    obtain ⟨rounds, final, ended, total⟩ := later exits after goes left
    refine ⟨rounds + 1, final, ?_, ?_⟩
    · rw [Loop.run_succ rounds runs stepped, ended]
    · rw [total, executed, List.append_assoc, upToExit_append exits]

theorem commands_cons (line : List UInt8) (lines : List (List UInt8)) :
    (line :: lines).filterMap spoken = (spoken line).toList ++ lines.filterMap spoken := by
  cases said : spoken line with
  | none => rw [List.filterMap_cons_none said]; rfl
  | some command => rw [List.filterMap_cons_some said]; rfl

theorem executes_lines (typed : ∀ line ∈ lines ++ [last], Typed line) (exits : .exit ∈ (lines ++ [last]).filterMap spoken)
    (runs : state.runs = true) (input : state.stdin = typedInput lines last) :
    Executes plat state (upToExit ((lines ++ [last]).filterMap spoken)) := by
  induction lines generalizing state with
  | nil =>
    rw [List.nil_append, commands_cons] at exits ⊢
    have said : spoken last = some .exit := by simpa using exits
    have nonempty : last ≠ [] := by
      rintro rfl
      cases said
    have next : NextLine state.stdin last [] := .inr ⟨nonempty, input, rfl⟩
    exact executes_line plat next (typed last (by simp)) runs fun other => absurd said other
  | cons line lines ih =>
    rw [List.cons_append, commands_cons] at exits ⊢
    rw [List.cons_append, List.forall_mem_cons] at typed
    have next : NextLine state.stdin line (typedInput lines last) := .inl (by simp [input, typedInput])
    refine executes_line plat next typed.1 runs fun other after goes left => ih typed.2 ?_ goes left
    simpa [other] using exits

/-- The state so many rounds after the end of the input, when these were the words of its last line. -/
structure Echoing (tokens : List (List UInt8)) (executed : List Command) (count : Nat) (state : Main σ) : Prop where
  runs : state.runs = true
  stdin : state.stdin = []
  left : LeftOver tokens state.inputBuf
  history : history state = executed ++ (List.replicate count (commandOf (tokens.take 1)).toList).flatten

theorem Echoing.next {tokens : List (List UInt8)} {executed : List Command} {count : Nat}
    (echoing : Echoing tokens executed count state) (short : ∀ first ∈ tokens.head?, first.length < maxInputTokenSize)
    (other : commandOf tokens ≠ some .exit) :
    ∃ next, iteration plat state = some next ∧ Echoing tokens executed (count + 1) next := by
  have first : (tokens.take 1).head? = tokens.head? := by rw [List.head?_take, if_neg Nat.one_ne_zero]
  obtain ⟨next, stepped, stdin, left, echoed, stops⟩ :=
    iteration_spoken plat (echoing.left.offered echoing.stdin) (first.symm ▸ short) echoing.runs
  rw [commandOf_exit, first, ← commandOf_exit] at stops
  rw [LeftOver, List.take_take] at left
  refine ⟨next, stepped, Bool.not_eq_false _ ▸ mt stops.mp other, stdin, left, ?_⟩
  rw [echoed, echoing.history, List.replicate_succ', List.flatten_append, List.flatten_singleton, List.append_assoc]

/-- When the last line has been read and was no `exit`, the loop does not end: in every
further round it executes the line's first word again, without its arguments. -/
theorem echoes (next : NextLine state.stdin line []) (typed : Typed line) (runs : state.runs = true)
    (other : spoken line ≠ some .exit) (extra : Nat) :
    ∃ later, Loop.run Main.runs (iteration plat) (extra + 1) state = .running later ∧
      history later = history state ++ (spoken line).toList ++
        (List.replicate extra (commandOf ((words isDelimiter line).take 1)).toList).flatten := by
  obtain ⟨after, stepped, stdin, left, executed, stops⟩ := iteration_line plat next typed runs
  have goes : after.runs = true := Bool.not_eq_false _ ▸ mt stops.mp other
  have initial : Echoing (words isDelimiter line) (history after) 0 after := ⟨goes, stdin, left, (List.append_nil _).symm⟩
  have kept (count : Nat) (state : Main σ) (echoing : Echoing (words isDelimiter line) (history after) count state) :
      ∃ next, iteration plat state = some next ∧ Echoing (words isDelimiter line) (history after) (count + 1) next :=
    echoing.next plat typed.command other
  obtain ⟨later, running, echoing⟩ := Loop.run_forever (fun _ _ echoing => echoing.runs) kept initial extra
  refine ⟨later, ?_, ?_⟩
  · rw [Loop.run_succ extra runs stepped, running]
  · rw [echoing.history, executed, Nat.zero_add]

theorem echoes_request :
    ∃ later, Loop.run Main.runs (iteration scripted) 3 (startMain scripted [] (.replicate _ 0) (literal "fss")) = .running later ∧
      history later = [.request, .request, .request] :=
  @echoes _ scripted (startMain scripted [] (.replicate _ 0) (literal "fss")) (literal "fss") (.inr ⟨by decide, rfl, rfl⟩)
    ⟨⟨by decide, by decide, by decide⟩, by decide⟩ rfl (by decide) 2

/-- Every line is executed once, up to the first `exit`, and the program stops. -/
def RunsOnce (world : σ) (inputBuf : Vector UInt8 maxInputBuf) (lines : List (List UInt8)) (last : List UInt8) : Prop :=
  ∃ rounds final, main plat rounds world inputBuf (typedInput lines last) = .ended final ∧
    history final = upToExit ((lines ++ [last]).filterMap spoken)

theorem startMain_runs {world : σ} (inputBuf : Vector UInt8 maxInputBuf) (stdin : List UInt8)
    (initialized : (spiInitDev plat ⟨world, SpiInfo.zero.configure, []⟩).1 = osSuccess) :
    (startMain plat world inputBuf stdin).runs = true ∧ (startMain plat world inputBuf stdin).stdin = stdin ∧
      history (startMain plat world inputBuf stdin) = [] := by
  simp [startMain, initialized, fssPrintHelp, Main.print, Main.runs, history]

theorem exit_of_ended {rounds : Nat} {final : Main σ} (runs : state.runs = true)
    (ended : Loop.run Main.runs (iteration plat) rounds state = .ended final) : .exit ∈ history final := by
  have kept (before after : Main σ) (_ : before.runs = false → .exit ∈ history before) (runs : before.runs = true)
      (stepped : iteration plat before = some after) (stops : after.runs = false) : .exit ∈ history after :=
    exit_executed plat runs stepped stops
  have initial : state.runs = false → .exit ∈ history state := fun stopped => by rw [runs] at stopped; cases stopped
  have reached := Loop.run_satisfies kept initial rounds
  rw [ended] at reached
  exact reached.1 reached.2

theorem mem_of_mem_upToExit {commands : List Command} {command : Command} (found : command ∈ upToExit commands) :
    command ∈ commands := by
  induction commands with
  | nil => exact found
  | cons head rest ih =>
    rw [upToExit] at found
    split at found
    next exits => exact List.mem_cons.mpr (.inl (List.mem_singleton.mp found))
    next other => exact List.mem_cons.mpr ((List.mem_cons.mp found).imp id ih)

theorem ended_main {world : σ} {inputBuf : Vector UInt8 maxInputBuf} {stdin : List UInt8} {rounds : Nat} {final : Main σ} :
    main plat rounds world inputBuf stdin = .ended final ↔ ∃ stopped,
      Loop.run Main.runs (iteration plat) rounds (startMain plat world inputBuf stdin) = .ended stopped ∧
        final = stopMain plat stopped :=
  Loop.Outcome.finish_ended

/-- A run that ends has been told to. -/
theorem RunsOnce.exits {world : σ} {inputBuf : Vector UInt8 maxInputBuf}
    (initialized : (spiInitDev plat ⟨world, SpiInfo.zero.configure, []⟩).1 = osSuccess)
    (once : RunsOnce plat world inputBuf lines last) : .exit ∈ (lines ++ [last]).filterMap spoken := by
  obtain ⟨rounds, final, ended, executed⟩ := once
  obtain ⟨stopped, looped, rfl⟩ := (ended_main plat).mp ended
  have said : .exit ∈ history stopped := exit_of_ended plat (startMain_runs plat inputBuf _ initialized).1 looped
  have same : history (stopMain plat stopped) = history stopped := rfl
  rw [← same, executed] at said
  exact mem_of_mem_upToExit said

theorem runsOnce_iff (plat : Platform σ) (world : σ) (inputBuf : Vector UInt8 maxInputBuf) (lines : List (List UInt8))
    (last : List UInt8) (initialized : (spiInitDev plat ⟨world, SpiInfo.zero.configure, []⟩).1 = osSuccess)
    (typed : ∀ line ∈ lines ++ [last], Typed line) :
    RunsOnce plat world inputBuf lines last ↔
      ∃ line ∈ lines ++ [last], ∃ first ∈ (words isDelimiter line).head?, equalIgnoringCase first (literal "exit") = true := by
  have said : (∃ line ∈ lines ++ [last], ∃ first ∈ (words isDelimiter line).head?,
      equalIgnoringCase first (literal "exit") = true) ↔ .exit ∈ (lines ++ [last]).filterMap spoken := by
    simp only [List.mem_filterMap, spoken, commandOf_exit]
  rw [said]
  constructor
  · exact RunsOnce.exits plat initialized
  · intro exits
    obtain ⟨runs, input, fresh⟩ := startMain_runs plat inputBuf (typedInput lines last) initialized
    obtain ⟨rounds, stopped, ended, executed⟩ := executes_lines plat typed exits runs input
    refine ⟨rounds, stopMain plat stopped, (ended_main plat).mpr ⟨stopped, ended, rfl⟩, ?_⟩
    rw [← List.nil_append (upToExit _), ← fresh]
    exact executed

private theorem typed_fss : Typed (literal "fss") := ⟨⟨by decide, by decide, by decide⟩, by decide⟩

theorem runsOnce_request : RunsOnce scripted [] (.replicate _ 0) [literal "fss"] (literal "Exit") ↔
    ∃ line ∈ [literal "fss", literal "Exit"], ∃ first ∈ (words isDelimiter line).head?,
      equalIgnoringCase first (literal "exit") = true :=
  runsOnce_iff scripted [] (.replicate _ 0) [literal "fss"] (literal "Exit") (by decide) (by
    simp only [List.singleton_append, List.forall_mem_cons]
    exact ⟨typed_fss, ⟨⟨by decide, by decide, by decide⟩, by decide⟩, by simp⟩)

/-- One request on a piped input that then ends. -/
theorem runsOnce_fails : ¬ ∀ (lines : List (List UInt8)) (last : List UInt8), (∀ line ∈ lines ++ [last], Typed line) →
    RunsOnce scripted [] (.replicate _ 0) lines last := by
  intro claimed
  have typed : ∀ line ∈ [literal "fss"] ++ [[]], Typed line := by
    simp only [List.singleton_append, List.forall_mem_cons]
    exact ⟨typed_fss, ⟨⟨by decide, by decide, by decide⟩, by decide⟩, by simp⟩
  exact absurd ((claimed [literal "fss"] [] typed).exits scripted (by decide)) (by decide)

end Runs

end GenericFss.Proofs.CheckoutRun
