import GenericFss.Proofs.CheckoutTokens
import GenericFss.Proofs.Requests
import GenericFss.Script

/-! The command language of the checkout tool. One round of its loop reads a line,
cuts it into words and does what the first one says. -/

namespace GenericFss.Proofs.CheckoutLanguage
open CString Checkout Requests CheckoutCommand CheckoutTokens

/-- A line that one call of `fgets` can take in whole. -/
structure Readable (line : List UInt8) : Prop where
  noNul : 0 ∉ line
  unbroken : newline ∉ line
  short : line.length ≤ 510

/-- Its first word fits into the copy that the command scan makes. -/
structure Typed (line : List UInt8) : Prop extends Readable line where
  command : ∀ first ∈ (words isDelimiter line).head?, first.length < maxInputTokenSize

/-- The line comes next on the input. Only the last one may lack its newline. -/
def NextLine (stdin line rest : List UInt8) : Prop :=
  stdin = line ++ newline :: rest ∨ line ≠ [] ∧ stdin = line ∧ rest = []

section Commands
variable {σ : Type} (plat : Platform σ)

/-- The effect of a line with words: its command is executed and decides whether the loop goes on. -/
def obey (cc numTokens : Int) (state : Main σ) : Main σ :=
  let processed := fssProcessCommand plat cc numTokens { state with executed := state.executed ++ [(cc, numTokens)] }
  { processed.2 with runStatus := runStatusOf processed.1 }

def takeIn (state : Main σ) (stdin inputBuf : List UInt8) (inputTokens : List (Int × List UInt8)) : Main σ :=
  { state.print prompt with stdin, inputBuf, inputTokens }

/-- The end of a round, once the line has been cut into tokens. -/
def conclude (state : Main σ) (stdin : List UInt8) (tokens : Tokenizer) : Main σ :=
  let taken := takeIn state stdin (tokens.cursor.passed ++ tokens.cursor.rest) tokens.inputTokens
  if 0 ≤ tokens.numInputTokens then obey plat tokens.cmd tokens.numInputTokens taken else taken

def isRequest : Call → Bool
  | .requestData _ => true
  | _ => false

structure Effect (cc numTokens : Int) (before after : Main σ) (texts : List String) (calls : List Call) : Prop where
  stdin : after.stdin = before.stdin
  inputBuf : after.inputBuf = before.inputBuf
  inputTokens : after.inputTokens = before.inputTokens
  executed : after.executed = before.executed ++ [(cc, numTokens)]
  printed : after.printed = before.printed ++ texts
  log : after.fssSpi.calls = before.fssSpi.calls ++ calls
  runs : after.runs = true ↔ cc ≠ cmdExit
  help : helpText ∈ texts ↔ cc = cmdHelp
  requests : calls.any isRequest = true ↔ cc = cmdGenericFss ∧ numTokens = 0

theorem requested {calls : List Call} {status : Status} {response : Option (Vector UInt8 deviceDataSize)}
    (request : Request calls status response) : calls.any isRequest = true := by
  cases request <;> simp [isRequest]

theorem helpText_ne : helpText ≠ invalidFormat ∧ helpText ≠ "GENERIC_FSS_RequestData command success.\n" ∧
    helpText ≠ "GENERIC_FSS_RequestData command failed!\n" := by
  decide

section Effects
variable {cc numTokens : Int} {state : Main σ} {text : String}

theorem effect_of_print
    (processed : ∀ state : Main σ, fssProcessCommand plat cc numTokens state = (osSuccess, state.print text))
    (goes : cc ≠ cmdExit) (help : helpText = text ↔ cc = cmdHelp) (idle : ¬ (cc = cmdGenericFss ∧ numTokens = 0)) :
    Effect cc numTokens state (obey plat cc numTokens state) [text] [] := by
  have runs : (obey plat cc numTokens state).runs = true := by rw [obey, processed]; rfl
  rw [obey, processed] at runs ⊢
  exact {
    stdin := rfl, inputBuf := rfl, inputTokens := rfl, executed := rfl, printed := rfl
    log := (List.append_nil _).symm
    runs := iff_of_true runs goes
    help := List.mem_singleton.trans help
    requests := iff_of_false Bool.false_ne_true idle }

theorem runStatusOf_osError : runStatusOf osError ≠ runStatusOf osSuccess := by decide

theorem effect_of_exit : Effect cmdExit numTokens state (obey plat cmdExit numTokens state) [] [] := by
  have processed (state : Main σ) : fssProcessCommand plat cmdExit numTokens state = (osError, state) := by
    rw [fssProcessCommand, if_neg (by decide), if_pos rfl]
  rw [obey, processed]
  exact {
    stdin := rfl, inputBuf := rfl, inputTokens := rfl, executed := rfl
    printed := (List.append_nil _).symm
    log := (List.append_nil _).symm
    runs := by simp [Main.runs, runStatusOf_osError]
    help := iff_of_false List.not_mem_nil (by decide)
    requests := iff_of_false Bool.false_ne_true fun both => absurd both.1 (by decide) }

theorem process_request (state : Main σ) : ∃ text, helpText ≠ text ∧
    fssProcessCommand plat cmdGenericFss 0 state =
      (osSuccess, { state with
        fssData := (Device.requestData plat state.fssData state.fssSpi).2.1
        fssSpi := (Device.requestData plat state.fssData state.fssSpi).2.2
        printed := state.printed ++ [text] }) := by
  have counted : fssCheckNumberArguments 0 0 state = (osSuccess, state) := rfl
  by_cases succeeded : (Device.requestData plat state.fssData state.fssSpi).1 = osSuccess
  · refine ⟨_, helpText_ne.2.1, ?_⟩
    simp [fssProcessCommand, counted, succeeded, Main.print, cmdHelp, cmdExit, cmdGenericFss]
  · refine ⟨_, helpText_ne.2.2, ?_⟩
    simp [fssProcessCommand, counted, succeeded, Main.print, cmdHelp, cmdExit, cmdGenericFss]

theorem effect_of_request : ∃ text calls, Effect cmdGenericFss 0 state (obey plat cmdGenericFss 0 state) [text] calls := by
  obtain ⟨calls, response, log, request, -⟩ := requestData_request plat state.fssData state.fssSpi
  obtain ⟨text, other, processed⟩ := process_request plat { state with executed := state.executed ++ [(cmdGenericFss, 0)] }
  have runs : (obey plat cmdGenericFss 0 state).runs = true := by rw [obey, processed]; rfl
  refine ⟨text, calls, ?_⟩
  rw [obey, processed] at runs ⊢
  exact {
    stdin := rfl, inputBuf := rfl, inputTokens := rfl, executed := rfl, printed := rfl, log
    runs := iff_of_true runs (by decide)
    help := iff_of_false (mt List.mem_singleton.mp other) (by decide)
    requests := iff_of_true (requested request) ⟨rfl, rfl⟩ }

theorem obey_effect (cc numTokens : Int) (state : Main σ) :
    ∃ texts calls, Effect cc numTokens state (obey plat cc numTokens state) texts calls := by
  by_cases help : cc = cmdHelp
  · subst help
    exact ⟨_, _, effect_of_print plat (fun _ => rfl) (by decide) (iff_of_true rfl rfl)
      fun both => absurd both.1 (by decide)⟩
  by_cases exits : cc = cmdExit
  · subst exits
    exact ⟨_, _, effect_of_exit plat⟩
  by_cases fss : cc = cmdGenericFss
  · subst fss
    by_cases alone : numTokens = 0
    · subst alone
      obtain ⟨text, calls, effect⟩ := @effect_of_request σ plat state
      exact ⟨_, _, effect⟩
    · have processed (state : Main σ) :
          fssProcessCommand plat cmdGenericFss numTokens state = (osSuccess, state.print invalidFormat) := by
        simp [fssProcessCommand, fssCheckNumberArguments, alone, osError_ne, cmdHelp, cmdExit, cmdGenericFss]
      exact ⟨_, _, effect_of_print plat processed exits (iff_of_false helpText_ne.1 help) fun both => alone both.2⟩
  · have processed (state : Main σ) : fssProcessCommand plat cc numTokens state = (osSuccess, state.print invalidFormat) := by
      rw [fssProcessCommand, if_neg help, if_neg exits, if_neg fss]
    exact ⟨_, _, effect_of_print plat processed exits (iff_of_false helpText_ne.1 help) fun both => fss both.1⟩

end Effects

end Commands

section Lines
variable {σ : Type} (plat : Platform σ) {state : Main σ} {line rest : List UInt8} {tokens : List (List UInt8)}

/-- What the buffer holds when the next round has called `fgets`. -/
def Offered (state : Main σ) (tokens : List (List UInt8)) (rest : List UInt8) : Prop :=
  ∃ filled, fgets state.inputBuf maxInputBuf state.stdin = (filled, rest) ∧ Pending isDelimiter tokens ⟨[], filled⟩

/-- What it holds when the words have been taken out: the first is still there. -/
def LeftOver (tokens : List (List UInt8)) (inputBuf : List UInt8) : Prop :=
  ∃ text, Holds text inputBuf ∧ words isDelimiter text = tokens.take 1

theorem NextLine.offered (next : NextLine state.stdin line rest) (readable : Readable line) :
    Offered state (words isDelimiter line) rest := by
  rcases next with terminated | ⟨nonempty, last, rfl⟩
  · have short : line.length + 1 < maxInputBuf := by have := readable.short; simp only [maxInputBuf]; omega
    rw [Offered, terminated]
    obtain ⟨filled, read, holds⟩ := fgets_line readable.noNul readable.unbroken short
    exact ⟨filled, read, _, holds, words_concat (by decide)⟩
  · have short : line.length < maxInputBuf := by have := readable.short; simp only [maxInputBuf]; omega
    rw [Offered, last]
    obtain ⟨filled, read, holds⟩ := fgets_last readable.noNul readable.unbroken nonempty short
    exact ⟨filled, read, _, holds, rfl⟩

/-- At the end of the input the left-over word is offered once more. -/
theorem LeftOver.offered (left : LeftOver tokens state.inputBuf) (ended : state.stdin = []) :
    Offered state (tokens.take 1) [] := by
  obtain ⟨text, holds, first⟩ := left
  exact ⟨state.inputBuf, by rw [ended, fgets_end], text, holds, first⟩

theorem iteration_eq {filled : List UInt8} {tokenPtr : Option (List UInt8)} {cursor : Cursor} {tokens : Tokenizer}
    (read : fgets state.inputBuf maxInputBuf state.stdin = (filled, rest))
    (found : strtok isDelimiter ⟨[], filled⟩ = some (tokenPtr, cursor))
    (done : tokenize tokenizerRounds ⟨cursor, tokenPtr, -1, cmdUnknown, state.inputTokens⟩ = some tokens) :
    iteration plat state = some (conclude plat state rest tokens) := by
  simp only [iteration, Main.print_inputBuf, Main.print_stdin, Main.print_inputTokens, read, found, done,
    Option.bind_eq_bind, Option.bind_some, Option.pure_def, conclude]
  split <;> rfl

theorem iteration_conclude {after : Main σ} (stepped : iteration plat state = some after) :
    ∃ filled stdin tokenPtr cursor tokens, fgets state.inputBuf maxInputBuf state.stdin = (filled, stdin) ∧
      strtok isDelimiter ⟨[], filled⟩ = some (tokenPtr, cursor) ∧
      tokenize tokenizerRounds ⟨cursor, tokenPtr, -1, cmdUnknown, state.inputTokens⟩ = some tokens ∧
      after = conclude plat state stdin tokens := by
  have parts := stepped
  simp only [iteration, Option.bind_eq_bind, Option.bind_eq_some_iff] at parts
  obtain ⟨⟨tokenPtr, cursor⟩, found, tokens, done, -⟩ := parts
  have read : fgets state.inputBuf maxInputBuf state.stdin = (_, _) := rfl
  have same := Option.some.inj (stepped.symm.trans (iteration_eq plat read found done))
  exact ⟨_, _, tokenPtr, cursor, tokens, read, found, done, same⟩

theorem iteration_blank (offered : Offered state [] rest) :
    ∃ inputBuf, LeftOver [] inputBuf ∧ iteration plat state = some (takeIn state rest inputBuf state.inputTokens) := by
  obtain ⟨filled, read, pending⟩ := offered
  obtain ⟨text, tokenPtr, after, noNul, blank, settled, found, rfl, -⟩ := strtok_upcoming pending
  have stopped : tokenize tokenizerRounds ⟨after, none, -1, cmdUnknown, state.inputTokens⟩ = some _ :=
    tokenize_stop (.inr rfl)
  exact ⟨after.passed ++ after.rest, ⟨text, settled.holds noNul, blank⟩, iteration_eq plat read found stopped⟩

theorem iteration_command {first : List UInt8} {arguments : List (List UInt8)}
    (offered : Offered state (first :: arguments) rest) (short : first.length < maxInputTokenSize) :
    ∃ inputBuf stores, LeftOver (first :: arguments) inputBuf ∧ InTable stores ∧ iteration plat state =
      some (obey plat (commandCode first) (min arguments.length maxInputTokens)
        (takeIn state rest inputBuf (state.inputTokens ++ stores))) := by
  obtain ⟨filled, read, pending⟩ := offered
  obtain ⟨text, tokenPtr, cursor, noNul, single, settled, found, upcoming⟩ := strtok_upcoming pending
  obtain ⟨started, taken, left, number, cmd, unstored⟩ :=
    @take_command ⟨cursor, tokenPtr, -1, cmdUnknown, state.inputTokens⟩ first arguments rfl short upcoming
  obtain ⟨tokens, stores, done, sameCmd, total, stored, inTable⟩ :=
    @tokenize_arguments started arguments (maxInputTokens + 1) (by omega) (by omega) (by omega) left
  have whole : tokenize tokenizerRounds ⟨cursor, tokenPtr, -1, cmdUnknown, state.inputTokens⟩ = some tokens := by
    have room : (-1 : Int) < maxInputTokens := by decide
    rw [tokenizerRounds, tokenize_take room upcoming.1 taken, done]
  have counted : tokens.numInputTokens = min (arguments.length : Int) maxInputTokens := by rw [total, number, Int.zero_add]
  have spoke : 0 ≤ tokens.numInputTokens := by omega
  have kept : Holds text (tokens.cursor.passed ++ tokens.cursor.rest) := (tokenize_settled settled whole).holds noNul
  refine ⟨_, stores, ⟨text, kept, single⟩, inTable, (iteration_eq plat read found whole).trans ?_⟩
  rw [conclude, if_pos spoke, sameCmd, cmd, counted, stored, unstored]

/-- The input buffer and the argument table have not been left. -/
structure Intact (state : Main σ) : Prop where
  buffer : state.inputBuf.length = maxInputBuf
  table : InTable state.inputTokens

theorem Intact.iteration {after : Main σ} (intact : Intact state) (stepped : iteration plat state = some after) :
    Intact after := by
  obtain ⟨filled, stdin, tokenPtr, cursor, tokens, read, found, done, rfl⟩ := iteration_conclude plat stepped
  have size : filled.length = maxInputBuf := by
    have kept := fgets_length (by decide) (Nat.le_of_eq intact.buffer.symm) state.stdin
    rw [read] at kept
    exact kept.trans intact.buffer
  have started : Bounded maxInputBuf ⟨cursor, tokenPtr, -1, cmdUnknown, state.inputTokens⟩ := by
    refine ⟨(strtok_length found).trans ?_, Int.le_refl _, intact.table⟩
    simpa [Cursor.length] using size
  obtain ⟨buffer, -, table⟩ := started.tokenize done
  have taken : Intact (takeIn state stdin (tokens.cursor.passed ++ tokens.cursor.rest) tokens.inputTokens) :=
    ⟨List.length_append.trans buffer, table⟩
  rw [conclude]
  split
  next spoke =>
    obtain ⟨texts, calls, effect⟩ := obey_effect plat tokens.cmd tokens.numInputTokens
      (takeIn state stdin (tokens.cursor.passed ++ tokens.cursor.rest) tokens.inputTokens)
    exact ⟨effect.inputBuf ▸ taken.buffer, effect.inputTokens ▸ taken.table⟩
  next silent => exact taken

/-- A first word that fills the copy leaves the round without a defined outcome. -/
theorem iteration_overrun {first : List UInt8} {arguments : List (List UInt8)}
    (offered : Offered state (first :: arguments) rest) (long : maxInputTokenSize ≤ first.length) :
    iteration plat state = none := by
  obtain ⟨filled, read, pending⟩ := offered
  obtain ⟨-, tokenPtr, cursor, -, -, -, found, rfl, noNul, -⟩ := strtok_upcoming pending
  have room : (-1 : Int) < maxInputTokens := by decide
  simp only [iteration, Main.print_inputBuf, Main.print_stdin, read, found, tokenizerRounds, tokenize, room, Tokenizer.take,
    List.head?_cons, fssGetCommand_long (noNul first rfl) long, if_true, Option.map_none, Option.bind_eq_bind,
    Option.bind_some, Option.bind_none]

end Lines

section Language
variable {σ : Type}

/-- What one round has to make of the words of a line. -/
def Accepts (before after : Main σ) : List (List UInt8) → Prop
  | [] => after = { before.print prompt with stdin := after.stdin, inputBuf := after.inputBuf }
  | first :: arguments => ∃ texts calls stores,
      after.printed = before.printed ++ prompt :: texts ∧ after.fssSpi.calls = before.fssSpi.calls ++ calls ∧
      after.inputTokens = before.inputTokens ++ stores ∧
      (after.runs = false ↔ equalIgnoringCase first (literal "exit") = true) ∧
      (helpText ∈ texts ↔ equalIgnoringCase first (literal "help") = true) ∧
      (calls.any isRequest = true ↔ arguments = [] ∧
        (equalIgnoringCase first (literal "fss") = true ∨ equalIgnoringCase first (literal "f") = true)) ∧
      InTable stores

theorem iteration_accepts (plat : Platform σ) (state : Main σ) (line rest : List UInt8)
    (next : NextLine state.stdin line rest) (typed : Typed line) :
    ∃ after, iteration plat state = some after ∧ after.stdin = rest ∧ Accepts state after (words isDelimiter line) := by
  cases spoken : words isDelimiter line with
  | nil =>
    obtain ⟨inputBuf, -, stepped⟩ := iteration_blank plat (spoken ▸ next.offered typed.toReadable)
    refine ⟨_, stepped, rfl, ?_⟩
    simp [Accepts, takeIn, Main.print]
  | cons first arguments =>
    have short : first.length < maxInputTokenSize := typed.command first (by rw [spoken]; rfl)
    obtain ⟨inputBuf, stores, -, inTable, stepped⟩ := iteration_command plat (spoken ▸ next.offered typed.toReadable) short
    obtain ⟨texts, calls, effect⟩ := obey_effect plat (commandCode first) (min arguments.length maxInputTokens)
      (takeIn state rest inputBuf (state.inputTokens ++ stores))
    refine ⟨_, stepped, effect.stdin, texts, calls, stores, ?_, effect.log, effect.inputTokens, ?_, ?_, ?_, inTable⟩
    · rw [effect.printed]
      simp [takeIn, Main.print]
    · rw [← commandCode_exit, ← Bool.not_eq_true, effect.runs, Classical.not_not]
    · rw [effect.help, commandCode_help]
    · rw [effect.requests, commandCode_fss, count_eq_zero, and_comm]

theorem iteration_accepts_args : ∃ after,
    iteration scripted (startMain scripted [] (.replicate _ 0) (literal " FSS now\n")) = some after ∧ after.stdin = [] ∧
      Accepts (startMain scripted [] (.replicate _ 0) (literal " FSS now\n")) after [literal "FSS", literal "now"] :=
  iteration_accepts scripted _ (literal " FSS now") [] (.inl (by decide))
    ⟨⟨by decide, by decide, by decide⟩, by decide⟩

end Language

end GenericFss.Proofs.CheckoutLanguage
