import GenericFss.Proofs.CheckoutCommand

/-! The checkout tool's tokenizer. The first word of the buffer becomes a command code, the
others are stored. The buffer itself keeps its first word. -/

namespace GenericFss.Proofs.CheckoutTokens
open CString Checkout CheckoutCommand

/-- The words that the tokenizer has yet to take up. It is one word ahead of `strtok`. -/
def Upcoming (tokens : List (List UInt8)) (tokenPtr : Option (List UInt8)) (cursor : Cursor) : Prop :=
  tokenPtr = tokens.head? ∧ (∀ token ∈ tokens.head?, 0 ∉ token) ∧ Pending isDelimiter tokens.tail cursor

section Tokenizer
variable {state after : Tokenizer} {token text : List UInt8} {others : List (List UInt8)}

theorem strtok_upcoming {tokens : List (List UInt8)} {cursor : Cursor} (pending : Pending isDelimiter tokens cursor) :
    ∃ text tokenPtr after, 0 ∉ text ∧ words isDelimiter text = tokens.take 1 ∧ Settled (cursor.passed ++ text) after ∧
      strtok isDelimiter cursor = some (tokenPtr, after) ∧ Upcoming tokens tokenPtr after := by
  obtain ⟨text, after, noNul, first, settled, found, upcoming⟩ := strtok_pending (by decide) pending
  exact ⟨text, tokens.head?, after, noNul, first, settled, found, rfl, upcoming⟩

theorem take_argument (counted : 0 ≤ state.numInputTokens)
    (upcoming : Upcoming (token :: others) state.tokenPtr state.cursor) :
    ∃ after, state.take token = some after ∧ Upcoming others after.tokenPtr after.cursor ∧
      after.numInputTokens = state.numInputTokens + 1 ∧ after.cmd = state.cmd ∧
      after.inputTokens = state.inputTokens ++ [(state.numInputTokens, strncpy token maxInputTokenSize)] := by
  obtain ⟨-, -, pending⟩ := upcoming
  obtain ⟨-, tokenPtr, cursor, -, -, -, found, left⟩ := strtok_upcoming pending
  have argument : state.numInputTokens ≠ -1 := by omega
  simp only [Tokenizer.take, if_neg argument, Option.bind_eq_bind, Option.bind_some, found, Option.pure_def]
  exact ⟨_, rfl, left, rfl, rfl, rfl⟩

theorem take_command (first : state.numInputTokens = -1) (short : token.length < maxInputTokenSize)
    (upcoming : Upcoming (token :: others) state.tokenPtr state.cursor) :
    ∃ after, state.take token = some after ∧ Upcoming others after.tokenPtr after.cursor ∧
      after.numInputTokens = 0 ∧ after.cmd = commandCode token ∧ after.inputTokens = state.inputTokens := by
  obtain ⟨-, noNul, pending⟩ := upcoming
  obtain ⟨-, tokenPtr, cursor, -, -, -, found, left⟩ := strtok_upcoming pending
  simp only [Tokenizer.take, if_pos first, fssGetCommand_short (noNul token rfl) short, Option.map_some,
    Option.bind_eq_bind, Option.bind_some, found, Option.pure_def]
  exact ⟨_, rfl, left, by rw [first]; rfl, rfl, rfl⟩

theorem take_cases (taken : state.take token = some after) :
    (∃ tokenPtr, strtok isDelimiter state.cursor = some (tokenPtr, after.cursor)) ∧
      after.numInputTokens = state.numInputTokens + 1 ∧
      (state.numInputTokens = -1 ∧ after.inputTokens = state.inputTokens ∨
        state.numInputTokens ≠ -1 ∧
          after.inputTokens = state.inputTokens ++ [(state.numInputTokens, strncpy token maxInputTokenSize)]) := by
  simp only [Tokenizer.take, Option.bind_eq_bind, Option.pure_def] at taken
  split at taken
  next first =>
    simp only [Option.bind_eq_some_iff, Option.map_eq_some_iff] at taken
    obtain ⟨_, ⟨cmd, -, rfl⟩, ⟨tokenPtr, cursor⟩, found, stored⟩ := taken
    cases stored
    exact ⟨⟨tokenPtr, found⟩, rfl, .inl ⟨first, rfl⟩⟩
  next argument =>
    simp only [Option.bind_some, Option.bind_eq_some_iff] at taken
    obtain ⟨⟨tokenPtr, cursor⟩, found, stored⟩ := taken
    cases stored
    exact ⟨⟨tokenPtr, found⟩, rfl, .inr ⟨argument, rfl⟩⟩

def InTable (stores : List (Int × List UInt8)) : Prop := ∀ store ∈ stores, 0 ≤ store.1 ∧ store.1 < maxInputTokens

theorem tokenize_stop {rounds : Nat} (stopped : maxInputTokens ≤ state.numInputTokens ∨ state.tokenPtr = none) :
    tokenize (rounds + 1) state = some state := by
  rw [tokenize]
  split
  next room => rw [stopped.resolve_left (by omega)]
  next full => rfl

theorem tokenize_take {rounds : Nat} {after : Tokenizer} (room : state.numInputTokens < maxInputTokens)
    (here : state.tokenPtr = some token) (taken : state.take token = some after) :
    tokenize (rounds + 1) state = tokenize rounds after := by
  rw [tokenize, if_pos room, here]
  simp only [taken, Option.bind_eq_bind, Option.bind_some]

/-- Every further word of the line is counted and stored, until the table is full. -/
theorem tokenize_arguments {arguments : List (List UInt8)} {rounds : Nat} (counted : 0 ≤ state.numInputTokens)
    (room : state.numInputTokens ≤ maxInputTokens) (enough : maxInputTokens < rounds + state.numInputTokens)
    (upcoming : Upcoming arguments state.tokenPtr state.cursor) :
    ∃ after stores, tokenize rounds state = some after ∧ after.cmd = state.cmd ∧
      after.numInputTokens = min (state.numInputTokens + arguments.length) maxInputTokens ∧
      after.inputTokens = state.inputTokens ++ stores ∧ InTable stores := by
  obtain ⟨rounds, rfl⟩ : ∃ left, rounds = left + 1 := ⟨rounds - 1, by omega⟩
  induction arguments generalizing rounds state with
  | nil =>
    refine ⟨state, [], tokenize_stop (.inr upcoming.1), rfl, ?_, (List.append_nil _).symm, by simp [InTable]⟩
    simp only [List.length_nil]
    omega
  | cons token others ih =>
    by_cases full : maxInputTokens ≤ state.numInputTokens
    · refine ⟨state, [], tokenize_stop (.inl full), rfl, ?_, (List.append_nil _).symm, by simp [InTable]⟩
      simp only [List.length_cons]
      omega
    · obtain ⟨next, taken, left, number, cmd, stored⟩ := take_argument counted upcoming
      obtain ⟨rounds, rfl⟩ : ∃ left, rounds = left + 1 := ⟨rounds - 1, by omega⟩
      obtain ⟨after, stores, done, sameCmd, total, more, inTable⟩ := ih (by omega) (by omega) left rounds (by omega)
      refine ⟨after, (state.numInputTokens, strncpy token maxInputTokenSize) :: stores, ?_, sameCmd.trans cmd, ?_, ?_, ?_⟩
      · rw [tokenize_take (by omega) upcoming.1 taken, done]
      · simp only [total, number, List.length_cons]
        omega
      · rw [more, stored, List.append_assoc, List.singleton_append]
      · rw [InTable, List.forall_mem_cons]
        exact ⟨⟨counted, by simpa using full⟩, inTable⟩

theorem tokenize_keeps {invariant : Tokenizer → Prop} {rounds : Nat}
    (kept : ∀ (state : Tokenizer) (token : List UInt8) (after : Tokenizer), state.numInputTokens < maxInputTokens →
      state.take token = some after → invariant state → invariant after)
    (initial : invariant state) (done : tokenize rounds state = some after) : invariant after := by
  induction rounds generalizing state with
  | zero => cases done
  | succ rounds ih =>
    rw [tokenize] at done
    split at done
    next room =>
      split at done
      next => cases done; exact initial
      next token _ =>
        obtain ⟨next, taken, rest⟩ := Option.bind_eq_some_iff.mp done
        exact ih (kept state token next room taken initial) rest
    next full => cases done; exact initial

theorem tokenize_settled {rounds : Nat} (settled : Settled text state.cursor) (done : tokenize rounds state = some after) :
    Settled text after.cursor := by
  refine @tokenize_keeps state after (fun now => Settled text now.cursor) rounds ?_ settled done
  intro state token after _ taken settled
  obtain ⟨⟨tokenPtr, found⟩, -⟩ := take_cases taken
  exact settled.strtok (by decide) found

/-- The tokenizer has stayed within a buffer of this size and within the table. -/
structure Bounded (size : Nat) (state : Tokenizer) : Prop where
  buffer : state.cursor.length = size
  counted : -1 ≤ state.numInputTokens
  table : InTable state.inputTokens

theorem Bounded.take {size : Nat} (bounded : Bounded size state) (room : state.numInputTokens < maxInputTokens)
    (taken : state.take token = some after) : Bounded size after := by
  obtain ⟨⟨tokenPtr, found⟩, number, stored⟩ := take_cases taken
  have counted := bounded.counted
  refine ⟨(strtok_length found).trans bounded.buffer, by omega, ?_⟩
  rcases stored with ⟨-, same⟩ | ⟨argument, more⟩
  · exact same ▸ bounded.table
  · rw [more, InTable, List.forall_mem_append, List.forall_mem_singleton]
    exact ⟨bounded.table, by simp only; omega, room⟩

theorem Bounded.tokenize {size rounds : Nat} (bounded : Bounded size state) (done : tokenize rounds state = some after) :
    Bounded size after :=
  tokenize_keeps (fun _ _ _ room taken bounded => Bounded.take bounded room taken) bounded done

theorem count_eq_zero {arguments : List (List UInt8)} :
    min (arguments.length : Int) maxInputTokens = 0 ↔ arguments = [] := by
  rw [← List.length_eq_zero_iff]
  simp only [maxInputTokens]
  omega

end Tokenizer

end GenericFss.Proofs.CheckoutTokens
