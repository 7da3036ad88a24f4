/-! The C library's functions on strings and lines. An array is the list of its
bytes, a string the bytes before its terminator. Following a string past the end
of the array that holds it has no defined outcome; the result is then `none`. -/

namespace CString

def newline : UInt8 := 0x0A

def literal (text : String) : List UInt8 := text.toList.map Char.toUInt8

/-- What `strtok` remembers between two calls: the array, split at the pointer it keeps. -/
structure Cursor where
  passed : List UInt8
  rest : List UInt8

def Cursor.length (cursor : Cursor) : Nat := cursor.passed.length + cursor.rest.length

/-- The delimiter that ends a token is overwritten with a terminator. -/
def strtok (delimiter : UInt8 → Bool) (cursor : Cursor) : Option (Option (List UInt8) × Cursor) :=
  let passed := cursor.passed ++ cursor.rest.takeWhile delimiter
  match cursor.rest.dropWhile delimiter with
  | [] => none
  | first :: start =>
    if first = 0 then some (none, ⟨passed, first :: start⟩)
    else
      let token := (first :: start).takeWhile fun byte => !delimiter byte && byte != 0
      match (first :: start).dropWhile fun byte => !delimiter byte && byte != 0 with
      | [] => none
      | last :: after =>
        if last = 0 then some (some token, ⟨passed ++ token, last :: after⟩)
        else some (some token, ⟨passed ++ token ++ [0], after⟩)

/-- A short string is padded with zeros. One that fills the array loses its terminator. -/
def strncpy (source : List UInt8) (size : Nat) : List UInt8 := (source.take size).rightpad size 0

def tolower (byte : UInt8) : UInt8 := if 0x41 ≤ byte ∧ byte ≤ 0x5A then byte + 0x20 else byte

/-- Whether `strcmp` of an array with a literal gives zero. -/
def sameString : List UInt8 → List UInt8 → Option Bool
  | [], _ => none
  | byte :: _, [] => some (byte = 0)
  | byte :: array, char :: text => if byte = char then sameString array text else some false

/-- At most `limit` bytes of the input, up to and including the first newline. -/
def takeLine : Nat → List UInt8 → List UInt8 × List UInt8
  | 0, input => ([], input)
  | _, [] => ([], [])
  | limit + 1, byte :: input =>
    if byte = newline then ([byte], input)
    else
      let (line, input) := takeLine limit input
      (byte :: line, input)

/-- At the end of the input the array stays as it is. -/
def fgets (array : List UInt8) (size : Nat) (input : List UInt8) : List UInt8 × List UInt8 :=
  let (line, input) := takeLine (size - 1) input
  if line = [] then (array, input) else (line ++ 0 :: array.drop (line.length + 1), input)

/-- The maximal runs of bytes that are not delimiters. -/
def words (delimiter : UInt8 → Bool) (text : List UInt8) : List (List UInt8) :=
  (text.splitOnP delimiter).filter (· ≠ [])

def equalIgnoringCase (first second : List UInt8) : Bool := first.map tolower = second.map tolower

/-- The array holds `text`, its terminator and possibly more. -/
def Holds (text array : List UInt8) : Prop := 0 ∉ text ∧ ∃ unused, array = text ++ 0 :: unused

section Words
variable {delimiter : UInt8 → Bool} {byte : UInt8} {text word gap : List UInt8}

@[simp] theorem words_nil : words delimiter [] = [] := by
  simp [words, List.splitOnP_nil]

/-- Words do not reach across a delimiter. -/
theorem words_append_cons (between : delimiter byte = true) (text : List UInt8) (others : List UInt8) :
    words delimiter (text ++ byte :: others) = words delimiter text ++ words delimiter others := by
  rw [words, List.splitOnP_append_cons text others between, List.filter_append, words, words]

theorem words_cons (skipped : delimiter byte = true) : words delimiter (byte :: text) = words delimiter text :=
  words_append_cons skipped [] text

theorem words_concat (skipped : delimiter byte = true) : words delimiter (text ++ [byte]) = words delimiter text := by
  rw [words_append_cons skipped, words_nil, List.append_nil]

theorem words_gap (skipped : ∀ byte ∈ gap, delimiter byte = true) :
    words delimiter (gap ++ text) = words delimiter text := by
  induction gap with
  | nil => rfl
  | cons byte gap ih =>
    rw [List.forall_mem_cons] at skipped
    rw [List.cons_append, words_cons skipped.1, ih skipped.2]

theorem words_run (nonempty : word ≠ []) (kept : ∀ byte ∈ word, delimiter byte = false) :
    words delimiter word = [word] := by
  rw [words, List.splitOnP_eq_singleton kept]
  simp [nonempty]

end Words

section Scanning
variable {α : Type} {inside : α → Bool} {first rest : List α}

theorem takeWhile_prefix (all : ∀ x ∈ first, inside x = true) (ends : ∀ x ∈ rest.head?, inside x = false) :
    (first ++ rest).takeWhile inside = first := by
  rw [List.takeWhile_append_of_pos all]
  cases rest with
  | nil => exact List.append_nil first
  | cons x rest => simp [ends x rfl]

theorem dropWhile_prefix (all : ∀ x ∈ first, inside x = true) (ends : ∀ x ∈ rest.head?, inside x = false) :
    (first ++ rest).dropWhile inside = rest := by
  rw [List.dropWhile_append_of_pos all]
  cases rest with
  | nil => rfl
  | cons x rest => simp [ends x rfl]

theorem split_prefix (inside : α → Bool) (text : List α) : ∃ first rest, text = first ++ rest ∧
    (∀ x ∈ first, inside x = true) ∧ ∀ x ∈ rest.head?, inside x = false := by
  refine ⟨text.takeWhile inside, text.dropWhile inside, List.takeWhile_append_dropWhile.symm, ?_, ?_⟩
  · exact List.all_eq_true.mp List.all_takeWhile
  · intro x here
    have stopped := List.head?_dropWhile_not inside text
    rwa [Option.mem_def.mp here] at stopped

/-- A text is blank, or its first word stands between delimiters. -/
theorem words_cases (delimiter : UInt8 → Bool) (text : List UInt8) :
    (∀ byte ∈ text, delimiter byte = true) ∧ words delimiter text = [] ∨
      ∃ gap word after, text = gap ++ (word ++ after) ∧ (∀ byte ∈ gap, delimiter byte = true) ∧ word ≠ [] ∧
        (∀ byte ∈ word, delimiter byte = false) ∧ (∀ byte ∈ after.head?, delimiter byte = true) ∧
        words delimiter text = word :: words delimiter after := by
  obtain ⟨gap, start, rfl, skipped, starts⟩ := split_prefix delimiter text
  rw [words_gap skipped]
  obtain ⟨word, after, rfl, kept, ends⟩ := split_prefix (fun byte => !delimiter byte) start
  simp only [Bool.not_eq_true', Bool.not_eq_false'] at kept ends
  by_cases nonempty : word = []
  · subst nonempty
    have ended : after = [] := by
      cases after with
      | nil => rfl
      | cons byte after => simp [ends byte rfl] at starts
    subst ended
    exact .inl ⟨by simpa using skipped, words_nil⟩
  · refine .inr ⟨gap, word, after, rfl, skipped, nonempty, kept, ends, ?_⟩
    cases after with
    | nil => rw [List.append_nil, words_run nonempty kept, words_nil]
    | cons byte after =>
      rw [words_append_cons (ends byte rfl), words_cons (ends byte rfl), words_run nonempty kept, List.singleton_append]

end Scanning

/-- `strtok` has still to give out these tokens. -/
def Pending (delimiter : UInt8 → Bool) (tokens : List (List UInt8)) (cursor : Cursor) : Prop :=
  ∃ text, Holds text cursor.rest ∧ words delimiter text = tokens

/-- The array begins with `text` and a terminator, at which or behind which `strtok` stands. -/
def Settled (text : List UInt8) (cursor : Cursor) : Prop :=
  (∃ more, cursor.passed = text ++ 0 :: more) ∨ cursor.passed = text ∧ ∃ unused, cursor.rest = 0 :: unused

section Tokens
variable {delimiter : UInt8 → Bool} {cursor : Cursor} {token : List UInt8} {others : List (List UInt8)}

theorem strtok_gap {gap unused : List UInt8} (notNul : delimiter 0 = false) (skipped : ∀ byte ∈ gap, delimiter byte = true)
    (array : cursor.rest = gap ++ 0 :: unused) :
    strtok delimiter cursor = some (none, ⟨cursor.passed ++ gap, 0 :: unused⟩) := by
  have ends : ∀ byte ∈ (0 :: unused).head?, delimiter byte = false := by simpa using notNul
  rw [strtok, array, takeWhile_prefix skipped ends, dropWhile_prefix skipped ends]
  rfl

theorem strtok_word {gap word after : List UInt8} {last : UInt8} (skipped : ∀ byte ∈ gap, delimiter byte = true)
    (nonempty : word ≠ []) (kept : ∀ byte ∈ word, (!delimiter byte && byte != 0) = true)
    (ends : (!delimiter last && last != 0) = false) (array : cursor.rest = gap ++ (word ++ last :: after)) :
    strtok delimiter cursor = some (some word,
      if last = 0 then ⟨cursor.passed ++ gap ++ word, last :: after⟩
      else ⟨cursor.passed ++ gap ++ word ++ [0], after⟩) := by
  obtain ⟨first, rest, rfl⟩ := List.exists_cons_of_ne_nil nonempty
  obtain ⟨notDelimiter, notZero⟩ : delimiter first = false ∧ first ≠ 0 := by simpa using kept first List.mem_cons_self
  have starts : ∀ byte ∈ (first :: rest ++ last :: after).head?, delimiter byte = false := by simpa using notDelimiter
  have stops : ∀ byte ∈ (last :: after).head?, (!delimiter byte && byte != 0) = false := by simpa using ends
  rw [strtok, array, takeWhile_prefix skipped starts, dropWhile_prefix skipped starts]
  simp only [List.cons_append, notZero, if_false]
  rw [← List.cons_append, takeWhile_prefix kept stops, dropWhile_prefix kept stops]
  by_cases zero : last = 0
  · simp [zero]
  · simp [zero]

/-- One call gives out the first of the tokens that are left, if there is one. -/
theorem strtok_pending {tokens : List (List UInt8)} (notNul : delimiter 0 = false)
    (pending : Pending delimiter tokens cursor) :
    ∃ text after, 0 ∉ text ∧ words delimiter text = tokens.take 1 ∧ Settled (cursor.passed ++ text) after ∧
      strtok delimiter cursor = some (tokens.head?, after) ∧ (∀ token ∈ tokens.head?, 0 ∉ token) ∧
      Pending delimiter tokens.tail after := by
  obtain ⟨text, ⟨noNul, unused, array⟩, rfl⟩ := pending
  obtain ⟨skipped, blank⟩ | ⟨gap, word, after, rfl, skipped, nonempty, kept, ends, split⟩ := words_cases delimiter text
  · rw [blank]
    refine ⟨text, _, noNul, blank, .inr ⟨rfl, unused, rfl⟩, strtok_gap notNul skipped array, by simp, ?_⟩
    exact ⟨[], ⟨List.not_mem_nil, unused, rfl⟩, words_nil⟩
  · rw [split]
    simp only [List.mem_append, not_or] at noNul
    obtain ⟨gapNoNul, wordNoNul, afterNoNul⟩ := noNul
    have inside : ∀ byte ∈ word, (!delimiter byte && byte != 0) = true := by
      intro byte here
      simp only [kept byte here, Bool.not_false, Bool.true_and, bne_iff_ne]
      exact fun zero => wordNoNul (zero ▸ here)
    have textNoNul : 0 ∉ gap ++ word := by simp [gapNoNul, wordNoNul]
    have single : words delimiter (gap ++ word) = [word] := by rw [words_gap skipped, words_run nonempty kept]
    have headNoNul : ∀ token ∈ some word, 0 ∉ token := by simpa using wordNoNul
    cases after with
    | nil =>
      rw [List.append_nil, List.append_assoc] at array
      refine ⟨gap ++ word, _, textNoNul, single, .inr ⟨?_, unused, ?_⟩,
        strtok_word skipped nonempty inside (by simp) array, headNoNul, [], ⟨List.not_mem_nil, unused, rfl⟩, rfl⟩
      · exact List.append_assoc ..
      · rfl
    | cons last after =>
      have cut : delimiter last = true := ends last rfl
      simp only [List.mem_cons, not_or] at afterNoNul
      obtain ⟨notZero, afterNoNul⟩ := afterNoNul
      rw [List.append_assoc, List.append_assoc, List.cons_append] at array
      refine ⟨gap ++ word, _, textNoNul, single, .inl ⟨[], ?_⟩,
        strtok_word skipped nonempty inside (by simp [cut]) array, headNoNul, after, ⟨afterNoNul, unused, ?_⟩, ?_⟩
      · rw [if_neg (Ne.symm notZero)]
        simp
      · rw [if_neg (Ne.symm notZero)]
      · rw [List.tail_cons, words_cons cut]

theorem strtok_passed {after : Cursor} {tokenPtr : Option (List UInt8)}
    (found : strtok delimiter cursor = some (tokenPtr, after)) : cursor.passed <+: after.passed := by
  simp only [strtok] at found
  split at found
  next outside => cases found
  next first start _ =>
    split at found
    next ended => cases found; exact List.prefix_append ..
    next token =>
      split at found
      next outside => cases found
      next last rest _ =>
        split at found
        next ended => cases found; simp only [List.append_assoc, List.prefix_append]
        next cut => cases found; simp only [List.append_assoc, List.prefix_append]

/-- The array keeps its size. -/
theorem strtok_length {after : Cursor} {tokenPtr : Option (List UInt8)}
    (found : strtok delimiter cursor = some (tokenPtr, after)) : after.length = cursor.length := by
  have skipped := congrArg List.length (@List.takeWhile_append_dropWhile _ delimiter cursor.rest)
  simp only [List.length_append] at skipped
  simp only [strtok] at found
  split at found
  next outside => cases found
  next first start begun =>
    rw [begun] at skipped
    split at found
    next ended =>
      cases found
      simp only [Cursor.length, List.length_append]
      omega
    next token =>
      have taken := congrArg List.length
        (@List.takeWhile_append_dropWhile _ (fun byte => !delimiter byte && byte != 0) (first :: start))
      split at found
      next outside => cases found
      next last rest finished =>
        rw [finished] at taken
        simp only [List.length_append] at taken
        split at found
        next ended =>
          cases found
          simp only [Cursor.length, List.length_append]
          omega
        next cut =>
          cases found
          simp only [Cursor.length, List.length_append, List.length_cons] at taken skipped ⊢
          simp only [List.length_nil]
          omega

/-- Later calls leave what is settled alone. -/
theorem Settled.strtok {text : List UInt8} {after : Cursor} {tokenPtr : Option (List UInt8)} (notNul : delimiter 0 = false)
    (settled : Settled text cursor) (found : strtok delimiter cursor = some (tokenPtr, after)) : Settled text after := by
  rcases settled with ⟨more, passed⟩ | ⟨passed, unused, rest⟩
  · obtain ⟨further, grown⟩ := strtok_passed found
    exact .inl ⟨more ++ further, by rw [← grown, passed, List.append_assoc, List.cons_append]⟩
  · have gap : ∀ byte ∈ ([] : List UInt8), delimiter byte = true := by simp
    rw [strtok_gap notNul gap rest] at found
    cases found
    exact .inr ⟨by simpa using passed, unused, rfl⟩

theorem Settled.holds {text : List UInt8} (noNul : 0 ∉ text) (settled : Settled text cursor) :
    Holds text (cursor.passed ++ cursor.rest) := by
  rcases settled with ⟨more, passed⟩ | ⟨passed, unused, rest⟩
  · exact ⟨noNul, more ++ cursor.rest, by rw [passed, List.append_assoc, List.cons_append]⟩
  · exact ⟨noNul, unused, by rw [passed, rest]⟩

end Tokens

section Strings
variable {text : List UInt8} {size : Nat}

/-- A terminator is copied exactly if the string is shorter than the array. -/
theorem strncpy_short (short : text.length < size) :
    strncpy text size = text ++ 0 :: .replicate (size - text.length - 1) 0 := by
  have padded : size - text.length = size - text.length - 1 + 1 := by omega
  rw [strncpy, List.take_of_length_le (Nat.le_of_lt short), List.rightpad, padded, List.replicate_succ]
  rfl

theorem strncpy_long (long : size ≤ text.length) : strncpy text size = text.take size := by
  have filled : (text.take size).length = size := List.length_take_of_le long
  rw [strncpy, List.rightpad, filled, Nat.sub_self, List.replicate_zero, List.append_nil]

theorem sameString_eq {literal unused : List UInt8} (noNul : 0 ∉ text) (plain : 0 ∉ literal) :
    sameString (text ++ 0 :: unused) literal = some (decide (text = literal)) := by
  induction text generalizing literal with
  | nil =>
    cases literal with
    | nil => rfl
    | cons char literal =>
      have different : (0 : UInt8) ≠ char := fun same => plain (same ▸ List.mem_cons_self)
      simp [sameString, different]
  | cons byte text ih =>
    simp only [List.mem_cons, not_or] at noNul
    cases literal with
    | nil => simp [sameString, Ne.symm noNul.1]
    | cons char literal =>
      simp only [List.mem_cons, not_or] at plain
      by_cases same : byte = char
      · simp [sameString, same, ih noNul.2 plain.2]
      · simp [sameString, same]

@[simp] theorem tolower_eq_zero {byte : UInt8} : tolower byte = 0 ↔ byte = 0 := by
  rw [tolower]
  split
  · grind
  · rfl

/-- A string is not two different words at once. -/
theorem equalIgnoringCase_unique {first second : List UInt8} (different : first.map tolower ≠ second.map tolower)
    (same : equalIgnoringCase text first = true) : equalIgnoringCase text second = false := by
  simp only [equalIgnoringCase, decide_eq_true_eq, decide_eq_false_iff_not] at same ⊢
  exact same ▸ different

end Strings

section Lines
variable {array line input : List UInt8} {size : Nat}

theorem takeLine_line {limit : Nat} (unbroken : newline ∉ line) (short : line.length < limit) :
    takeLine limit (line ++ newline :: input) = (line ++ [newline], input) := by
  induction line generalizing limit with
  | nil =>
    cases limit with
    | zero => cases short
    | succ limit => simp [takeLine]
  | cons byte line ih =>
    cases limit with
    | zero => cases short
    | succ limit =>
      simp only [List.mem_cons, not_or] at unbroken
      rw [List.cons_append, takeLine, if_neg (Ne.symm unbroken.1), ih unbroken.2 (Nat.lt_of_succ_lt_succ short)]
      rfl

theorem takeLine_last {limit : Nat} (unbroken : newline ∉ line) (short : line.length ≤ limit) :
    takeLine limit line = (line, []) := by
  induction line generalizing limit with
  | nil => cases limit <;> rfl
  | cons byte line ih =>
    cases limit with
    | zero => cases short
    | succ limit =>
      simp only [List.mem_cons, not_or] at unbroken
      rw [takeLine, if_neg (Ne.symm unbroken.1), ih unbroken.2 (Nat.le_of_succ_le_succ short)]

theorem fgets_line (noNul : 0 ∉ line) (unbroken : newline ∉ line) (short : line.length + 1 < size) :
    ∃ filled, fgets array size (line ++ newline :: input) = (filled, input) ∧ Holds (line ++ [newline]) filled := by
  have read : takeLine (size - 1) (line ++ newline :: input) = (line ++ [newline], input) :=
    takeLine_line unbroken (by omega)
  refine ⟨line ++ [newline] ++ 0 :: array.drop ((line ++ [newline]).length + 1), ?_, ?_, _, rfl⟩
  · rw [fgets, read]
    exact if_neg (by simp)
  · simpa [newline] using noNul

theorem fgets_last (noNul : 0 ∉ line) (unbroken : newline ∉ line) (nonempty : line ≠ []) (short : line.length < size) :
    ∃ filled, fgets array size line = (filled, []) ∧ Holds line filled := by
  have read : takeLine (size - 1) line = (line, []) := takeLine_last unbroken (by omega)
  refine ⟨line ++ 0 :: array.drop (line.length + 1), ?_, noNul, _, rfl⟩
  rw [fgets, read]
  exact if_neg nonempty

theorem takeLine_length (limit : Nat) (input : List UInt8) : (takeLine limit input).1.length ≤ limit := by
  fun_induction takeLine limit input with
  | case1 => exact Nat.zero_le _
  | case2 => exact Nat.zero_le _
  | case3 => simp
  | case4 limit byte input other line rest read ih =>
    rw [read] at ih
    exact Nat.succ_le_succ ih

/-- No line is too long for the array. -/
theorem fgets_length (positive : 0 < size) (fits : size ≤ array.length) (input : List UInt8) :
    (fgets array size input).1.length = array.length := by
  have bounded := takeLine_length (size - 1) input
  simp only [fgets]
  split
  next => rfl
  next =>
    simp only [List.length_append, List.length_cons, List.length_drop]
    omega

theorem fgets_end : fgets array size [] = (array, []) := by
  rw [fgets, takeLine_last List.not_mem_nil (Nat.zero_le _)]
  rfl

end Lines

end CString
