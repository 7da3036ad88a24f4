import GenericFss.Checkout

/-! The checkout tool's command scan. It works on a copy of the token in an array of
fixed size, and the copy ends in a terminator only if the token is shorter than that. -/

namespace GenericFss.Proofs.CheckoutCommand
open CString Checkout

/-- What `fss_get_command` means to return. -/
def commandCode (token : List UInt8) : Int :=
  if equalIgnoringCase token (literal "help") then cmdHelp
  else if equalIgnoringCase token (literal "exit") then cmdExit
  else if equalIgnoringCase token (literal "fss") ∨ equalIgnoringCase token (literal "f") then cmdGenericFss
  else cmdUnknown

section Scan
variable {token : List UInt8}

theorem fssToLower_string {text unused : List UInt8} (noNul : 0 ∉ text) :
    fssToLower (text ++ 0 :: unused) = some (text.map tolower ++ 0 :: unused) := by
  induction text with
  | nil => rfl
  | cons byte text ih =>
    simp only [List.mem_cons, not_or] at noNul
    rw [List.cons_append, fssToLower, if_neg (Ne.symm noNul.1), ih noNul.2]
    rfl

/-- Without a terminator the scan leaves the array. -/
theorem fssToLower_unterminated {array : List UInt8} (noNul : 0 ∉ array) : fssToLower array = none := by
  induction array with
  | nil => rfl
  | cons byte array ih =>
    simp only [List.mem_cons, not_or] at noNul
    rw [fssToLower, if_neg (Ne.symm noNul.1), ih noNul.2]
    rfl

theorem fssGetCommand_short (noNul : 0 ∉ token) (short : token.length < maxInputTokenSize) :
    fssGetCommand token = some (commandCode token) := by
  have lowered : 0 ∉ token.map tolower := by
    simp only [List.mem_map, tolower_eq_zero, not_exists, not_and]
    exact fun byte here zero => noNul (zero ▸ here)
  have compare (name : String) (plain : 0 ∉ literal name) (lower : (literal name).map tolower = literal name)
      (unused : List UInt8) :
      sameString (token.map tolower ++ 0 :: unused) (literal name) = some (equalIgnoringCase token (literal name)) := by
    rw [sameString_eq lowered plain, equalIgnoringCase, lower]
  rw [fssGetCommand, strncpy_short short, fssToLower_string noNul]
  simp only [Option.bind_eq_bind, Option.bind_some, Option.pure_def, compare "help" (by decide) (by decide),
    compare "exit" (by decide) (by decide), compare "fss" (by decide) (by decide), compare "f" (by decide) (by decide)]
  grind [commandCode]

theorem fssGetCommand_long (noNul : 0 ∉ token) (long : maxInputTokenSize ≤ token.length) : fssGetCommand token = none := by
  have copied : 0 ∉ token.take maxInputTokenSize := fun here => noNul (List.mem_of_mem_take here)
  rw [fssGetCommand, strncpy_long long, fssToLower_unterminated copied]
  rfl

end Scan

section Names
variable {token : List UInt8}

theorem commandCode_help : commandCode token = cmdHelp ↔ equalIgnoringCase token (literal "help") = true := by
  grind [commandCode, cmdHelp, cmdExit, cmdGenericFss, cmdUnknown]

theorem commandCode_exit : commandCode token = cmdExit ↔ equalIgnoringCase token (literal "exit") = true := by
  have notHelp : equalIgnoringCase token (literal "exit") = true → equalIgnoringCase token (literal "help") = false :=
    equalIgnoringCase_unique (by decide)
  grind [commandCode, cmdHelp, cmdExit, cmdGenericFss, cmdUnknown]

theorem commandCode_fss : commandCode token = cmdGenericFss ↔
    equalIgnoringCase token (literal "fss") = true ∨ equalIgnoringCase token (literal "f") = true := by
  have other (short long : String) (different : (literal short).map tolower ≠ (literal long).map tolower) :
      equalIgnoringCase token (literal short) = true → equalIgnoringCase token (literal long) = false :=
    equalIgnoringCase_unique different
  have fss := other "fss"
  have f := other "f"
  grind [commandCode, cmdHelp, cmdExit, cmdGenericFss, cmdUnknown, fss "help" (by decide), fss "exit" (by decide),
    f "help" (by decide), f "exit" (by decide)]

end Names

/-- Every access of the scan lies in the copy of the token. -/
def InBounds (token : List UInt8) : Prop := fssGetCommand token ≠ none

theorem inBounds_iff (token : List UInt8) (noNul : 0 ∉ token) : InBounds token ↔ token.length < maxInputTokenSize := by
  constructor
  · intro inside
    refine Nat.lt_of_not_le ?_
    exact fun long => inside (fssGetCommand_long noNul long)
  · intro short
    rw [InBounds, fssGetCommand_short noNul short]
    exact Option.some_ne_none _

theorem inBounds_fss : InBounds (literal "FSS") :=
  (inBounds_iff (literal "FSS") (by decide)).mpr (by decide)

/-- The main loop passes on every token of a line, however long. -/
theorem inBounds_fails : ¬ ∀ token : List UInt8, token ≠ [] → token.length < maxInputBuf →
    (∀ byte ∈ token, byte ≠ 0 ∧ isDelimiter byte = false) → InBounds token := by
  intro claimed
  have letters : ∀ byte ∈ List.replicate maxInputTokenSize 0x61, byte ≠ 0 ∧ isDelimiter byte = false := by
    intro byte here
    rw [List.eq_of_mem_replicate here]
    decide
  have inside : InBounds (.replicate maxInputTokenSize 0x61) := claimed _ (by decide) (by decide) letters
  exact inside (fssGetCommand_long (fun here => (letters 0 here).1 rfl) (by decide))

end GenericFss.Proofs.CheckoutCommand
