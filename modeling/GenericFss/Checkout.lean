import GenericFss.Library.CString
import GenericFss.Library.Loop
import GenericFss.Device

/-! The standalone checkout tool: a command loop over its standard input that
calls the driver directly. `none` is an access outside one of its arrays. -/

namespace GenericFss.Checkout
open CString

def prompt : String := "generic_fss> "
def maxInputBuf : Nat := 512
def maxInputTokens : Nat := 64
def maxInputTokenSize : Nat := 50

def cmdUnknown : Int := -1
def cmdHelp : Int := 0
def cmdExit : Int := 1
def cmdGenericFss : Int := 4

def helpText : String :=
  prompt ++ "command [args]\n" ++
    "---------------------------------------------------------------------\n" ++
    "help                               - Display help                    \n" ++
    "exit                               - Exit app                        \n" ++
    "fss                                - Request generic_fss data        \n" ++
    "  f                                - ^                               \n" ++
    "\n"

def invalidFormat : String := "Invalid command format, type 'help' for more info\n"

/-- The variables of `main` and the two globals. Nothing reads `input_tokens`: the
stores into it are kept instead, each with its index. `executed` lists the command
codes and token counts handed to `fss_process_command`; the program never reads it. -/
structure Main (σ : Type) where
  fssSpi : Bus σ
  fssData : Device.DeviceData
  inputBuf : List UInt8
  inputTokens : List (Int × List UInt8)
  stdin : List UInt8
  printed : List String
  runStatus : UInt8
  executed : List (Int × Int)

/-- A status assigned to the `uint8_t` that the loop tests. -/
def runStatusOf (status : Status) : UInt8 := status.toUInt32.toUInt8

def fssToLower : List UInt8 → Option (List UInt8)
  | [] => none
  | byte :: rest => if byte = 0 then some (byte :: rest) else (fssToLower rest).map (tolower byte :: ·)

def fssGetCommand (str : List UInt8) : Option Int := do
  let lcmd ← fssToLower (strncpy str maxInputTokenSize)
  if ← sameString lcmd (literal "help") then return cmdHelp
  if ← sameString lcmd (literal "exit") then return cmdExit
  if ← sameString lcmd (literal "fss") then return cmdGenericFss
  if ← sameString lcmd (literal "f") then return cmdGenericFss
  return cmdUnknown

section Commands
variable {σ : Type} (plat : Platform σ)

def Main.print (state : Main σ) (text : String) : Main σ := { state with printed := state.printed ++ [text] }

@[simp] theorem Main.print_inputBuf (state : Main σ) (text : String) : (state.print text).inputBuf = state.inputBuf := rfl

@[simp] theorem Main.print_inputTokens (state : Main σ) (text : String) :
    (state.print text).inputTokens = state.inputTokens := rfl

@[simp] theorem Main.print_stdin (state : Main σ) (text : String) : (state.print text).stdin = state.stdin := rfl

def fssPrintHelp (state : Main σ) : Main σ := state.print helpText

def fssCheckNumberArguments (actual expected : Int) (state : Main σ) : Status × Main σ :=
  if actual ≠ expected then (osError, state.print invalidFormat) else (osSuccess, state)

def fssProcessCommand (cc numTokens : Int) (state : Main σ) : Status × Main σ :=
  if cc = cmdHelp then (osSuccess, fssPrintHelp state)
  else if cc = cmdExit then (osError, state)
  else if cc = cmdGenericFss then
    let (checked, state) := fssCheckNumberArguments numTokens 0 state
    if checked = osSuccess then
      let (status, fssData, fssSpi) := Device.requestData plat state.fssData state.fssSpi
      let state := { state with fssData, fssSpi }
      if status = osSuccess then (osSuccess, state.print "GENERIC_FSS_RequestData command success.\n")
      else (osSuccess, state.print "GENERIC_FSS_RequestData command failed!\n")
    else (osSuccess, state)
  else (osSuccess, state.print invalidFormat)

end Commands

section Tokenizer

def isDelimiter (byte : UInt8) : Bool := (literal " \t\n").contains byte

structure Tokenizer where
  cursor : Cursor
  tokenPtr : Option (List UInt8)
  numInputTokens : Int
  cmd : Int
  inputTokens : List (Int × List UInt8)

/-- The first token is the command. The others are stored one index lower. -/
def Tokenizer.take (state : Tokenizer) (token : List UInt8) : Option Tokenizer := do
  let state ←
    if state.numInputTokens = -1 then (fssGetCommand token).map ({ state with cmd := · })
    else some { state with
      inputTokens := state.inputTokens ++ [(state.numInputTokens, strncpy token maxInputTokenSize)] }
  let (tokenPtr, cursor) ← strtok isDelimiter state.cursor
  return { state with tokenPtr, cursor, numInputTokens := state.numInputTokens + 1 }

/-- The inner loop. It counts from -1 to 64 at most, so `tokenizerRounds` tests of
its condition are enough. -/
def tokenize : Nat → Tokenizer → Option Tokenizer
  | 0, _ => none
  | rounds + 1, state =>
    if state.numInputTokens < maxInputTokens then
      match state.tokenPtr with
      | none => some state
      | some token => do tokenize rounds (← state.take token)
    else some state

def tokenizerRounds : Nat := maxInputTokens + 2

end Tokenizer

section Loop
variable {σ : Type} (plat : Platform σ)

/-- One round of the command loop. -/
def iteration (state : Main σ) : Option (Main σ) := do
  let state := state.print prompt
  let (inputBuf, stdin) := fgets state.inputBuf maxInputBuf state.stdin
  let (tokenPtr, cursor) ← strtok isDelimiter ⟨[], inputBuf⟩
  let tokens ← tokenize tokenizerRounds ⟨cursor, tokenPtr, -1, cmdUnknown, state.inputTokens⟩
  let state := { state with
    stdin
    inputBuf := tokens.cursor.passed ++ tokens.cursor.rest
    inputTokens := tokens.inputTokens }
  if 0 ≤ tokens.numInputTokens then
    let state := { state with executed := state.executed ++ [(tokens.cmd, tokens.numInputTokens)] }
    let (exitStatus, state) := fssProcessCommand plat tokens.cmd tokens.numInputTokens state
    return { state with runStatus := runStatusOf exitStatus }
  return state

def Main.runs (state : Main σ) : Bool := state.runStatus = runStatusOf osSuccess

/-- Everything before the command loop. The buffer on the stack is not initialized. -/
def startMain (world : σ) (inputBuf : Vector UInt8 maxInputBuf) (stdin : List UInt8) : Main σ :=
  let (status, fssSpi) := spiInitDev plat ⟨world, SpiInfo.zero.configure, []⟩
  let state : Main σ := ⟨fssSpi, ⟨0, 0, 0⟩, inputBuf.toList, [], stdin, [], runStatusOf osSuccess, []⟩
  let name := fssSpi.device.deviceString.getD "(null)"
  if status = osSuccess then
    fssPrintHelp (state.print ("SPI device " ++ name ++ " configured with baudrate " ++
      toString fssSpi.device.baudrate.toInt32 ++ " \n"))
  else
    fssPrintHelp { state.print ("SPI device " ++ name ++ " failed to initialize! \n") with
      runStatus := runStatusOf osError }

def stopMain (state : Main σ) : Main σ :=
  let (_, fssSpi) := spiCloseDevice plat state.fssSpi
  { state with fssSpi }.print "Cleanly exiting generic_fss application...\n\n"

/-- What the program has come to after at most this many rounds of the command loop. -/
def main (rounds : Nat) (world : σ) (inputBuf : Vector UInt8 maxInputBuf) (stdin : List UInt8) : Loop.Outcome (Main σ) :=
  (Loop.run Main.runs (iteration plat) rounds (startMain plat world inputBuf stdin)).finish (stopMain plat)

end Loop

end GenericFss.Checkout
