import Virtio9p.Foundation.ShellWords
import Virtio9p.Scripts.QemuCommon

/-!
# run_under_qnx.sh

The fragment with the test arguments, and how `run_test.sh` sources it in the guest.
-/
namespace Virtio9p

/-- `'\''` -/
def sqEscape : Bytes := [39, 92, 39, 39]

/-- `${arg//\'/${SQ_ESCAPE}}` -/
def escapeQuotes (arg : Bytes) : Bytes := arg.flatMap fun c => if c = 39 then sqEscape else [c]

/-- `printf " '%s'"` -/
def quotedArg (arg : Bytes) : Bytes := [32, 39] ++ escapeQuotes arg ++ [39]

/-- `"set"` -/
def setWord : Bytes := [115, 101, 116]

/-- `"--"` -/
def endOfOptions : Bytes := [45, 45]

def argsFragment (args : List Bytes) : Bytes :=
  setWord ++ [32] ++ endOfOptions ++ args.flatMap quotedArg ++ [10]

/-- Without arguments no fragment is written. -/
def writeExtraArgs (testArgs : List Bytes) (d : ShareDir) : ShareDir :=
  if testArgs.length > 0 then { d with extraArgs := some (argsFragment testArgs) } else d

/-! ### The guest -/

/-- One command; the model knows `set --` only. -/
def execCommand (_ : List Bytes) : List Bytes → Option (List Bytes)
  | command :: option :: args =>
    if command = setWord ∧ option = endOfOptions then some args else none
  | _ => none

def sourceArgs (text : Bytes) (params : List Bytes) : Option (List Bytes) :=
  (ShellWords.readCommands text).bind fun commands => commands.foldlM execCommand params

/-- The positional parameters that `run_test.sh` passes to the test binary. -/
def runTestParams (d : ShareDir) : Option (List Bytes) :=
  match d.extraArgs with
  | none => some []
  | some text => sourceArgs text []

end Virtio9p
