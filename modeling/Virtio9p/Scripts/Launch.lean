import Virtio9p.Foundation.Commands
import Virtio9p.Resmgr.ParseArgs
import Virtio9p.Scripts.RunTest

/-!
# run_qemu.sh and run_under_qnx.sh

The launch scripts: they fill the shared directory, run the machine, and exit with the status that
the guest left behind. A command that fails ends the script, so what it leaves half done is read by
nobody.
-/
namespace Virtio9p

/-! ### Names -/

/-- `"FSDEV_PATH"` -/
def fsdevPath : Bytes := [70, 83, 68, 69, 86, 95, 80, 65, 84, 72]

/-- `"FSDEV_PATH_CREATED"` -/
def fsdevPathCreated : Bytes := fsdevPath ++ [95, 67, 82, 69, 65, 84, 69, 68]

/-- `"SCRIPT_DIR"` -/
def scriptDirVar : Bytes := [83, 67, 82, 73, 80, 84, 95, 68, 73, 82]

/-- `"IFS_IMAGE"` -/
def ifsImageVar : Bytes := [73, 70, 83, 95, 73, 77, 65, 71, 69]

/-- `"/init.ifs"` -/
def initIfs : Bytes := [47, 105, 110, 105, 116, 46, 105, 102, 115]

/-- `"TEST_IMAGE"` -/
def testImageVar : Bytes := [84, 69, 83, 84, 95, 73, 77, 65, 71, 69]

/-- `"TEST_BINARY"` -/
def testBinaryVar : Bytes := [84, 69, 83, 84, 95, 66, 73, 78, 65, 82, 89]

/-- `"TEST_ARGS"` -/
def testArgsVar : Bytes := [84, 69, 83, 84, 95, 65, 82, 71, 83]

/-- `"SQ_ESCAPE"` -/
def sqEscapeVar : Bytes := [83, 81, 95, 69, 83, 67, 65, 80, 69]

/-- `"arg"` -/
def argVar : Bytes := [97, 114, 103]

/-- `"XML_OUTPUT_FILE"` -/
def xmlOutputFile : Bytes := [88, 77, 76, 95, 79, 85, 84, 80, 85, 84, 95, 70, 73, 76, 69]

/-- `"COVERAGE_DIR"` -/
def coverageDir : Bytes := [67, 79, 86, 69, 82, 65, 71, 69, 95, 68, 73, 82]

/-- `"TEST_UNDECLARED_OUTPUTS_DIR"` -/
def testUndeclaredOutputsDir : Bytes :=
  [84, 69, 83, 84, 95, 85, 78, 68, 69, 67, 76, 65, 82, 69, 68, 95, 79, 85, 84, 80, 85, 84, 83,
    95, 68, 73, 82]

/-! ### Shell builtins -/

/-- The digits of a number and whether it is negative. -/
def signed : Bytes → Bool × Bytes
  | 45 :: digits => (true, digits)
  | 43 :: digits => (false, digits)
  | digits => (false, digits)

/-- A decimal number of 64 bits, blanks around it. -/
def legalNumber (word : Bytes) : Option Int :=
  let word := (word.dropWhile isSpace).rdropWhile fun c => c = 32 ∨ c = 9
  let (negative, digits) := signed word
  let number : Int := if negative then -Decimal.value digits else Decimal.value digits
  if digits ≠ [] ∧ digits.all Decimal.isDigit ∧ -9223372036854775808 ≤ number ∧
      number ≤ 9223372036854775807 then some number
  else none

/-- `exit` with a word: a status of 8 bits, 2 for what is no number. -/
def exitWord (word : Bytes) : UInt8 :=
  match legalNumber word with
  | none => 2
  | some number => UInt8.ofNat (number % 256).toNat

/-- A word that `echo` takes for options. -/
def isEchoOption : Bytes → Bool
  | 45 :: flags => flags ≠ [] && flags.all fun c => c = 110 ∨ c = 101 ∨ c = 69
  | _ => false

/-- `echo` with one word. -/
def echo (word : Bytes) : Bytes :=
  if isEchoOption word then if 110 ∈ word then [] else [10] else word ++ [10]

/-! ### The scripts -/

/-- What `TEST_IMAGE` unpacks to. -/
structure TestImage where
  testBinary : Bytes
  filters : Bytes
  runfiles : Option Files
  libs : Option Files

/-- A variable that is set and not empty. -/
def Variables.nonempty (vars : Variables) (name : Bytes) : Bool := (vars name).getD [] ≠ []

inductive Runner where
  | runQemu (image : TestImage)
  /-- `none`: there is no file `TEST_BINARY`. -/
  | runUnder (testBinary : Option Bytes) (testArgs : List Bytes) (tree : RunfilesTree)

/-- The paths that a script is started with or finds. -/
structure ScriptPaths where
  /-- The directory that the script is in. -/
  scriptDir : Bytes
  /-- The first word of `run_qemu.sh`. -/
  ifsImage : Bytes
  /-- The word with the test: the image of `run_qemu.sh`, the binary of `run_under_qnx.sh`. -/
  test : Bytes
  /-- The directory that `mktemp` makes. -/
  made : Bytes

structure Caller where
  vars : Variables
  /-- The variables of the script that the shell maintains. -/
  own : OwnVariables
  paths : ScriptPaths
  /-- The directory `FSDEV_PATH`, if there is one. -/
  share : Option Share

/-! ### The variables of the scripts -/

/-- Assignments, one behind the other. -/
def Variables.assign (vars : Variables) (assignments : List (Bytes × Option Bytes)) : Variables :=
  assignments.foldl (fun vars pair => Function.update vars pair.1 pair.2) vars

/-- Without a directory of the caller `qemu_setup_fsdev` makes one. -/
def Caller.fsdevAssignments (caller : Caller) : List (Bytes × Option Bytes) :=
  if caller.vars.nonempty fsdevPath then []
  else [(fsdevPath, some caller.paths.made), (fsdevPathCreated, some [49])]

/-- What a script has assigned when the forwarded variables are looked up. -/
def Runner.assignments (caller : Caller) : Runner → List (Bytes × Option Bytes)
  | .runQemu _ =>
    [(scriptDirVar, some caller.paths.scriptDir), (ifsImageVar, some caller.paths.ifsImage),
      (testImageVar, some caller.paths.test)] ++ caller.fsdevAssignments
  | .runUnder _ testArgs _ =>
    [(scriptDirVar, some caller.paths.scriptDir),
      (ifsImageVar, some (caller.paths.scriptDir ++ initIfs)),
      (testBinaryVar, some caller.paths.test),
      -- an array: without arguments it has no first element
      (testArgsVar, testArgs.head?)] ++
    caller.fsdevAssignments ++ [(sqEscapeVar, some sqEscape)] ++
    -- the loop that quotes the arguments
    testArgs.map fun arg => (argVar, some arg)

/-- The variables of the script when the forwarded ones are looked up. -/
def Runner.variables (caller : Caller) (runner : Runner) : Variables :=
  caller.vars.assign (runner.assignments caller)

/-- The statuses that the commands come back with. -/
structure HostOutcomes where
  mktemp : UInt8
  removeEntries : UInt8
  makeDirectory : UInt8
  unpackImage : UInt8
  copyBinary : UInt8
  writeFilters : UInt8
  writeArgs : UInt8
  writeEnv : UInt8
  copyRunfiles : UInt8
  setupAccel : UInt8
  qemu : UInt8
  sedPrintable : UInt8
  sedReturn : UInt8
  copyXml : UInt8
  showLog : UInt8
  unpackUndeclared : UInt8
  unpackCoverage : UInt8
  readReturnCode : UInt8
  removeShare : UInt8

structure Launch where
  /-- What is at `FSDEV_PATH`. -/
  share : Option Share
  /-- `FSDEV_PATH_CREATED` is 1. -/
  created : Bool
  /-- The machine as QEMU left it. -/
  vm : Option Guest
  /-- The file `XML_OUTPUT_FILE`. -/
  xml : Option Bytes
  /-- What is printed of the log. -/
  log : Bytes
  /-- The archive that is unpacked to `TEST_UNDECLARED_OUTPUTS_DIR`. -/
  undeclared : Option Bytes
  /-- The archive that is unpacked to `COVERAGE_DIR`. -/
  coverage : Option Bytes

def Launch.start (caller : Caller) : Launch :=
  ⟨if caller.vars.nonempty fsdevPath then caller.share else none,
    caller.vars fsdevPathCreated = some [49], none, none, [], none, none⟩

section Host

open Script

variable (o : HostOutcomes)

def Launch.inShare (change : Share → Share) (l : Launch) : Launch :=
  { l with share := l.share.map change }

/-- `qemu_setup_fsdev` -/
def qemuSetupFsdev (caller : Caller) : Script Launch :=
  sequence
    [if caller.vars.nonempty fsdevPath then command o.removeEntries (Launch.inShare Share.cleared)
      else command o.mktemp fun l => { l with share := some .empty, created := true },
      command o.makeDirectory fun l => { l with share := some (l.share.getD .empty) }]

/-- `qemu_cleanup_fsdev` -/
def qemuCleanupFsdev : Script Launch := fun l =>
  (if l.created then command o.removeShare fun l => { l with share := none } else act id) l

/-- `qemu_write_forwarded_env` -/
def qemuWriteForwardedEnv (printfQ : Bytes → Bytes) (caller : Caller) (runner : Runner) :
    Script Launch :=
  fun l =>
    let written (s : Share) :=
      writeForwardedEnv printfQ caller.own (runner.variables caller) s.fragments
    let status := l.share.elim 0 fun s => UInt8.ofNat (written s).1
    sequence
      [command o.writeEnv id,
        act (Launch.inShare fun s => { s with fragments := (written s).2 }),
        command status id] l

/-- The file with the filter. -/
def filterFile (vars : Variables) : Bytes :=
  if vars.nonempty gtestFilter then echo ((vars gtestFilter).getD []) else [45, 10]

/-- What the script puts into the shared directory before the forwarded variables are written. -/
def populate (caller : Caller) : Runner → Script Launch
  | .runQemu image =>
    command o.unpackImage (Launch.inShare fun s =>
      { s with
        testBinary := some image.testBinary, filters := some image.filters,
        runfiles := image.runfiles, libs := image.libs })
  | .runUnder testBinary testArgs _ =>
    sequence
      [command o.copyBinary (Launch.inShare fun s => { s with testBinary }),
        command o.writeFilters
          (Launch.inShare fun s => { s with filters := some (filterFile caller.vars) }),
        command o.writeArgs
          (Launch.inShare fun s => { s with fragments := writeExtraArgs testArgs s.fragments })]

/-- The runfiles come behind the forwarded variables. -/
def populateRunfiles (collates : Bytes → Bytes → Prop) [DecidableRel collates] :
    Runner → Script Launch
  | .runQemu _ => act id
  | .runUnder _ _ tree => command o.copyRunfiles (Launch.inShare (copyRunfiles collates tree))

/-- Under `set -u` a variable that is not set ends the script. -/
def needVar (caller : Caller) (name : Bytes) : Script Launch :=
  command (if (caller.vars name).isSome then 0 else 1) id

/-- Use a file if it is there. -/
def withFile (file : Option Bytes) (use : Bytes → List (Script Launch)) : Script Launch :=
  match file with
  | none => act id
  | some content => sequence (use content)

/-- `sed 's/[^[:print:]]//g; s/\r//'` takes bytes away from the log. -/
abbrev Printed := Bytes → Bytes

/-- `qemu_extract_results` up to the status. -/
def extractFiles (printed : Printed) (caller : Caller) (r : ResultFiles) : Script Launch :=
  sequence
    [withFile r.testXml fun content =>
        [needVar caller xmlOutputFile, command o.copyXml fun l => { l with xml := some content }],
      withFile r.testOutput fun content =>
        [command o.showLog fun l => { l with log := l.log ++ printed content }],
      withFile r.coverage fun archive =>
        [needVar caller testUndeclaredOutputsDir,
          command o.unpackUndeclared fun l => { l with undeclared := some archive },
          if caller.vars.nonempty coverageDir then
            command o.unpackCoverage fun l => { l with coverage := some archive }
          else act id]]

/-- The status that `returncode.log` stands for. -/
def returnStatus (text : Bytes) : UInt8 :=
  let rc := commandOutput text
  if rc = [] then 1 else exitWord rc

/-- The end of `qemu_extract_results`. -/
def exitWithCode (returncode : Option Bytes) : Script Launch :=
  match returncode with
  | none => Attempt.fail 1
  | some text => (command o.readReturnCode id).bind fun _ => Attempt.fail (returnStatus text)

/-- `qemu_extract_results` -/
def qemuExtractResults (printed : Printed) (caller : Caller) : Script Launch := fun l =>
  let r := (l.share.bind Share.testResults).getD .empty
  (extractFiles o printed caller r).bind (fun _ => exitWithCode o r.returncode) l

/-- QEMU and what its output is piped through. -/
def runMachine (machine : Share → Guest) : Script Launch :=
  sequence
    [act fun l =>
        let vm := l.share.map machine
        { l with vm, share := vm.map Guest.share },
      command (pipefail [o.qemu, o.sedPrintable, o.sedReturn]) id]

/-- The launch scripts; `machine` is the run of the guest. -/
def launch (printfQ : Bytes → Bytes) (printed : Printed) (collates : Bytes → Bytes → Prop)
    [DecidableRel collates] (caller : Caller) (runner : Runner) (machine : Share → Guest) :
    Script Launch :=
  trapExit (qemuCleanupFsdev o)
    ((sequence
      [qemuSetupFsdev o caller, populate o caller runner,
        qemuWriteForwardedEnv o printfQ caller runner, populateRunfiles o collates runner,
        command o.setupAccel id, runMachine o machine]).bind
      fun _ => qemuExtractResults o printed caller)

/-- `run_under_qnx.sh` looks for the test binary before it traps its exit. -/
def runScript (printfQ : Bytes → Bytes) (printed : Printed) (collates : Bytes → Bytes → Prop)
    [DecidableRel collates] (caller : Caller) (runner : Runner) (machine : Share → Guest) :
    Script Launch :=
  match runner with
  | .runUnder none _ _ => Attempt.fail 1
  | runner => launch o printfQ printed collates caller runner machine

end Host

end Virtio9p
