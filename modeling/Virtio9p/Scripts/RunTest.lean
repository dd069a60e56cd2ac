import Mathlib.Data.List.DropRight
import Virtio9p.Foundation.Decimal
import Virtio9p.Scripts.RunUnderQnx
import Virtio9p.Scripts.Runfiles

/-!
# run_test.sh

What the guest does when it has booted, line by line: `prepare_test.sh`, the test, and the copies of
its results to the shared directory, which it reads and writes as the host's own. The scripts go on
after a command that failed; the machine may stop behind any line.
-/
namespace Virtio9p

/-! ### The environment of the test -/

/-- `"GCOV_PREFIX"` -/
def gcovPrefix : Bytes := [71, 67, 79, 86, 95, 80, 82, 69, 70, 73, 88]

/-- `"GCOV_PREFIX_STRIP"` -/
def gcovPrefixStrip : Bytes := gcovPrefix ++ [95, 83, 84, 82, 73, 80]

/-- `"TEST_TMPDIR"` -/
def testTmpdir : Bytes := [84, 69, 83, 84, 95, 84, 77, 80, 68, 73, 82]

/-- `"GTEST_FILTER"` -/
def gtestFilter : Bytes := [71, 84, 69, 83, 84, 95, 70, 73, 76, 84, 69, 82]

/-- `"GTEST_OUTPUT"` -/
def gtestOutput : Bytes := [71, 84, 69, 83, 84, 95, 79, 85, 84, 80, 85, 84]

/-- `"LD_LIBRARY_PATH"` -/
def ldLibraryPath : Bytes := [76, 68, 95, 76, 73, 66, 82, 65, 82, 89, 95, 80, 65, 84, 72]

/-- `"QEMU_BUFFER_OUTPUT"` -/
def qemuBufferOutput : Bytes :=
  [81, 69, 77, 85, 95, 66, 85, 70, 70, 69, 82, 95, 79, 85, 84, 80, 85, 84]

/-- `"/persistent/"` -/
def persistentDirectory : Bytes := [47, 112, 101, 114, 115, 105, 115, 116, 101, 110, 116, 47]

/-- `"/persistent/coverage"` -/
def coverageDirectory : Bytes := persistentDirectory ++ [99, 111, 118, 101, 114, 97, 103, 101]

/-- `"/persistent/tmp"` -/
def tmpDirectory : Bytes := persistentDirectory ++ [116, 109, 112]

/-- `"xml:/persistent/test.xml"` -/
def xmlOutput : Bytes :=
  [120, 109, 108, 58] ++ persistentDirectory ++ [116, 101, 115, 116, 46, 120, 109, 108]

/-- `"/persistent/unit_tests/libs"` -/
def unitTestLibs : Bytes :=
  persistentDirectory ++ [117, 110, 105, 116, 95, 116, 101, 115, 116, 115, 47] ++ libsName

/-- `$(…)`: the newlines at the end are cut off. -/
def commandOutput (output : Bytes) : Bytes := output.rdropWhile (· = 10)

/-- The variables that `prepare_test.sh` sets itself. -/
def preparedVars (filter : Bytes) (vars : Variables) : Variables :=
  let vars := Function.update vars gcovPrefix (some coverageDirectory)
  let vars := Function.update vars gcovPrefixStrip (some [51])
  let vars := Function.update vars testTmpdir (some tmpDirectory)
  let vars := Function.update vars gtestFilter (some filter)
  let vars := Function.update vars gtestOutput (some xmlOutput)
  Function.update vars ldLibraryPath
    (some (unitTestLibs ++ 58 :: (vars ldLibraryPath).getD []))

/-- `prepare_test.sh` up to the forwarded variables; without a file `cat` prints nothing. -/
def exportedVars (s : Share) (vars : Variables) : Variables :=
  preparedVars (commandOutput (s.filters.getD [])) vars

/-- `${QEMU_BUFFER_OUTPUT:-0}` is 1. -/
def buffersOutput (vars : Variables) : Bool := vars qemuBufferOutput = some [49]

/-! ### The run -/

inductive GuestLine where
  | prepare
  | copyBinary
  | setParams
  | runTest
  | logReturnCode
  | makeResults
  | copyReturnCode
  | copyXml
  | awaitProcesses
  | copyOutput
  | archiveCoverage
  | shutdown
  | off
  deriving DecidableEq, Repr

/-- `"cc_test_qnx"` -/
def ccTestQnx : Bytes := [99, 99, 95, 116, 101, 115, 116, 95, 113, 110, 120]

/-- One look at the processes that are left. -/
structure Poll where
  /-- The lines of `pidin`. -/
  lines : List Bytes
  /-- What the processes that the test leaves behind print before the next look, or before the log
  is copied. -/
  output : Bytes

/-- `grep cc_test_qnx` finds a line. -/
def Poll.findsTest (p : Poll) : Bool :=
  p.lines.any fun line => line.tails.any fun tail => ccTestQnx.isPrefixOf tail

/-- How the test behaves. -/
structure TestOutcome where
  status : UInt8
  xml : Option Bytes
  /-- What is printed up to the first look at the processes. -/
  output : Bytes
  /-- The looks at the processes; behind the last one the log is copied. -/
  late : List Poll
  /-- The directory of coverage data, as it is archived. -/
  coverage : Option Bytes

/-- How the commands end. -/
structure GuestOutcomes where
  copyFiles : Written
  copyBinary : Written
  /-- Behind `chmod +x`. -/
  executable : Bool
  openLog : UInt8
  test : TestOutcome
  logReturnCode : Written
  makeResults : UInt8
  copyReturnCode : Written
  copyXml : Written
  copyOutput : Written
  archiveCoverage : Written

/-- A test that was run. -/
structure TestRun where
  binary : Bytes
  params : List Bytes
  vars : Variables
  files : Files
  status : UInt8

structure Guest where
  line : GuestLine
  vars : Variables
  params : List Bytes
  /-- The files below `/persistent/unit_tests`. -/
  unitTests : Files
  /-- `/persistent/unit_tests/cc_test_qnx` -/
  testBinary : Option Bytes
  ran : Option TestRun
  testRc : Option UInt8
  late : List Poll
  /-- `/persistent` -/
  persistent : ResultFiles
  /-- `/opt/tests` -/
  share : Share

def Guest.boot (vars : Variables) (share : Share) : Guest :=
  ⟨.prepare, vars, [], [], none, none, none, [], .empty, share⟩

/-- Copying the files, as far as it got. -/
def Written.files (w : Written) (files : Files) : Files :=
  if w.status = 0 then files else files.take (w.count.getD 0)

/-- `echo "${test_rc}"` -/
def Guest.echoedRc (g : Guest) : Bytes :=
  (g.testRc.elim [] fun rc => Decimal.numeral rc.toNat) ++ [10]

/-- The binary that the shell runs, or its status if it does not run one. -/
def Guest.startTest (o : GuestOutcomes) (g : Guest) : Except UInt8 Bytes :=
  if buffersOutput g.vars ∧ o.openLog ≠ 0 then .error 1
  else
    match g.testBinary with
    | none => .error 127
    -- a directory of that name is in the way of the copy
    | some binary =>
      if hasDirectory g.unitTests ccTestQnx || !o.executable then .error 126 else .ok binary

/-- The log is opened before the binary is looked for. -/
def Guest.openLog (o : GuestOutcomes) (g : Guest) : Guest :=
  { g with
    line := .logReturnCode
    persistent :=
      if buffersOutput g.vars ∧ o.openLog = 0 then
        { g.persistent with testOutput := some o.test.output }
      else g.persistent }

def Guest.execTest (o : GuestOutcomes) (binary : Bytes) (g : Guest) : Guest :=
  { g with
    ran := some ⟨binary, g.params, g.vars, g.unitTests, o.test.status⟩
    testRc := some o.test.status
    late := o.test.late
    persistent := { g.persistent with testXml := o.test.xml, coverage := o.test.coverage } }

def Guest.runTest (o : GuestOutcomes) (g : Guest) : Guest :=
  match g.startTest o with
  | .error status => { g.openLog o with testRc := some status }
  | .ok binary => (g.openLog o).execTest o binary

/-- Change the files in `test_results`, if there is the directory. -/
def Share.inResults (s : Share) (change : ResultFiles → ResultFiles) : Share :=
  { s with testResults := s.testResults.map change }

section Step

variable (readWord : Bytes → Option (Bytes × Bytes)) (o : GuestOutcomes)

def Guest.step (g : Guest) : Guest :=
  match g.line with
  | .prepare =>
    match prepareTest readWord g.share.fragments (exportedVars g.share g.vars) with
    -- the shell gives up at a fragment that it cannot read
    | none => { g with line := .off }
    | some vars =>
      { g with line := .copyBinary, vars, unitTests := o.copyFiles.files (prepareFiles g.share) }
  | .copyBinary =>
    { g with line := .setParams, testBinary := o.copyBinary.copy g.share.testBinary g.testBinary }
  | .setParams =>
    match runTestParams g.share.fragments with
    | none => { g with line := .off }
    | some params => { g with line := .runTest, params }
  | .runTest => g.runTest o
  | .logReturnCode =>
    { g with
      line := .makeResults
      persistent := { g.persistent with
        returncode := o.logReturnCode.file g.echoedRc g.persistent.returncode } }
  | .makeResults =>
    { g with
      line := .copyReturnCode
      share :=
        if o.makeResults = 0 then { g.share with testResults := some .empty } else g.share }
  | .copyReturnCode =>
    { g with
      line := .copyXml
      share := g.share.inResults fun r =>
        { r with returncode := o.copyReturnCode.copy g.persistent.returncode r.returncode } }
  | .copyXml =>
    { g with
      line := .awaitProcesses
      share := g.share.inResults fun r =>
        { r with testXml := o.copyXml.copy g.persistent.testXml r.testXml } }
  | .awaitProcesses =>
    match g.late with
    | [] => { g with line := .copyOutput }
    | poll :: late =>
      { g with
        -- other processes that the test leaves behind are not waited for
        line := if poll.findsTest then .awaitProcesses else .copyOutput
        late
        persistent := { g.persistent with
          testOutput := g.persistent.testOutput.map (· ++ poll.output) } }
  | .copyOutput =>
    { g with
      line := .archiveCoverage
      share := g.share.inResults fun r =>
        { r with testOutput := o.copyOutput.copy g.persistent.testOutput r.testOutput } }
  | .archiveCoverage =>
    { g with
      line := .shutdown
      share := g.share.inResults fun r =>
        { r with coverage := o.archiveCoverage.copy g.persistent.coverage r.coverage } }
  | .shutdown => { g with line := .off }
  | .off => g

/-- The run as far as it got. -/
def Guest.run : Nat → Guest → Guest
  | 0, g => g
  | n + 1, g => run n (g.step readWord o)

end Step

end Virtio9p
