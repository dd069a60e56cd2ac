import Virtio9p.Properties.ForwardedEnv
import Virtio9p.Properties.TestArguments
import Virtio9p.Scripts.GuestRuns
import Virtio9p.Scripts.LaunchRuns
import Virtio9p.Scripts.ReturnStatus

/-!
# The verdict on a test

A launch script exits with 0 only if the test was run and returned 0, wherever the machine stopped
and whatever failed; and where nothing fails it exits with the status of the test, and the host has
all that the test left.
-/
namespace Virtio9p

open Script Attempt

section Shared

variable {printfQ : Bytes → Bytes} {collates : Bytes → Bytes → Prop} [DecidableRel collates]
  {caller : Caller} {runner : Runner}

def Runner.testBinary : Runner → Option Bytes
  | .runQemu image => some image.testBinary
  | .runUnder testBinary _ _ => testBinary

def Runner.testArgs : Runner → List Bytes
  | .runQemu _ => []
  | .runUnder _ testArgs _ => testArgs

/-- The names of the variables that the caller asks to forward. -/
def Caller.forwardedNames (caller : Caller) : List Bytes :=
  (readNames ((caller.vars qnxForwardEnv).getD [])).filter (· ≠ [])

/-- The variables that the scripts assign before the forwarded ones are looked up. -/
def scriptNames : List Bytes :=
  [scriptDirVar, ifsImageVar, testImageVar, testBinaryVar, testArgsVar, fsdevPath, fsdevPathCreated,
    sqEscapeVar, argVar]

/-- A variable that is not assigned keeps its value. -/
theorem assign_of_not_mem {assignments : List (Bytes × Option Bytes)} {name : Bytes}
    (other : ∀ pair ∈ assignments, pair.1 ≠ name) (vars : Variables) :
    vars.assign assignments name = vars name := by
  induction assignments generalizing vars with
  | nil => rfl
  | cons pair assignments ih =>
    rw [List.forall_mem_cons] at other
    exact (ih other.2 _).trans (Function.update_of_ne other.1.symm _ _)

theorem assignments_names (caller : Caller) (runner : Runner) :
    ∀ pair ∈ runner.assignments caller, pair.1 ∈ scriptNames := by
  have fsdev : ∀ pair ∈ caller.fsdevAssignments, pair.1 ∈ scriptNames := by
    unfold Caller.fsdevAssignments
    split_ifs
    · exact fun pair none => absurd none List.not_mem_nil
    · simp [scriptNames]
  cases runner with
  | runQemu image =>
    simp only [Runner.assignments, List.forall_mem_append]
    exact ⟨by simp [scriptNames], fsdev⟩
  | runUnder testBinary testArgs tree =>
    simp only [Runner.assignments, List.forall_mem_append]
    exact ⟨⟨⟨by simp [scriptNames], fsdev⟩, by simp [scriptNames]⟩, by simp [scriptNames]⟩

/-- Any other variable has the caller's value. -/
theorem variables_of_caller (caller : Caller) (runner : Runner) {name : Bytes}
    (other : name ∉ scriptNames) : runner.variables caller name = caller.vars name := by
  refine assign_of_not_mem ?_ caller.vars
  rintro pair member rfl
  exact other (assignments_names caller runner pair member)

/-- So has the list of the forwarded variables. -/
theorem variables_qnxForwardEnv (caller : Caller) (runner : Runner) :
    runner.variables caller qnxForwardEnv = caller.vars qnxForwardEnv :=
  variables_of_caller caller runner (by decide)

theorem copyRunfiles_others (tree : RunfilesTree) (s : Share) :
    (copyRunfiles collates tree s).testBinary = s.testBinary ∧
      (copyRunfiles collates tree s).filters = s.filters ∧
      (copyRunfiles collates tree s).fragments = s.fragments := by
  unfold copyRunfiles
  cases tree.launcher with
  | none => exact ⟨rfl, rfl, rfl⟩
  | some launcher => exact ⟨rfl, rfl, rfl⟩

theorem shared_testBinary :
    (runner.shared printfQ collates caller).testBinary = runner.testBinary := by
  cases runner with
  | runQemu image => rfl
  | runUnder testBinary testArgs tree => exact (copyRunfiles_others tree _).1

theorem shared_fragments :
    (runner.shared printfQ collates caller).fragments = (runner.forwarded printfQ caller).2 := by
  cases runner with
  | runQemu image => rfl
  | runUnder testBinary testArgs tree => exact (copyRunfiles_others tree _).2.2

theorem writeForwardedEnv_extraArgs (printfQ : Bytes → Bytes) (own : OwnVariables)
    (vars : Variables)
    (d : ShareDir) : (writeForwardedEnv printfQ own vars d).2.extraArgs = d.extraArgs := by
  obtain ⟨env, written | refused⟩ := writeForwardedEnv_result printfQ own vars d
  · rw [written]
  · rw [refused]

/-- The test is given the arguments of the script. -/
theorem shared_params :
    runTestParams (runner.shared printfQ collates caller).fragments = some runner.testArgs := by
  have kept := writeForwardedEnv_extraArgs printfQ caller.own (runner.variables caller)
    (runner.populated caller).fragments
  rw [shared_fragments, Runner.forwarded, runTestParams, kept]
  cases runner with
  | runQemu image => rfl
  | runUnder testBinary testArgs tree =>
    cases testArgs with
    | nil => rfl
    | cons arg args =>
      change sourceArgs (argsFragment (arg :: args)) [] = _
      rw [sourceArgs, readCommands_argsFragment]
      rfl

/-- The environment that the guest makes of the fragment with the forwarded variables. -/
theorem shared_vars (collates : Bytes → Bytes → Prop) [DecidableRel collates] (runner : Runner)
    {readWord : Bytes → Option (Bytes × Bytes)} (readsBack : ReadsBack readWord printfQ)
    (valid : ∀ name ∈ caller.forwardedNames, isIdentifier name = true) (guest : Variables) :
    (runner.forwarded printfQ caller).1 = 0 ∧
      prepareTest readWord (runner.shared printfQ collates caller).fragments guest =
        some fun name =>
          if name ∈ caller.forwardedNames then
            (seenAs caller.own (runner.variables caller)
              (readNames ((caller.vars qnxForwardEnv).getD [])) name).or (guest name)
          else guest name := by
  rw [shared_fragments, Caller.forwardedNames, ← variables_qnxForwardEnv caller runner]
  rw [Caller.forwardedNames, ← variables_qnxForwardEnv caller runner] at valid
  exact prepareTest_seen readsBack caller.own _ valid guest

end Shared

section Verdict

variable {o : HostOutcomes} {printfQ : Bytes → Bytes} {printed : Printed}
  {collates : Bytes → Bytes → Prop} [DecidableRel collates] {caller : Caller} {runner : Runner}
  {machine : Share → Guest}

/-- The clean-up changes the shared directory only. -/
theorem cleanup_keeps (l : Launch) :
    (qemuCleanupFsdev o l).2 = { l with share := (qemuCleanupFsdev o l).2.share } := by
  unfold qemuCleanupFsdev
  split_ifs
  · unfold command
    split_ifs
    · rfl
    · rfl
  · rfl

theorem cleanup_strict (l : Launch) (status : UInt8)
    (failed : (qemuCleanupFsdev o l).1 = .error status) : status ≠ 0 := by
  unfold qemuCleanupFsdev at failed
  split_ifs at failed
  · unfold command at failed
    split_ifs at failed with zero
    cases failed
    exact zero
  · cases failed

/-- A launch script that exits with 0 has extracted the files, with a status of 0 among them. -/
theorem launch_zero (zero : exitStatus (launch o printfQ printed collates caller runner machine
      (Launch.start caller)).1 = 0) :
    let g := machine (runner.shared printfQ collates caller)
    (launch o printfQ printed collates caller runner machine (Launch.start caller)).2.vm = some g ∧
      g.results.status = 0 := by
  intro g
  have ends := launch_ensures o printfQ printed collates caller runner machine
    (Launch.start caller) rfl
  rw [launch] at zero ⊢
  have inner := exitStatus_trapExit zero fun l status failed => cleanup_strict l status failed
  rw [trapExit_state, cleanup_keeps]
  revert ends inner
  generalize (Attempt.bind _ _ (Launch.start caller) : Except UInt8 Unit × Launch) = ended
  obtain ⟨status | _, l⟩ := ended
  · rintro (⟨failed, -⟩ | ⟨-, ⟨failed, -⟩ | ⟨rfl, same⟩⟩) inner
    · exact absurd inner failed
    · exact absurd inner failed
    · exact ⟨rfl, same.symm.trans inner⟩
  · exact fun impossible _ => impossible.elim

/-- Where nothing fails the script exits with the status that the guest left. -/
theorem launch_complete (printed : Printed) (collates : Bytes → Bytes → Prop)
    [DecidableRel collates]
    (machine : Share → Guest) (complete : o.Complete caller)
    (forwards : (runner.forwarded printfQ caller).1 = 0) :
    let g := machine (runner.shared printfQ collates caller)
    let ended := launch o printfQ printed collates caller runner machine (Launch.start caller)
    exitStatus ended.1 = g.results.status ∧
      ended.2 = { Launch.extracted printed caller g with share := ended.2.share } := by
  intro g
  have ends := launch_ensures o printfQ printed collates caller runner machine
    (Launch.start caller) rfl
  have cleans : ∀ l, (qemuCleanupFsdev o l).1 = .ok () := by
    intro l
    unfold qemuCleanupFsdev
    split_ifs
    · rw [command, if_pos complete.removes]
    · rfl
  rw [launch]
  simp only [trapExit_result (cleans _), trapExit_state]
  rw [cleanup_keeps]
  revert ends
  generalize (Attempt.bind _ _ (Launch.start caller) : Except UInt8 Unit × Launch) = ended
  obtain ⟨status | _, l⟩ := ended
  · rintro (⟨-, -, failed⟩ | ⟨-, ⟨-, -, failed⟩ | ⟨rfl, same⟩⟩)
    · exact absurd ⟨complete.starts, forwards⟩ failed
    · exact absurd complete.extracts failed
    · exact ⟨same, rfl⟩
  · exact fun impossible => impossible.elim

end Verdict

/-- A file that stands for 0, whole or cut short, is only there if the test returned 0. -/
theorem passed_of_status {g : Guest} (truthful : g.Truthful) (zero : g.results.status = 0) :
    ∃ run, g.ran = some run ∧ run.status = 0 := by
  cases results : g.share.testResults with
  | none =>
    rw [Guest.results, results] at zero
    exact absurd zero (by decide)
  | some r =>
    rw [Guest.results, results] at zero
    cases code : r.returncode with
    | none =>
      rw [Option.getD_some, ResultFiles.status, code] at zero
      exact absurd zero (by decide)
    | some text =>
      rw [Option.getD_some, ResultFiles.status, code] at zero
      have cut := truthful.copied r text results code
      cases status : g.testRc with
      | none =>
        -- a line without digits
        rw [Guest.echoedRc, status] at cut
        rcases List.prefix_concat_iff.mp cut with whole | empty
        · rw [whole] at zero
          exact absurd zero (by decide)
        · rw [List.prefix_nil.mp empty] at zero
          exact absurd zero (by decide)
      | some rc =>
        rw [Guest.echoedRc, status] at cut
        rw [status_zero_of_cut cut zero] at status
        exact truthful.passed status

/-- A script exits with 0 only if the test returned 0. A script in which nothing fails, of a machine
that runs long enough, exits with the status of the test and has got all that it left. -/
theorem exit_reports_test {readWord : Bytes → Option (Bytes × Bytes)} {printfQ : Bytes → Bytes}
    (readsBack : ReadsBack readWord printfQ) (printed : Printed) (collates : Bytes → Bytes → Prop)
    [DecidableRel collates] (caller : Caller) (runner : Runner) (host : HostOutcomes)
    (guest : GuestOutcomes) (boot : Variables) (n : Nat) :
    let machine := fun s => (Guest.boot boot s).run readWord guest n
    let ended := runScript host printfQ printed collates caller runner machine (Launch.start caller)
    (exitStatus ended.1 = 0 →
      ∃ g run, ended.2.vm = some g ∧ g.ran = some run ∧ run.status = 0) ∧
    (host.Complete caller → guest.Complete → runner.testBinary.isSome →
      (∀ name ∈ caller.forwardedNames, isIdentifier name = true) →
      hasDirectory (prepareFiles (runner.shared printfQ collates caller)) ccTestQnx = false →
      12 + guest.test.late.length ≤ n →
      exitStatus ended.1 = guest.test.status ∧ ended.2.xml = guest.test.xml ∧
        ended.2.undeclared = guest.test.coverage ∧
        ∃ g run, ended.2.vm = some g ∧ g.ran = some run ∧
          ended.2.log = if buffersOutput run.vars then
            printed (guest.test.output ++ printedUntilCopied guest.test.late) else []) := by
  intro machine ended
  by_cases missing : ∃ testArgs tree, runner = .runUnder none testArgs tree
  · obtain ⟨testArgs, tree, rfl⟩ := missing
    constructor
    · intro zero
      have failed : (1 : UInt8) = 0 := zero
      exact absurd failed (by decide)
    · intro _ _ there
      cases there
  · have launched : ended =
        launch host printfQ printed collates caller runner machine (Launch.start caller) := by
      cases runner with
      | runQemu image => rfl
      | runUnder testBinary testArgs tree =>
        cases testBinary with
        | none => exact absurd ⟨testArgs, tree, rfl⟩ missing
        | some binary => rfl
    let s := runner.shared printfQ collates caller
    constructor
    · intro zero
      rw [launched] at zero ⊢
      obtain ⟨ran, status⟩ := launch_zero zero
      have fresh : s.testResults = none := runner.shared_fresh printfQ collates caller
      have truthful : (machine s).Truthful := (Guest.Truthful.boot boot fresh).run n
      obtain ⟨run, was, passed⟩ := passed_of_status truthful status
      exact ⟨machine s, run, ran, was, passed⟩
    · intro complete finishes there valid clear long
      obtain ⟨forwards, sourced⟩ := shared_vars collates runner readsBack valid
        (exportedVars s boot)
      obtain ⟨binary, there⟩ := Option.isSome_iff_exists.mp there
      obtain ⟨results, ran⟩ := run_complete finishes sourced shared_params
        (shared_testBinary.trans there) clear long
      obtain ⟨status, state⟩ := launch_complete printed collates machine complete forwards
      have left : (machine s).results = _ := congrArg (Option.getD · ResultFiles.empty) results
      rw [launched]
      rw [left, ResultFiles.status] at status
      rw [state]
      simp only [Launch.extracted]
      rw [left]
      refine ⟨status.trans (returnStatus_numeral _), rfl, rfl, machine s, _, rfl, ran, ?_⟩
      simp only [TestOutcome.results]
      split_ifs
      · rfl
      · rfl

/-! ### A test that fails -/

/-- The order of the C locale. -/
def bytewise (a b : Bytes) : Prop := a ≤ b

instance : DecidableRel bytewise := fun a b => inferInstanceAs (Decidable (a ≤ b))

def allSucceeds : HostOutcomes := ⟨0, 0, 0, 0, 0, 0, 0, 0, 0, 0, 0, 0, 0, 0, 0, 0, 0, 0, 0⟩

/-- `QEMU_BUFFER_OUTPUT` is forwarded, and `GTEST_FILTER` is `F`. -/
def bufferingCaller : Caller :=
  ⟨fun name =>
    if name = xmlOutputFile ∨ name = testUndeclaredOutputsDir then some [47]
    else if name = qnxForwardEnv then some qemuBufferOutput
    else if name = qemuBufferOutput then some [49]
    else if name = gtestFilter then some [70]
    else none, fun _ => none, ⟨[47], [105], [116], [109]⟩, none⟩

def done : Written := ⟨0, none⟩

/-- The test returns 3, and a process of its own that it leaves prints `i` and a newline. -/
def failingTest : GuestOutcomes :=
  ⟨done, done, true, 0,
    ⟨3, some [60, 62], [104], [⟨[[49, 32] ++ ccTestQnx], [105]⟩, ⟨[], [10]⟩], none⟩,
    done, 0, done, done, done, done⟩

def smallImage : TestImage := ⟨[1, 2], [45, 10], none, none⟩

/-- The script exits with the 3 of the test and has got its report. -/
theorem exit_reports_test_failing :
    let machine := fun s => (Guest.boot (fun _ => none) s).run ShellWords.readWord failingTest 14
    let ended := runScript allSucceeds ShellWords.quote id bytewise bufferingCaller
      (.runQemu smallImage) machine (Launch.start bufferingCaller)
    exitStatus ended.1 = 3 ∧ ended.2.xml = some [60, 62] := by
  intro machine ended
  obtain ⟨status, xml, -⟩ :=
    (exit_reports_test ShellWords.readWord_quote id bytewise bufferingCaller
    (.runQemu smallImage) allSucceeds failingTest (fun _ => none) 14).2
    ⟨⟨rfl, rfl, rfl, rfl, rfl, rfl, rfl, rfl, rfl, rfl⟩,
      ⟨rfl, rfl, rfl, rfl, rfl, rfl, rfl, rfl, by decide, by decide⟩, rfl⟩
    ⟨rfl, rfl, rfl, rfl, rfl, rfl, rfl, rfl, rfl, rfl⟩ (by decide) (by decide)
      (by decide) (by decide)
  exact ⟨status, xml⟩

end Virtio9p
