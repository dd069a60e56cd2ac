import Virtio9p.Properties.TestVerdict

/-!
# What the test is given

Wherever the machine stops and whatever fails: a test that is run has the arguments of the script,
its own binary, and the variables that were prepared for it and forwarded to it. What is forwarded
are the variables of the script, some of which it has assigned itself by then.
-/
namespace Virtio9p

open Script Attempt

/-- The filter that arrives: one that `echo` takes for options is lost, and so are newlines at the
end. -/
def Caller.filterGiven (caller : Caller) : Bytes :=
  if caller.vars.nonempty gtestFilter then
    let filter := (caller.vars gtestFilter).getD []
    if isEchoOption filter then [] else filter.rdropWhile (· = 10)
  else [45]

def Runner.filterGiven (caller : Caller) : Runner → Bytes
  | .runQemu image => commandOutput image.filters
  | .runUnder _ _ _ => caller.filterGiven

theorem commandOutput_echo (word : Bytes) :
    commandOutput (echo word) = if isEchoOption word then [] else word.rdropWhile (· = 10) := by
  unfold echo commandOutput
  split_ifs
  · rfl
  · rfl
  · exact List.rdropWhile_concat_pos _ _ _ (by decide)

theorem commandOutput_filterFile (caller : Caller) :
    commandOutput (filterFile caller.vars) = caller.filterGiven := by
  unfold filterFile Caller.filterGiven
  by_cases given : caller.vars.nonempty gtestFilter = true
  · rw [if_pos given, if_pos given, commandOutput_echo]
  · rw [if_neg given, if_neg given]
    rfl

section Given

variable {printfQ : Bytes → Bytes} {collates : Bytes → Bytes → Prop} [DecidableRel collates]
  {caller : Caller} {runner : Runner}

theorem shared_filter (boot : Variables) :
    exportedVars (runner.shared printfQ collates caller) boot =
      preparedVars (runner.filterGiven caller) boot := by
  cases runner with
  | runQemu image => rfl
  | runUnder testBinary testArgs tree =>
    have kept :
        ((Runner.runUnder testBinary testArgs tree).shared printfQ collates caller).filters =
        some (filterFile caller.vars) := (copyRunfiles_others tree _).2.1
    rw [exportedVars, kept, Option.getD_some, commandOutput_filterFile]
    rfl

/-- Names that are forwarded at all are valid ones. -/
theorem valid_of_forwarded (forwards : (runner.forwarded printfQ caller).1 = 0) :
    ∀ name ∈ caller.forwardedNames, isIdentifier name = true := by
  intro name listed
  by_contra invalid
  have refused : (runner.forwarded printfQ caller).1 = 1 := by
    rw [Caller.forwardedNames, ← variables_qnxForwardEnv caller runner] at listed
    rw [Runner.forwarded, writeForwardedEnv_refused _ ⟨name, listed, Bool.eq_false_iff.mpr invalid⟩]
  rw [forwards] at refused
  cases refused

/-- A machine that was run had its shared directory filled, by a script that did not fail before. -/
theorem vm_of_runScript {host : HostOutcomes} {printed : Printed}
    {machine : Share → Guest} {g : Guest}
    (ran : (runScript host printfQ printed collates caller runner machine
      (Launch.start caller)).2.vm = some g) :
    g = machine (runner.shared printfQ collates caller) ∧
      (runner.forwarded printfQ caller).1 = 0 := by
  have launched : (launch host printfQ printed collates caller runner machine
      (Launch.start caller)).2.vm = some g := by
    cases runner with
    | runQemu image => exact ran
    | runUnder testBinary testArgs tree =>
      cases testBinary with
      | none => cases ran
      | some binary => exact ran
  have ends := launch_ensures host printfQ printed collates caller runner machine
    (Launch.start caller) rfl
  rw [launch, trapExit_state, cleanup_keeps] at launched
  revert launched ends
  generalize (Attempt.bind _ _ (Launch.start caller) : Except UInt8 Unit × Launch) = ended
  obtain ⟨status | _, l⟩ := ended
  · rintro launched (⟨-, unstarted, -⟩ | ⟨forwards, ⟨-, stopped, -⟩ | ⟨rfl, -⟩⟩)
    · exact absurd (launched.symm.trans unstarted) (Option.some_ne_none g)
    · exact ⟨Option.some.inj (launched.symm.trans stopped), forwards⟩
    · exact ⟨(Option.some.inj launched).symm, forwards⟩
  · exact fun _ impossible => impossible.elim

end Given

/-- A test that is run is run as asked for: with the arguments of the script, on its own binary (a
part of it where the copy failed), and with the caller's values of the forwarded variables, the
script's of those that it assigns, over those that are prepared for it. -/
theorem test_given_as_asked {readWord : Bytes → Option (Bytes × Bytes)} {printfQ : Bytes → Bytes}
    (readsBack : ReadsBack readWord printfQ) (printed : Printed) (collates : Bytes → Bytes → Prop)
    [DecidableRel collates] (caller : Caller) (runner : Runner) (host : HostOutcomes)
    (guest : GuestOutcomes) (boot : Variables) (n : Nat)
    (outside : ∀ name ∈ caller.forwardedNames, ¬ Hidden caller.own name) :
    let machine := fun s => (Guest.boot boot s).run readWord guest n
    let ended := runScript host printfQ printed collates caller runner machine (Launch.start caller)
    let given := preparedVars (runner.filterGiven caller) boot
    ∀ g run, ended.2.vm = some g → g.ran = some run →
      run.params = runner.testArgs ∧
      (∃ binary, runner.testBinary = some binary ∧ run.binary <+: binary ∧
        (guest.copyBinary.status = 0 → run.binary = binary)) ∧
      ∀ name, run.vars name =
        if name ∈ caller.forwardedNames then
          (if name ∈ scriptNames then runner.variables caller name else caller.vars name).or
            (given name)
        else given name := by
  intro machine ended given g run ran was
  obtain ⟨rfl, forwards⟩ := vm_of_runScript ran
  let s := runner.shared printfQ collates caller
  have follows : (machine s).Follows readWord guest boot s := Guest.Follows.boot.run n
  obtain ⟨binary, params, vars, -⟩ := follows.ran run was
  refine ⟨Option.some.inj (params.symm.trans shared_params), ?_, ?_⟩
  · rwa [show s.testBinary = runner.testBinary from shared_testBinary] at binary
  · intro name
    have sourced := (shared_vars collates runner readsBack (valid_of_forwarded forwards)
      (exportedVars s boot)).2
    have same := congrFun (Option.some.inj (vars.symm.trans sourced)) name
    rw [same, shared_filter]
    by_cases listed : name ∈ caller.forwardedNames
    · rw [if_pos listed, if_pos listed, seenAs_of_caller (outside name listed) listed]
      by_cases assigned : name ∈ scriptNames
      · rw [if_pos assigned]
      · rw [if_neg assigned, variables_of_caller caller runner assigned]
    · rw [if_neg listed, if_neg listed]

/-- `run_under_qnx.sh` with the argument `a` and the filter `F`. -/
theorem test_given_as_asked_filtered :
    let machine := fun s => (Guest.boot (fun _ => none) s).run ShellWords.readWord failingTest 14
    let ended := runScript allSucceeds ShellWords.quote id bytewise bufferingCaller
      (.runUnder (some [1, 2]) [[97]] ⟨[], none, [], List.nodup_nil, nofun⟩) machine
      (Launch.start bufferingCaller)
    (ended.2.vm.bind Guest.ran).map (fun run => (run.params, run.vars gtestFilter)) =
      some ([[97]], some [70]) := by
  intro machine ended
  have outside : ∀ name ∈ bufferingCaller.forwardedNames, ¬ Hidden bufferingCaller.own name := by
    decide
  have given := test_given_as_asked ShellWords.readWord_quote id bytewise bufferingCaller
    (.runUnder (some [1, 2]) [[97]] ⟨[], none, [], List.nodup_nil, nofun⟩) allSucceeds failingTest
    (fun _ => none) 14 outside
  have some : (ended.2.vm.bind Guest.ran).isSome = true := by decide +kernel
  obtain ⟨run, was⟩ := Option.isSome_iff_exists.mp some
  obtain ⟨g, ran, tested⟩ := Option.bind_eq_some_iff.mp was
  obtain ⟨params, -, vars⟩ := given g run ran tested
  rw [was, Option.map_some, params, vars gtestFilter]
  decide

end Virtio9p
