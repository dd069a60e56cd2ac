import Virtio9p.Scripts.RunTest

/-!
# Runs of the guest

What holds of the status the guest leaves behind, wherever it stops, and what a run leaves in which
every command did its work.
-/
namespace Virtio9p

variable {readWord : Bytes → Option (Bytes × Bytes)} {o : GuestOutcomes}

/-- The place of a line in the script. -/
def GuestLine.place : GuestLine → Nat
  | .prepare => 0
  | .copyBinary => 1
  | .setParams => 2
  | .runTest => 3
  | .logReturnCode => 4
  | .makeResults => 5
  | .copyReturnCode => 6
  | .copyXml => 7
  | .awaitProcesses => 8
  | .copyOutput => 9
  | .archiveCoverage => 10
  | .shutdown => 11
  | .off => 12

/-! ### The status that is left behind -/

/-- What is in the two files with the status. -/
structure Guest.Truthful (g : Guest) : Prop where
  unlogged : g.line.place ≤ 4 → g.persistent.returncode = none
  uncopied : g.line.place ≤ 6 → ∀ r, g.share.testResults = some r → r.returncode = none
  logged : ∀ text, g.persistent.returncode = some text → text <+: g.echoedRc
  copied : ∀ r text, g.share.testResults = some r → r.returncode = some text → text <+: g.echoedRc
  passed : g.testRc = some 0 → ∃ run, g.ran = some run ∧ run.status = 0

namespace Guest.Truthful

variable {g g' : Guest}

theorem echoedRc_congr (status : g'.testRc = g.testRc) : g'.echoedRc = g.echoedRc := by
  rw [echoedRc, echoedRc, status]

/-- A line that changes neither the status nor a file with it. -/
theorem unchanged (truthful : g.Truthful) (later : g.line.place ≤ g'.line.place)
    (status : g'.testRc = g.testRc) (ran : g'.ran = g.ran)
    (log : g'.persistent.returncode = g.persistent.returncode)
    (results : ∀ r', g'.share.testResults = some r' →
      ∃ r, g.share.testResults = some r ∧ r'.returncode = r.returncode) : g'.Truthful := by
  have echoed := echoedRc_congr status
  refine ⟨?_, ?_, ?_, ?_, ?_⟩
  · intro before
    rw [log]
    exact truthful.unlogged (later.trans before)
  · intro before r' there
    obtain ⟨r, was, same⟩ := results r' there
    rw [same]
    exact truthful.uncopied (later.trans before) r was
  · intro text logged
    rw [echoed]
    exact truthful.logged text (log ▸ logged)
  · intro r' text there copied
    obtain ⟨r, was, same⟩ := results r' there
    rw [echoed]
    exact truthful.copied r text was (same ▸ copied)
  · intro zero
    rw [ran]
    exact truthful.passed (status ▸ zero)

/-- The shell refuses with a status other than 0. -/
theorem startTest_error {status : UInt8} (refused : g.startTest o = .error status) :
    status ≠ 0 := by
  unfold Guest.startTest at refused
  split at refused
  · cases refused
    decide
  · split at refused
    · cases refused
      decide
    · split at refused
      · cases refused
        decide
      · cases refused

/-- The files of `test_results` other than the one with the status. -/
theorem results_kept {change : ResultFiles → ResultFiles}
    {s : Share} (keeps : ∀ r, (change r).returncode = r.returncode) :
    ∀ r', (s.inResults change).testResults = some r' →
      ∃ r, s.testResults = some r ∧ r'.returncode = r.returncode := by
  intro r' there
  obtain ⟨r, was, rfl⟩ := Option.map_eq_some_iff.mp there
  exact ⟨r, was, keeps r⟩

/-- The line with the test: there is no file with a status yet. -/
theorem runTest (truthful : g.Truthful) (line : g.line = .runTest) : (g.runTest o).Truthful := by
  have before : g.line.place ≤ 4 := by rw [line]; decide
  have unlogged : g.persistent.returncode = none := truthful.unlogged before
  have uncopied := truthful.uncopied (before.trans (by decide))
  have opened : (g.openLog o).persistent.returncode = none := by
    rw [← unlogged, Guest.openLog]
    simp only
    split_ifs
    · rfl
    · rfl
  -- there is neither file, whatever the status
  have fresh : ∀ g' : Guest, g'.persistent.returncode = none → g'.share = g.share →
      (g'.testRc = some 0 → ∃ run, g'.ran = some run ∧ run.status = 0) → g'.Truthful := by
    intro g' none share passed
    refine ⟨fun _ => none, fun _ => share ▸ uncopied, ?_, ?_, passed⟩
    · intro text logged
      rw [none] at logged
      cases logged
    · intro r text there copied
      rw [share] at there
      rw [uncopied r there] at copied
      cases copied
  rw [Guest.runTest]
  cases start : g.startTest o with
  | error status =>
    refine fresh _ opened rfl fun zero => absurd (Option.some.inj zero) ?_
    exact startTest_error start
  | ok binary => exact fresh _ opened rfl fun zero => ⟨_, rfl, Option.some.inj zero⟩

theorem step (truthful : g.Truthful) : (g.step readWord o).Truthful := by
  have same : ∀ r', g.share.testResults = some r' →
      ∃ r, g.share.testResults = some r ∧ r'.returncode = r.returncode :=
    fun r' there => ⟨r', there, rfl⟩
  cases line : g.line <;> simp only [Guest.step, line]
  case prepare =>
    cases prepareTest readWord g.share.fragments (exportedVars g.share g.vars) with
    | none => exact truthful.unchanged (by simp [line, GuestLine.place]) rfl rfl rfl same
    | some vars => exact truthful.unchanged (by simp [line, GuestLine.place]) rfl rfl rfl same
  case copyBinary => exact truthful.unchanged (by simp [line, GuestLine.place]) rfl rfl rfl same
  case setParams =>
    cases runTestParams g.share.fragments with
    | none => exact truthful.unchanged (by simp [line, GuestLine.place]) rfl rfl rfl same
    | some params => exact truthful.unchanged (by simp [line, GuestLine.place]) rfl rfl rfl same
  case runTest => exact truthful.runTest line
  -- the only line that writes the status: there was none before
  case logReturnCode =>
    have unlogged : g.persistent.returncode = none :=
      truthful.unlogged (by simp [line, GuestLine.place])
    have uncopied := truthful.uncopied (by simp [line, GuestLine.place])
    refine ⟨fun before => absurd before (by simp [GuestLine.place]), fun _ => uncopied, ?_,
      truthful.copied,
      truthful.passed⟩
    intro text logged
    simp only [unlogged] at logged
    exact Written.file_begins logged
  case makeResults =>
    have uncopied := truthful.uncopied (by simp [line, GuestLine.place])
    split_ifs
    · refine ⟨fun before => absurd before (by simp [GuestLine.place]), ?_, truthful.logged, ?_,
        truthful.passed⟩
      · -- the directory is new, so it has no file
        intro _ r made
        cases made
        rfl
      · intro r text made copied
        cases made
        cases copied
    · exact ⟨fun before => absurd before (by simp [GuestLine.place]), fun _ => uncopied,
        truthful.logged,
        truthful.copied, truthful.passed⟩
  case copyReturnCode =>
    have uncopied := truthful.uncopied (by simp [line, GuestLine.place])
    refine ⟨fun before => absurd before (by simp [GuestLine.place]),
      fun before => absurd before (by simp [GuestLine.place]),
      truthful.logged, ?_, truthful.passed⟩
    -- the copy begins like the file it was made from, which begins like the status
    intro r' text there copied
    obtain ⟨r, was, rfl⟩ := Option.map_eq_some_iff.mp there
    simp only [uncopied r was] at copied
    obtain ⟨content, logged, cut, -⟩ := Written.copy_begins copied
    exact cut.trans (truthful.logged content logged)
  case copyXml =>
    refine truthful.unchanged (by simp [line, GuestLine.place]) rfl rfl rfl (results_kept ?_)
    intro r
    rfl
  case awaitProcesses =>
    cases g.late with
    | nil => exact truthful.unchanged (by simp [line, GuestLine.place]) rfl rfl rfl same
    | cons poll late =>
      refine truthful.unchanged ?_ rfl rfl rfl same
      rw [line]
      change GuestLine.place .awaitProcesses ≤ GuestLine.place (if poll.findsTest then _ else _)
      split_ifs <;> decide
  case copyOutput =>
    refine truthful.unchanged (by simp [line, GuestLine.place]) rfl rfl rfl (results_kept ?_)
    intro r
    rfl
  case archiveCoverage =>
    refine truthful.unchanged (by simp [line, GuestLine.place]) rfl rfl rfl (results_kept ?_)
    intro r
    rfl
  case shutdown => exact truthful.unchanged (by simp [line, GuestLine.place]) rfl rfl rfl same
  case off => exact truthful

theorem run (truthful : g.Truthful) (n : Nat) : (g.run readWord o n).Truthful := by
  induction n generalizing g with
  | zero => exact truthful
  | succ n ih => exact ih truthful.step

theorem boot (vars : Variables) {s : Share} (fresh : s.testResults = none) :
    (Guest.boot vars s).Truthful := by
  refine ⟨fun _ => rfl, ?_, ?_, ?_, ?_⟩
  · intro _ r there
    rw [show (Guest.boot vars s).share.testResults = none from fresh] at there
    cases there
  · rintro text ⟨⟩
  · intro r text there
    rw [show (Guest.boot vars s).share.testResults = none from fresh] at there
    cases there
  · rintro ⟨⟩

end Guest.Truthful

/-! ### What the test is given -/

/-- A test is run on what the shared directory has for it. -/
structure TestRun.Asked (readWord : Bytes → Option (Bytes × Bytes)) (o : GuestOutcomes)
    (vars : Variables) (s : Share) (run : TestRun) : Prop where
  binary : ∃ content, s.testBinary = some content ∧ run.binary <+: content ∧
    (o.copyBinary.status = 0 → run.binary = content)
  params : runTestParams s.fragments = some run.params
  vars : prepareTest readWord s.fragments (exportedVars s vars) = some run.vars
  files : run.files = o.copyFiles.files (prepareFiles s)

/-- What the lines up to the test have prepared. -/
structure Guest.Follows (readWord : Bytes → Option (Bytes × Bytes)) (o : GuestOutcomes)
    (vars : Variables) (s : Share) (g : Guest) : Prop where
  share : g.line.place ≤ 3 → g.share = s
  booted : g.line.place = 0 → g.vars = vars
  sourced : 1 ≤ g.line.place → g.line.place ≤ 3 →
    prepareTest readWord s.fragments (exportedVars s vars) = some g.vars ∧
      g.unitTests = o.copyFiles.files (prepareFiles s)
  uncopied : g.line.place ≤ 1 → g.testBinary = none
  copied : g.line.place ≤ 3 → ∀ binary, g.testBinary = some binary →
    ∃ content, s.testBinary = some content ∧ binary <+: content ∧
      (o.copyBinary.status = 0 → binary = content)
  params : g.line.place = 3 → runTestParams s.fragments = some g.params
  ran : ∀ run, g.ran = some run → run.Asked readWord o vars s

namespace Guest.Follows

variable {vars : Variables} {s : Share} {g g' : Guest}

/-- Behind the line with the test only the test counts. -/
theorem of_ran (later : 4 ≤ g'.line.place)
    (ran : ∀ run, g'.ran = some run → run.Asked readWord o vars s) :
    g'.Follows readWord o vars s := by
  refine ⟨?_, ?_, ?_, ?_, ?_, ?_, ran⟩ <;> omega

theorem behind (follows : g.Follows readWord o vars s) (later : 4 ≤ g'.line.place)
    (ran : g'.ran = g.ran) : g'.Follows readWord o vars s :=
  of_ran later fun run was => follows.ran run (ran ▸ was)

theorem startTest_ok {binary : Bytes} (started : g.startTest o = .ok binary) :
    g.testBinary = some binary := by
  unfold Guest.startTest at started
  split at started
  · cases started
  · split at started
    · cases started
    · split at started
      · cases started
      · cases started
        assumption

theorem runTest (follows : g.Follows readWord o vars s) (line : g.line = .runTest) :
    (g.runTest o).Follows readWord o vars s := by
  have place : g.line.place = 3 := by rw [line]; rfl
  rw [Guest.runTest]
  cases start : g.startTest o with
  | error status => exact follows.behind (Nat.le_refl 4) rfl
  | ok binary =>
    refine of_ran (Nat.le_refl 4) ?_
    rintro run ⟨⟩
    have sourced := follows.sourced (by omega) (by omega)
    exact ⟨follows.copied (by omega) binary (startTest_ok start), follows.params place, sourced.1,
      sourced.2⟩

theorem step (follows : g.Follows readWord o vars s) :
    (g.step readWord o).Follows readWord o vars s := by
  cases line : g.line <;> simp only [Guest.step, line]
  case prepare =>
    have place : g.line.place = 0 := by rw [line]; rfl
    have share := follows.share (by omega)
    have booted := follows.booted place
    cases sourced : prepareTest readWord g.share.fragments (exportedVars g.share g.vars) with
    | none => exact follows.behind (by simp [GuestLine.place]) rfl
    | some vars' =>
      refine ⟨fun _ => share, ?_, ?_, ?_, ?_, ?_, follows.ran⟩
      · intro begins
        cases begins
      · intro _ _
        rw [share, booted] at sourced
        exact ⟨sourced, by rw [share]⟩
      · exact fun _ => follows.uncopied (by omega)
      · exact fun _ => follows.copied (by omega)
      · intro begins
        cases begins
  case copyBinary =>
    have place : g.line.place = 1 := by rw [line]; rfl
    have share := follows.share (by omega)
    refine ⟨fun _ => share, ?_, fun _ _ => follows.sourced (by omega) (by omega), ?_, ?_, ?_,
      follows.ran⟩
    · intro begins
      cases begins
    · intro before
      exact absurd before (by simp [GuestLine.place])
    · intro _ binary copied
      simp only [follows.uncopied (by omega), share] at copied
      exact Written.copy_begins copied
    · intro begins
      cases begins
  case setParams =>
    have place : g.line.place = 2 := by rw [line]; rfl
    have share := follows.share (by omega)
    cases params : runTestParams g.share.fragments with
    | none => exact follows.behind (by simp [GuestLine.place]) rfl
    | some params' =>
      refine ⟨fun _ => share, ?_, fun _ _ => follows.sourced (by omega) (by omega), ?_,
        fun _ => follows.copied (by omega), fun _ => share ▸ params, follows.ran⟩
      · intro begins
        cases begins
      · intro before
        exact absurd before (by simp [GuestLine.place])
  case runTest => exact follows.runTest line
  case awaitProcesses =>
    cases g.late with
    | nil => exact follows.behind (by simp [GuestLine.place]) rfl
    | cons poll late =>
      refine follows.behind ?_ rfl
      change 4 ≤ GuestLine.place (if poll.findsTest then _ else _)
      split_ifs <;> decide
  case off => exact follows
  all_goals exact follows.behind (by simp [GuestLine.place]) rfl

theorem run (follows : g.Follows readWord o vars s) (n : Nat) :
    (g.run readWord o n).Follows readWord o vars s := by
  induction n generalizing g with
  | zero => exact follows
  | succ n ih => exact ih follows.step

theorem boot : (Guest.boot vars s).Follows readWord o vars s := by
  refine ⟨fun _ => rfl, fun _ => rfl, ?_, fun _ => rfl, ?_, ?_, ?_⟩
  · intro begun
    exact absurd begun (Nat.not_succ_le_zero 0)
  · rintro - binary ⟨⟩
  · rintro ⟨⟩
  · rintro run ⟨⟩

end Guest.Follows

/-! ### Complete runs -/

/-- What is printed from the first look at the processes until the log is copied: up to the first
look that finds no process of the test. -/
def printedUntilCopied : List Poll → Bytes
  | [] => []
  | poll :: polls => poll.output ++ if poll.findsTest then printedUntilCopied polls else []

namespace Guest

theorem run_add (m n : Nat) (g : Guest) :
    g.run readWord o (m + n) = (g.run readWord o m).run readWord o n := by
  induction m generalizing g with
  | zero => rw [Nat.zero_add, run]
  | succ m ih => rw [Nat.succ_add, run, ih, run]

theorem run_off {g : Guest} (off : g.line = .off) (n : Nat) : g.run readWord o n = g := by
  have stays : g.step readWord o = g := by
    rw [step, off]
  induction n with
  | zero => rfl
  | succ n ih => rw [run, stays, ih]

/-- All that is printed before the log is copied is in it. -/
theorem run_awaitProcesses (readWord : Bytes → Option (Bytes × Bytes)) (o : GuestOutcomes)
    {g : Guest} (line : g.line = .awaitProcesses) :
    ∃ n late, n ≤ g.late.length + 1 ∧ g.run readWord o n =
      { g with
        line := .copyOutput
        late
        persistent := { g.persistent with
          testOutput := g.persistent.testOutput.map (· ++ printedUntilCopied g.late) } } := by
  cases polls : g.late with
  | nil =>
    refine ⟨1, [], Nat.le_refl 1, ?_⟩
    rw [run, run, step, line]
    simp only [polls, printedUntilCopied, List.append_nil, Option.map_id']
  | cons poll late =>
    let next : Guest :=
      { g with
        line := if poll.findsTest then .awaitProcesses else .copyOutput
        late
        persistent := { g.persistent with
          testOutput := g.persistent.testOutput.map (· ++ poll.output) } }
    have polled : g.step readWord o = next := by
      rw [step, line]
      simp only [polls]
      rfl
    by_cases found : poll.findsTest = true
    · have waits : next.line = .awaitProcesses := if_pos found
      obtain ⟨n, late', few, rest⟩ := run_awaitProcesses readWord o (g := next) waits
      refine ⟨n + 1, late', Nat.succ_le_succ few, ?_⟩
      rw [run, polled]
      refine rest.trans ?_
      simp only [next, Option.map_map, printedUntilCopied, if_pos found]
      congr 3
      funext text
      exact List.append_assoc text poll.output (printedUntilCopied late)
    · refine ⟨1, late, Nat.le_add_left 1 _, ?_⟩
      rw [run, run, polled]
      simp only [next, if_neg found, printedUntilCopied, List.append_nil]
termination_by g.late.length
decreasing_by
  rw [polls]
  exact Nat.lt_succ_self _

end Guest

/-- Every command of the guest does its work. -/
structure GuestOutcomes.Complete (o : GuestOutcomes) : Prop where
  copyFiles : o.copyFiles.status = 0
  copyBinary : o.copyBinary.status = 0
  executable : o.executable = true
  openLog : o.openLog = 0
  logReturnCode : o.logReturnCode.status = 0
  makeResults : o.makeResults = 0
  copyReturnCode : o.copyReturnCode.status = 0
  copyXml : o.copyXml.status = 0
  copyOutput : o.copyOutput.status = 0
  archiveCoverage : o.archiveCoverage.status = 0

/-- What the test leaves, if it is all copied. -/
def TestOutcome.results (t : TestOutcome) (buffered : Bool) : ResultFiles :=
  ⟨some (Decimal.numeral t.status.toNat ++ [10]), t.xml,
    if buffered then some (t.output ++ printedUntilCopied t.late) else none, t.coverage⟩

section Complete

variable {s : Share} {vars sourced : Variables} {params : List Bytes} {binary : Bytes}

/-- The guest with all that the test needs. -/
def Guest.prepared (s : Share) (sourced : Variables) (params : List Bytes)
    (binary : Bytes) : Guest :=
  ⟨.runTest, sourced, params, prepareFiles s, some binary, none, none, [], .empty, s⟩

theorem run_prepared (complete : o.Complete)
    (reads : prepareTest readWord s.fragments (exportedVars s vars) = some sourced)
    (sets : runTestParams s.fragments = some params) (there : s.testBinary = some binary) :
    (Guest.boot vars s).run readWord o 3 = Guest.prepared s sourced params binary := by
  simp only [Guest.run, Guest.boot, Guest.step, reads, sets, there, Written.files,
    complete.copyFiles, if_true, Written.copy_done complete.copyBinary]
  rfl

/-- From the test on, up to the processes that it leaves behind. -/
theorem run_tested (readWord : Bytes → Option (Bytes × Bytes)) (complete : o.Complete)
    (sourced : Variables) (params : List Bytes) (binary : Bytes)
    (clear : hasDirectory (prepareFiles s) ccTestQnx = false) :
    let g := (Guest.prepared s sourced params binary).run readWord o 5
    g.line = .awaitProcesses ∧
      g.ran = some ⟨binary, params, sourced, prepareFiles s, o.test.status⟩ ∧
      g.late = o.test.late ∧
      g.persistent.testOutput = (if buffersOutput sourced then some o.test.output else none) ∧
      g.persistent.coverage = o.test.coverage ∧
      g.share.testResults =
        some ⟨some (Decimal.numeral o.test.status.toNat ++ [10]), o.test.xml, none, none⟩ := by
  have starts : (Guest.prepared s sourced params binary).startTest o = .ok binary := by
    simp [Guest.startTest, Guest.prepared, complete.openLog, complete.executable, clear]
  have tested : (Guest.prepared s sourced params binary).step readWord o =
      ((Guest.prepared s sourced params binary).openLog o).execTest o binary := by
    change Guest.runTest o _ = _
    rw [Guest.runTest, starts]
  rw [Guest.run, tested]
  simp only [Guest.run, Guest.execTest, Guest.openLog, Guest.prepared, Guest.step, Share.inResults,
    complete.openLog, complete.makeResults, if_true, and_true, Written.file, complete.logReturnCode,
    Guest.echoedRc, Written.copy_done complete.copyReturnCode,
    Written.copy_done complete.copyXml, Option.map_some, ResultFiles.empty]
  split_ifs
  · exact ⟨trivial, trivial, trivial, rfl, trivial, rfl⟩
  · exact ⟨trivial, trivial, trivial, rfl, trivial, rfl⟩

/-- From there on nothing stops the copies. -/
theorem run_copied (readWord : Bytes → Option (Bytes × Bytes)) (complete : o.Complete) {g : Guest}
    (line : g.line = .awaitProcesses)
    {r : ResultFiles} (made : g.share.testResults = some r) (fresh : r.testOutput = none)
    (unarchived : r.coverage = none) {n : Nat} (long : g.late.length + 4 ≤ n) :
    let g' := g.run readWord o n
    g'.share.testResults = some { r with
        testOutput := g.persistent.testOutput.map (· ++ printedUntilCopied g.late)
        coverage := g.persistent.coverage } ∧
      g'.ran = g.ran := by
  obtain ⟨m, rest, few, awaited⟩ := Guest.run_awaitProcesses readWord o line
  obtain ⟨k, rfl⟩ : ∃ k, n = m + (3 + k) := ⟨n - (m + 3), by omega⟩
  simp only [Guest.run_add m, awaited, Guest.run_add 3 k]
  rw [Guest.run_off (n := k)]
  · simp only [Guest.run, Guest.step, Share.inResults, made, Option.map_some, fresh, unarchived,
      Written.copy_done complete.copyOutput, Written.copy_done complete.archiveCoverage]
    exact ⟨trivial, trivial⟩
  · rfl

/-- The whole run: everything that the test leaves is in the shared directory. -/
theorem run_complete (complete : o.Complete)
    (reads : prepareTest readWord s.fragments (exportedVars s vars) = some sourced)
    (sets : runTestParams s.fragments = some params) (there : s.testBinary = some binary)
    (clear : hasDirectory (prepareFiles s) ccTestQnx = false) {n : Nat}
    (long : 12 + o.test.late.length ≤ n) :
    let g := (Guest.boot vars s).run readWord o n
    g.share.testResults = some (o.test.results (buffersOutput sourced)) ∧
      g.ran = some ⟨binary, params, sourced, prepareFiles s, o.test.status⟩ := by
  obtain ⟨line, ran, late, output, coverage, results⟩ :=
    run_tested readWord complete sourced params binary clear
  obtain ⟨k, rfl⟩ : ∃ k, n = 3 + (5 + k) := ⟨n - 8, by omega⟩
  simp only [Guest.run_add 3, run_prepared complete reads sets there, Guest.run_add 5]
  obtain ⟨copied, same⟩ := run_copied readWord complete line results rfl rfl
    (n := k) (by rw [late]; omega)
  refine ⟨copied.trans ?_, same.trans ran⟩
  rw [output, coverage, late, TestOutcome.results]
  split_ifs
  · rfl
  · rfl

end Complete

end Virtio9p
