import Virtio9p.Scripts.Launch

/-!
# Runs of the launch scripts

What the machine finds in the shared directory, and how a script ends: before the machine has run,
with a status other than 0, or with the status that the guest left behind.
-/
namespace Virtio9p

open Script Attempt

/-! ### What the machine finds -/

def Runner.populated (caller : Caller) : Runner → Share
  | .runQemu image =>
    { Share.empty with
      testBinary := some image.testBinary, filters := some image.filters,
      runfiles := image.runfiles, libs := image.libs }
  | .runUnder testBinary testArgs _ =>
    { Share.empty with
      testBinary, filters := some (filterFile caller.vars),
      fragments := writeExtraArgs testArgs Share.empty.fragments }

section Host

variable (o : HostOutcomes) (printfQ : Bytes → Bytes) (printed : Printed)
  (collates : Bytes → Bytes → Prop) [DecidableRel collates] (caller : Caller) (runner : Runner)

/-- The forwarded variables as the script writes them. -/
def Runner.forwarded : Nat × ShareDir :=
  writeForwardedEnv printfQ caller.own (runner.variables caller) (runner.populated caller).fragments

/-- The shared directory when the machine is started. -/
def Runner.shared : Share :=
  let s := { runner.populated caller with fragments := (runner.forwarded printfQ caller).2 }
  match runner with
  | .runQemu _ => s
  | .runUnder _ _ tree => copyRunfiles collates tree s

theorem Runner.shared_fresh : (runner.shared printfQ collates caller).testResults = none := by
  cases runner with
  | runQemu image => rfl
  | runUnder testBinary testArgs tree =>
    rw [shared]
    simp only [copyRunfiles]
    cases tree.launcher with
    | none => rfl
    | some launcher => rfl

/-- All that a script does before it runs the machine succeeds. -/
structure HostOutcomes.Starts : Prop where
  mktemp : o.mktemp = 0
  removeEntries : o.removeEntries = 0
  makeDirectory : o.makeDirectory = 0
  unpackImage : o.unpackImage = 0
  copyBinary : o.copyBinary = 0
  writeFilters : o.writeFilters = 0
  writeArgs : o.writeArgs = 0
  writeEnv : o.writeEnv = 0
  copyRunfiles : o.copyRunfiles = 0
  setupAccel : o.setupAccel = 0

/-- A failure before the machine is run. -/
def Launch.Unstarted (e : UInt8) (l : Launch) : Prop :=
  e ≠ 0 ∧ l.vm = none ∧ ¬ (o.Starts ∧ (runner.forwarded printfQ caller).1 = 0)

/-- The state with a given shared directory and nothing extracted yet. -/
def Launch.sharing (s : Share) : Launch :=
  { Launch.start caller with
    share := some s
    created := !caller.vars.nonempty fsdevPath || (Launch.start caller).created }

/-- A command that has to succeed before the machine is run. -/
theorem ensures_startup {status : UInt8} {work : Launch → Launch} {l l' : Launch}
    (unstarted : l.vm = none) (done : work l = l') (needed : o.Starts → status = 0) :
    Ensures (· = l) (Launch.Unstarted o printfQ caller runner) (fun _ => (· = l'))
      (command status work) := by
  refine ensures_command ?_ ?_
  · rintro s failed rfl
    exact ⟨failed, unstarted, fun starts => failed (needed starts.1)⟩
  · rintro s - rfl
    exact done

/-- The last command of a row. -/
theorem ensures_last {Pre Post : Launch → Prop} {Fail : UInt8 → Launch → Prop} {c : Script Launch}
    (last : Ensures Pre Fail (fun _ => Post) c) : Ensures Pre Fail (fun _ => Post) (sequence [c]) :=
  last.bind fun _ => ensures_pure fun _ post => post

variable {o printfQ collates caller runner}

theorem setup_ensures :
    Ensures (· = Launch.start caller) (Launch.Unstarted o printfQ caller runner)
      (fun _ => (· = Launch.sharing caller .empty)) (qemuSetupFsdev o caller) := by
  unfold qemuSetupFsdev
  cases given : caller.vars.nonempty fsdevPath with
  | false =>
    rw [if_neg Bool.false_ne_true]
    refine (ensures_startup o printfQ caller runner rfl rfl fun starts => starts.mktemp).bind
      fun _ => ensures_last (ensures_startup o printfQ caller runner rfl ?_
        fun starts => starts.makeDirectory)
    simp [Launch.sharing, given]
  | true =>
    rw [if_pos rfl]
    refine (ensures_startup o printfQ caller runner rfl rfl fun starts => starts.removeEntries).bind
      fun _ => ensures_last (ensures_startup o printfQ caller runner rfl ?_
        fun starts => starts.makeDirectory)
    -- what was there is empty now
    have emptied : ((Launch.start caller).share.map Share.cleared).getD .empty = .empty := by
      cases (Launch.start caller).share with
      | none => rfl
      | some s => rfl
    simp [Launch.sharing, given, Launch.inShare, emptied]

theorem populate_ensures :
    Ensures (· = Launch.sharing caller .empty) (Launch.Unstarted o printfQ caller runner)
      (fun _ => (· = Launch.sharing caller (runner.populated caller)))
      (populate o caller runner) := by
  cases runner with
  | runQemu image =>
    exact ensures_startup o printfQ caller _ rfl rfl fun starts => starts.unpackImage
  | runUnder testBinary testArgs tree =>
    refine (ensures_startup o printfQ caller _ rfl rfl fun starts => starts.copyBinary).bind
      fun _ => (ensures_startup o printfQ caller _ rfl rfl fun starts => starts.writeFilters).bind
        fun _ => ensures_last (ensures_startup o printfQ caller _ rfl rfl
          fun starts => starts.writeArgs)

/-- The fragment with the forwarded variables is all that is written, and the status is 0 or 1. -/
theorem writeForwardedEnv_result (printfQ : Bytes → Bytes) (own : OwnVariables) (vars : Variables)
    (d : ShareDir) :
    ∃ env, writeForwardedEnv printfQ own vars d = (0, { d with env }) ∨
      writeForwardedEnv printfQ own vars d = (1, { d with env }) := by
  unfold writeForwardedEnv
  simp only
  cases checkNames (readNames ((vars qnxForwardEnv).getD [])) none with
  | none => exact ⟨none, .inr rfl⟩
  | some rematch =>
    simp only
    split_ifs
    · exact ⟨_, .inl rfl⟩
    · exact ⟨_, .inl rfl⟩

theorem writeForwardedEnv_status (printfQ : Bytes → Bytes) (own : OwnVariables) (vars : Variables)
    (d : ShareDir) :
    UInt8.ofNat (writeForwardedEnv printfQ own vars d).1 = 0 ↔
      (writeForwardedEnv printfQ own vars d).1 = 0 := by
  obtain ⟨env, written | refused⟩ := writeForwardedEnv_result printfQ own vars d
  · rw [written]
    exact iff_of_true rfl rfl
  · rw [refused]
    exact iff_of_false (by simp) (by simp)

theorem forwardedEnv_ensures :
    Ensures (· = Launch.sharing caller (runner.populated caller))
      (Launch.Unstarted o printfQ caller runner)
      (fun _ => (· = Launch.sharing caller
        { runner.populated caller with fragments := (runner.forwarded printfQ caller).2 }))
      (qemuWriteForwardedEnv o printfQ caller runner) := by
  intro l start
  subst start
  have status := writeForwardedEnv_status printfQ caller.own (runner.variables caller)
    (runner.populated caller).fragments
  let written := Launch.sharing caller
    { runner.populated caller with fragments := (runner.forwarded printfQ caller).2 }
  have writes : Ensures (· = Launch.sharing caller (runner.populated caller))
      (Launch.Unstarted o printfQ caller runner) (fun _ => (· = written))
      (act (Launch.inShare fun s =>
        { s with
          fragments :=
            (writeForwardedEnv printfQ caller.own (runner.variables caller) s.fragments).2 })) := by
    refine ensures_act ?_
    rintro l rfl
    rfl
  refine (ensures_startup o printfQ caller runner rfl rfl fun starts => starts.writeEnv).bind
    (fun _ => writes.bind fun _ => ensures_last (ensures_command ?_ ?_))
    (Launch.sharing caller (runner.populated caller)) rfl
  · rintro l failed rfl
    exact ⟨failed, rfl, fun starts => failed (status.mpr starts.2)⟩
  · rintro l - rfl
    rfl

/-- With an invalid name the script ends here. -/
theorem forwardedEnv_refused (refused : (runner.forwarded printfQ caller).1 ≠ 0) :
    Ensures (· = Launch.sharing caller (runner.populated caller))
      (Launch.Unstarted o printfQ caller runner) (fun _ _ => False)
      (qemuWriteForwardedEnv o printfQ caller runner) := by
  intro l start
  subst start
  have status := writeForwardedEnv_status printfQ caller.own (runner.variables caller)
    (runner.populated caller).fragments
  have writes : Ensures (· = Launch.sharing caller (runner.populated caller))
      (Launch.Unstarted o printfQ caller runner) (fun _ l => l.vm = none)
      (act (Launch.inShare fun s =>
        { s with
          fragments :=
            (writeForwardedEnv printfQ caller.own (runner.variables caller) s.fragments).2 })) := by
    refine ensures_act ?_
    rintro l rfl
    rfl
  have fails : Ensures (·.vm = none) (Launch.Unstarted o printfQ caller runner) (fun _ _ => False)
      (command (UInt8.ofNat (runner.forwarded printfQ caller).1) id) := by
    refine ensures_command ?_ ?_
    · rintro l failed unstarted
      exact ⟨failed, unstarted, fun starts => refused starts.2⟩
    · rintro l zero -
      exact refused (status.mp zero)
  exact (ensures_startup o printfQ caller runner rfl rfl fun starts => starts.writeEnv).bind
    (fun _ => writes.bind fun _ => ensures_last fails)
    (Launch.sharing caller (runner.populated caller)) rfl

theorem populateRunfiles_ensures (collates : Bytes → Bytes → Prop) [DecidableRel collates] :
    Ensures (· = Launch.sharing caller
        { runner.populated caller with fragments := (runner.forwarded printfQ caller).2 })
      (Launch.Unstarted o printfQ caller runner)
      (fun _ => (· = Launch.sharing caller (runner.shared printfQ collates caller)))
      (populateRunfiles o collates runner) := by
  cases runner with
  | runQemu image => exact ensures_act fun l start => start
  | runUnder testBinary testArgs tree =>
    exact ensures_startup o printfQ caller _ rfl rfl fun starts => starts.copyRunfiles

end Host

/-! ### What is extracted -/

section Extraction

/-- All that a script does from the machine on succeeds. -/
structure HostOutcomes.Extracts (o : HostOutcomes) (caller : Caller) : Prop where
  qemu : o.qemu = 0
  sedPrintable : o.sedPrintable = 0
  sedReturn : o.sedReturn = 0
  copyXml : o.copyXml = 0
  showLog : o.showLog = 0
  unpackUndeclared : o.unpackUndeclared = 0
  unpackCoverage : o.unpackCoverage = 0
  readReturnCode : o.readReturnCode = 0
  xmlFile : (caller.vars xmlOutputFile).isSome
  undeclaredDir : (caller.vars testUndeclaredOutputsDir).isSome

/-- The state behind the machine. -/
def Launch.ran (caller : Caller) (g : Guest) : Launch :=
  { Launch.sharing caller g.share with vm := some g }

/-- The files that the guest left. -/
def Guest.results (g : Guest) : ResultFiles := g.share.testResults.getD .empty

def ResultFiles.status (r : ResultFiles) : UInt8 := r.returncode.elim 1 returnStatus

/-- The state with all files extracted. -/
def Launch.extracted (printed : Printed) (caller : Caller) (g : Guest) : Launch :=
  { Launch.ran caller g with
    xml := g.results.testXml
    log := g.results.testOutput.elim [] printed
    undeclared := g.results.coverage
    coverage := if caller.vars.nonempty coverageDir then g.results.coverage else none }

variable {o : HostOutcomes} {printed : Printed} {caller : Caller} {g : Guest}

/-- A failure behind the machine. -/
def Launch.Unextracted (o : HostOutcomes) (caller : Caller) (g : Guest) (e : UInt8) (l : Launch) :
    Prop :=
  e ≠ 0 ∧ l.vm = some g ∧ ¬ o.Extracts caller

theorem ensures_extraction {status : UInt8} {work : Launch → Launch} {l l' : Launch}
    (there : l.vm = some g) (done : work l = l') (needed : o.Extracts caller → status = 0) :
    Ensures (· = l) (Launch.Unextracted o caller g) (fun _ => (· = l')) (command status work) := by
  refine ensures_command ?_ ?_
  · rintro s failed rfl
    exact ⟨failed, there, fun extracts => failed (needed extracts)⟩
  · rintro s - rfl
    exact done

theorem needVar_ensures {name : Bytes} {l : Launch} (there : l.vm = some g)
    (needed : o.Extracts caller → (caller.vars name).isSome) :
    Ensures (· = l) (Launch.Unextracted o caller g) (fun _ => (· = l)) (needVar caller name) :=
  ensures_extraction there rfl fun extracts => if_pos (needed extracts)

theorem runMachine_ensures {machine : Share → Guest} {s : Share} :
    Ensures (· = Launch.sharing caller s) (Launch.Unextracted o caller (machine s))
      (fun _ => (· = Launch.ran caller (machine s))) (runMachine o machine) := by
  have started : Ensures (· = Launch.sharing caller s) (Launch.Unextracted o caller (machine s))
      (fun _ => (· = Launch.ran caller (machine s)))
      (act fun l =>
        { l with vm := l.share.map machine, share := (l.share.map machine).map Guest.share }) := by
    refine ensures_act ?_
    rintro l rfl
    rfl
  refine started.bind fun _ => ensures_last (ensures_extraction rfl rfl ?_)
  intro extracts
  rw [pipefail_eq_zero]
  simp [extracts.qemu, extracts.sedPrintable, extracts.sedReturn]

/-- A file is used if it is there. -/
theorem withFile_ensures {file : Option Bytes} {use : Bytes → List (Script Launch)} {l : Launch}
    {Fail : UInt8 → Launch → Prop} (l' : Option Bytes → Launch) (absent : l = l' none)
    (used : ∀ content, Ensures (· = l) Fail (fun _ => (· = l' (some content)))
      (sequence (use content))) :
    Ensures (· = l) Fail (fun _ => (· = l' file)) (withFile file use) := by
  cases file with
  | none =>
    refine ensures_act ?_
    rintro s rfl
    exact absent
  | some content => exact used content

theorem extractFiles_ensures :
    Ensures (· = Launch.ran caller g) (Launch.Unextracted o caller g)
      (fun _ => (· = Launch.extracted printed caller g))
      (extractFiles o printed caller g.results) := by
  let withXml (file : Option Bytes) : Launch := { Launch.ran caller g with xml := file }
  let withLog (file : Option Bytes) : Launch :=
    { withXml g.results.testXml with log := file.elim [] printed }
  let withCoverage (file : Option Bytes) : Launch :=
    { withLog g.results.testOutput with
      undeclared := file, coverage := if caller.vars.nonempty coverageDir then file else none }
  have uncovered : withLog g.results.testOutput = withCoverage none := by
    simp [withCoverage, withLog, withXml, Launch.ran, Launch.sharing, Launch.start]
  refine (withFile_ensures withXml rfl ?_).bind fun _ => (withFile_ensures withLog rfl ?_).bind
    fun _ => ensures_last (withFile_ensures withCoverage uncovered ?_)
  · intro content
    exact (needVar_ensures rfl fun extracts => extracts.xmlFile).bind fun _ =>
      ensures_last (ensures_extraction rfl rfl fun extracts => extracts.copyXml)
  · intro content
    exact ensures_last (ensures_extraction rfl rfl fun extracts => extracts.showLog)
  · intro archive
    refine (needVar_ensures rfl fun extracts => extracts.undeclaredDir).bind fun _ =>
      (ensures_extraction rfl rfl fun extracts => extracts.unpackUndeclared).bind fun _ =>
        ensures_last ?_
    by_cases covered : caller.vars.nonempty coverageDir = true
    · rw [if_pos covered]
      exact ensures_extraction rfl (by simp [withCoverage, covered])
        fun extracts => extracts.unpackCoverage
    · rw [if_neg covered]
      refine ensures_act ?_
      rintro l rfl
      simp [withCoverage, covered, withLog, withXml, Launch.ran, Launch.sharing, Launch.start]

/-- A script that has run the machine exits with the status the guest left, or fails before. -/
theorem extractResults_ensures :
    Ensures (· = Launch.ran caller g)
      (fun e l => Launch.Unextracted o caller g e l ∨
        l = Launch.extracted printed caller g ∧ e = g.results.status)
      (fun _ _ => False) (qemuExtractResults o printed caller) := by
  intro l start
  subst start
  refine (extractFiles_ensures.weaken (fun _ pre => pre) (fun _ _ => .inl)
    fun _ _ post => post).bind
    (fun _ => ?_) (Launch.ran caller g) rfl
  change Ensures _ _ _ (exitWithCode o g.results.returncode)
  cases code : g.results.returncode with
  | none =>
    refine ensures_fail fun l same => .inr ⟨same, ?_⟩
    rw [ResultFiles.status, code]
    rfl
  | some text =>
    have read : Ensures (· = Launch.extracted printed caller g) (Launch.Unextracted o caller g)
        (fun _ => (· = Launch.extracted printed caller g)) (command o.readReturnCode id) :=
      ensures_extraction rfl rfl fun extracts => extracts.readReturnCode
    refine (read.weaken (fun _ pre => pre) (fun _ _ => .inl) fun _ _ post => post).bind
      fun _ => ensures_fail fun l same => .inr ⟨same, ?_⟩
    rw [ResultFiles.status, code]
    rfl

end Extraction

/-! ### The whole script -/

/-- Nothing that a script does fails. -/
structure HostOutcomes.Complete (o : HostOutcomes) (caller : Caller) : Prop where
  starts : o.Starts
  extracts : o.Extracts caller
  removes : o.removeShare = 0

section Whole

variable (o : HostOutcomes) (printfQ : Bytes → Bytes) (printed : Printed)
  (collates : Bytes → Bytes → Prop) [DecidableRel collates] (caller : Caller) (runner : Runner)
  (machine : Share → Guest)

/-- How a script ends, its exit trap aside. -/
def Launch.Outcome (g : Guest) (e : UInt8) (l : Launch) : Prop :=
  Launch.Unstarted o printfQ caller runner e l ∨
    (runner.forwarded printfQ caller).1 = 0 ∧ (Launch.Unextracted o caller g e l ∨
      l = Launch.extracted printed caller g ∧ e = g.results.status)

theorem launch_ensures :
    let g := machine (runner.shared printfQ collates caller)
    Ensures (· = Launch.start caller) (Launch.Outcome o printfQ printed caller runner g)
      (fun _ _ => False)
      ((sequence
        [qemuSetupFsdev o caller, populate o caller runner,
          qemuWriteForwardedEnv o printfQ caller runner, populateRunfiles o collates runner,
          command o.setupAccel id, runMachine o machine]).bind
        fun _ => qemuExtractResults o printed caller) := by
  intro g
  let Outcome := Launch.Outcome o printfQ printed caller runner g
  have step {Pre : Launch → Prop} {Fail : UInt8 → Launch → Prop} {Post : Unit → Launch → Prop}
      {c : Script Launch} (fails : ∀ e l, Fail e l → Outcome e l)
      (ensures : Ensures Pre Fail Post c) :
      Ensures Pre Outcome Post c :=
    ensures.weaken (fun _ pre => pre) fails fun _ _ post => post
  have early : ∀ e l, Launch.Unstarted o printfQ caller runner e l → Outcome e l := fun e l => .inl
  by_cases forwards : (runner.forwarded printfQ caller).1 = 0
  · have late : ∀ e l, Launch.Unextracted o caller g e l → Outcome e l :=
      fun e l failed => .inr ⟨forwards, .inl failed⟩
    have started : Ensures (· = Launch.start caller) Outcome (fun _ => (· = Launch.ran caller g))
        (sequence
          [qemuSetupFsdev o caller, populate o caller runner,
            qemuWriteForwardedEnv o printfQ caller runner, populateRunfiles o collates runner,
            command o.setupAccel id, runMachine o machine]) :=
      (step early setup_ensures).bind fun _ => (step early populate_ensures).bind fun _ =>
        (step early forwardedEnv_ensures).bind fun _ =>
          (step early (populateRunfiles_ensures collates)).bind fun _ =>
            (step early (ensures_startup o printfQ caller runner rfl rfl
              fun starts => starts.setupAccel)).bind fun _ =>
                ensures_last (step late runMachine_ensures)
    refine started.bind fun _ => step ?_ extractResults_ensures
    rintro e l (failed | ended)
    · exact late e l failed
    · exact .inr ⟨forwards, .inr ended⟩
  · have refused : Ensures (· = Launch.start caller) Outcome (fun _ _ => False)
        (sequence
          [qemuSetupFsdev o caller, populate o caller runner,
            qemuWriteForwardedEnv o printfQ caller runner, populateRunfiles o collates runner,
            command o.setupAccel id, runMachine o machine]) :=
      (step early setup_ensures).bind fun _ => (step early populate_ensures).bind fun _ =>
        (step early (forwardedEnv_refused forwards)).bind fun _ l impossible => impossible.elim
    exact refused.bind fun _ l impossible => impossible.elim

end Whole

end Virtio9p
