import Virtio9p.Properties.TestVerdict

/-!
# The shared directory behind a script

On every way out of a launch script: the directory that it made is gone, and the one that it was
given is still there, unless the caller's environment claims that the script made it.
-/
namespace Virtio9p

open Script

/-- A directory that is there stays, and who made it stays known. -/
def Launch.Keeps (l l' : Launch) : Prop :=
  l'.created = l.created ∧ (l.share.isSome → l'.share.isSome)

def KeepsDirectory (c : Script Launch) : Prop := ∀ l : Launch, l.Keeps (c l).2

theorem Launch.Keeps.trans {l₁ l₂ l₃ : Launch} (first : l₁.Keeps l₂) (later : l₂.Keeps l₃) :
    l₁.Keeps l₃ := ⟨later.1.trans first.1, fun there => later.2 (first.2 there)⟩

section Rules

variable {o : HostOutcomes} {caller : Caller}

theorem keeps_act {work : Launch → Launch} (keeps : ∀ l : Launch, l.Keeps (work l)) :
    KeepsDirectory (act work) := keeps

theorem keeps_fail (status : UInt8) : KeepsDirectory (Attempt.fail status) := fun _ => ⟨rfl, id⟩

theorem keeps_command {status : UInt8} {work : Launch → Launch}
    (keeps : ∀ l : Launch, l.Keeps (work l)) :
    KeepsDirectory (command status work) := by
  intro l
  unfold command
  split_ifs
  · exact keeps l
  · exact ⟨rfl, id⟩

theorem keeps_bind {c : Script Launch} {rest : Unit → Script Launch} (first : KeepsDirectory c)
    (later : ∀ u, KeepsDirectory (rest u)) : KeepsDirectory (c.bind rest) := by
  intro l
  have kept := first l
  change l.Keeps (Attempt.fold c rest Attempt.fail l).2
  rw [Attempt.fold]
  revert kept
  obtain ⟨e | a, l'⟩ := c l <;> intro kept
  · exact kept
  · exact kept.trans (later a l')

theorem keeps_sequence {commands : List (Script Launch)} (each : ∀ c ∈ commands, KeepsDirectory c) :
    KeepsDirectory (sequence commands) := by
  induction commands with
  | nil => exact fun _ => ⟨rfl, id⟩
  | cons c commands ih =>
    exact keeps_bind (each c List.mem_cons_self)
      fun _ => ih fun later member => each later (List.mem_cons_of_mem c member)

theorem keeps_inShare (change : Share → Share) (l : Launch) : l.Keeps (l.inShare change) := by
  refine ⟨rfl, ?_⟩
  rw [Launch.inShare, Option.isSome_map]
  exact id

theorem keeps_withFile {file : Option Bytes} {use : Bytes → List (Script Launch)}
    (each : ∀ content, ∀ c ∈ use content, KeepsDirectory c) :
    KeepsDirectory (withFile file use) := by
  cases file with
  | none => exact keeps_act fun _ => ⟨rfl, id⟩
  | some content => exact keeps_sequence (each content)

theorem keeps_populate (runner : Runner) : KeepsDirectory (populate o caller runner) := by
  cases runner with
  | runQemu image => exact keeps_command (keeps_inShare _)
  | runUnder testBinary testArgs tree =>
    refine keeps_sequence ?_
    simp only [List.forall_mem_cons]
    exact ⟨keeps_command (keeps_inShare _), keeps_command (keeps_inShare _),
      keeps_command (keeps_inShare _), List.forall_mem_nil _⟩

theorem keeps_forwardedEnv (printfQ : Bytes → Bytes) (runner : Runner) :
    KeepsDirectory (qemuWriteForwardedEnv o printfQ caller runner) := by
  intro l
  refine keeps_sequence ?_ l
  simp only [List.forall_mem_cons]
  exact ⟨keeps_command fun _ => ⟨rfl, id⟩, keeps_act (keeps_inShare _),
    keeps_command fun _ => ⟨rfl, id⟩, List.forall_mem_nil _⟩

theorem keeps_populateRunfiles (collates : Bytes → Bytes → Prop) [DecidableRel collates]
    (runner : Runner) : KeepsDirectory (populateRunfiles o collates runner) := by
  cases runner with
  | runQemu image => exact keeps_act fun _ => ⟨rfl, id⟩
  | runUnder testBinary testArgs tree => exact keeps_command (keeps_inShare _)

theorem keeps_runMachine (machine : Share → Guest) : KeepsDirectory (runMachine o machine) := by
  refine keeps_sequence ?_
  simp only [List.forall_mem_cons]
  refine ⟨keeps_act fun l => ⟨rfl, ?_⟩, keeps_command fun _ => ⟨rfl, id⟩, List.forall_mem_nil _⟩
  simp only [Option.isSome_map]
  exact id

theorem keeps_extractResults (printed : Printed) :
    KeepsDirectory (qemuExtractResults o printed caller) := by
  intro l
  refine keeps_bind (keeps_sequence ?_) (fun _ => ?_) l
  · simp only [List.forall_mem_cons]
    refine ⟨keeps_withFile fun content => ?_, keeps_withFile fun content => ?_,
      keeps_withFile fun archive => ?_, List.forall_mem_nil _⟩
    · simp only [List.forall_mem_cons]
      exact ⟨keeps_command fun _ => ⟨rfl, id⟩, keeps_command fun _ => ⟨rfl, id⟩,
        List.forall_mem_nil _⟩
    · simp only [List.forall_mem_cons]
      exact ⟨keeps_command fun _ => ⟨rfl, id⟩, List.forall_mem_nil _⟩
    · simp only [List.forall_mem_cons]
      refine ⟨keeps_command fun _ => ⟨rfl, id⟩, keeps_command fun _ => ⟨rfl, id⟩, ?_,
        List.forall_mem_nil _⟩
      split_ifs
      · exact keeps_command fun _ => ⟨rfl, id⟩
      · exact keeps_act fun _ => ⟨rfl, id⟩
  · unfold exitWithCode
    split
    · exact keeps_fail 1
    · exact keeps_bind (keeps_command fun _ => ⟨rfl, id⟩) fun _ => keeps_fail _

/-- A directory that was given is used as it is. -/
theorem keeps_setup (given : caller.vars.nonempty fsdevPath = true) :
    KeepsDirectory (qemuSetupFsdev o caller) := by
  refine keeps_sequence ?_
  rw [if_pos given]
  simp only [List.forall_mem_cons]
  exact ⟨keeps_command (keeps_inShare _), keeps_command fun l => ⟨rfl, fun _ => rfl⟩,
    List.forall_mem_nil _⟩

theorem ensures_of_keeps {c : Script Launch} (keeps : KeepsDirectory c) :
    Attempt.Ensures (·.created = true) (fun _ l => l.created = true)
      (fun _ l => l.created = true) c := by
  intro l created
  have kept := (keeps l).1.trans created
  revert kept
  obtain ⟨e | a, l'⟩ := c l <;> exact id

/-- Without one, a new directory is made, or there is none. -/
theorem setup_creates (none : caller.vars.nonempty fsdevPath = false) :
    Attempt.Ensures (· = Launch.start caller) (fun _ l => l.created = true ∨ l.share = Option.none)
      (fun _ l => l.created = true) (qemuSetupFsdev o caller) := by
  unfold qemuSetupFsdev
  rw [if_neg (by simp [none])]
  have made : Attempt.Ensures (· = Launch.start caller)
      (fun _ l => l.created = true ∨ l.share = Option.none) (fun _ l => l.created = true)
      (command o.mktemp fun l => { l with share := some .empty, created := true }) := by
    refine ensures_command ?_ ?_
    · rintro l - rfl
      exact .inr (if_neg (by simp [none]))
    · rintro l - rfl
      rfl
  refine made.bind fun _ => ensures_last (ensures_command ?_ ?_)
  · exact fun l _ created => .inl created
  · exact fun l _ created => created

end Rules

section Cleanup

variable {host : HostOutcomes} {printfQ : Bytes → Bytes} {printed : Printed}
  {collates : Bytes → Bytes → Prop} [DecidableRel collates] {caller : Caller} {runner : Runner}
  {machine : Share → Guest}

/-- What a script does behind the set-up of the directory. -/
theorem keeps_rest : ∀ c ∈ [populate host caller runner,
    qemuWriteForwardedEnv host printfQ caller runner, populateRunfiles host collates runner,
    command host.setupAccel id, runMachine host machine], KeepsDirectory c := by
  simp only [List.forall_mem_cons]
  exact ⟨keeps_populate runner, keeps_forwardedEnv printfQ runner,
    keeps_populateRunfiles collates runner,
    keeps_command fun _ => ⟨rfl, id⟩, keeps_runMachine machine, List.forall_mem_nil _⟩

theorem cleanup_created (removes : host.removeShare = 0) {l : Launch}
    (created : l.created = true ∨ l.share = none) : (qemuCleanupFsdev host l).2.share = none := by
  unfold qemuCleanupFsdev
  by_cases made : l.created = true
  · rw [if_pos made, command, if_pos removes]
  · rw [if_neg made]
    exact created.resolve_left made

theorem cleanup_given {l : Launch} (created : l.created = false) :
    (qemuCleanupFsdev host l).2.share = l.share := by
  unfold qemuCleanupFsdev
  rw [created, if_neg Bool.false_ne_true]
  rfl

theorem launch_removes (none : caller.vars.nonempty fsdevPath = false)
    (removes : host.removeShare = 0) :
    (launch host printfQ printed collates caller runner machine (Launch.start caller)).2.share =
      Option.none := by
  rw [launch, trapExit_state]
  apply cleanup_created removes
  have created : Attempt.Ensures (· = Launch.start caller)
      (fun _ l => l.created = true ∨ l.share = Option.none) (fun _ l => l.created = true)
      ((sequence
        [qemuSetupFsdev host caller, populate host caller runner,
          qemuWriteForwardedEnv host printfQ caller runner, populateRunfiles host collates runner,
          command host.setupAccel id, runMachine host machine]).bind
        fun _ => qemuExtractResults host printed caller) := by
    have weak {c : Script Launch} (keeps : KeepsDirectory c) :
        Attempt.Ensures (·.created = true) (fun _ l => l.created = true ∨ l.share = Option.none)
          (fun _ l => l.created = true) c :=
      (ensures_of_keeps keeps).weaken (fun _ pre => pre) (fun _ _ => .inl) fun _ _ post => post
    exact ((setup_creates none).bind fun _ => weak (keeps_sequence keeps_rest)).bind
      fun _ => weak (keeps_extractResults printed)
  have ends := created (Launch.start caller) rfl
  revert ends
  generalize (Attempt.bind _ _ (Launch.start caller) : Except UInt8 Unit × Launch) = ended
  obtain ⟨status | _, l⟩ := ended
  · exact id
  · exact .inl

theorem keeps_launched (host : HostOutcomes) (printfQ : Bytes → Bytes) (printed : Printed)
    (collates : Bytes → Bytes → Prop) [DecidableRel collates] (runner : Runner)
    (machine : Share → Guest) (given : caller.vars.nonempty fsdevPath = true) :
    KeepsDirectory ((sequence
      [qemuSetupFsdev host caller, populate host caller runner,
        qemuWriteForwardedEnv host printfQ caller runner, populateRunfiles host collates runner,
        command host.setupAccel id, runMachine host machine]).bind
      fun _ => qemuExtractResults host printed caller) := by
  refine keeps_bind (keeps_sequence ?_) fun _ => keeps_extractResults printed
  rw [List.forall_mem_cons]
  exact ⟨keeps_setup given, keeps_rest⟩

end Cleanup

/-- Behind a script no directory is left that it made, and one that it was given is left, but for a
caller with `FSDEV_PATH_CREATED=1` in the environment, for whom it is removed. -/
theorem share_cleaned_up (host : HostOutcomes) (printfQ : Bytes → Bytes) (printed : Printed)
    (collates : Bytes → Bytes → Prop) [DecidableRel collates] (caller : Caller) (runner : Runner)
    (machine : Share → Guest) :
    let left :=
      (runScript host printfQ printed collates caller runner machine (Launch.start caller)).2.share
    let given := caller.vars.nonempty fsdevPath
    let claimed : Bool := caller.vars fsdevPathCreated = some [49]
    (given = false → host.removeShare = 0 → left = none) ∧
      (given = true → claimed = true → host.removeShare = 0 → runner.testBinary.isSome →
        left = none) ∧
      (given = true → claimed = false → caller.share.isSome → left.isSome) := by
  intro left given claimed
  by_cases missing : ∃ testArgs tree, runner = .runUnder none testArgs tree
  · obtain ⟨testArgs, tree, rfl⟩ := missing
    have untouched : left = if given then caller.share else none := rfl
    rw [untouched]
    refine ⟨?_, ?_, ?_⟩
    · intro absent _
      rw [absent, if_neg Bool.false_ne_true]
    · intro _ _ _ there
      cases there
    · intro there _ some
      rw [if_pos there]
      exact some
  · have launched : left = (launch host printfQ printed collates caller runner machine
        (Launch.start caller)).2.share := by
      cases runner with
      | runQemu image => rfl
      | runUnder testBinary testArgs tree =>
        cases testBinary with
        | none => exact absurd ⟨testArgs, tree, rfl⟩ missing
        | some binary => rfl
    rw [launched]
    refine ⟨launch_removes, ?_, ?_⟩
    · intro there flag removes _
      rw [launch, trapExit_state]
      apply cleanup_created removes
      have kept := keeps_launched host printfQ printed collates runner machine there
      exact .inl ((kept (Launch.start caller)).1.trans flag)
    · intro there flag some
      rw [launch, trapExit_state]
      obtain ⟨created, kept⟩ :=
        keeps_launched host printfQ printed collates runner machine there (Launch.start caller)
      rw [cleanup_given (created.trans flag)]
      apply kept
      rw [Launch.start, if_pos there]
      exact some

end Virtio9p
