import Virtio9p.Properties.Transparency
import Virtio9p.Scripts.StartupProgress

/-!
# Mounting at start-up

The loop of `startup.sh` with the processes that its mounts start, in any order of their steps. It
is over only if a driver has reported that it serves, no other driver ever serves, and it does not
hang: every process that is waited for goes on.
-/
namespace Virtio9p

variable {σ : Type} {D : TransportService σ} {q : Qnx} {args : List Bytes}

/-! ### Safety -/

/-- In every run: no mount but the last has a child that serves or will; a mount exits with 0
exactly if its child has reported that it serves, and the loop is over only then; a child runs with
the configuration that the mount asks for; and what was ever answered are the answers of one driver
from its initialization on. -/
theorem mount_loop_safe (D : TransportService σ) (q : Qnx) (args : List Bytes)
    (events : List BootEvent) :
    let run := (bootLoop D q args).run events (Boot.start args)
    let b := run.2
    let answers := run.1.filterMap id
    (∀ a ∈ b.earlier, ∀ c, a.child = some c → c.Failed) ∧
      (∀ status, b.daemon.parent = .exited status →
        (status = 0 ↔ ∃ c, b.daemon.child = some c ∧ c.ready = true)) ∧
      (b.mounted = true → ∃ c, b.daemon.child = some c ∧ c.ready = true) ∧
      (∀ c, b.daemon.child = some c →
        ∃ m, mountLoop args .new = some m ∧ m.mountpoint ≠ [] ∧ mountConfig args = m.config) ∧
      (answers = [] ∨ ∃ number w, Started D number (mountConfig args) w ∧
        answers.map Prod.snd =
          ((driver D.transport q).run (answers.map Prod.fst) ⟨w, []⟩).1) := by
  intro run b answers
  have sound : b.Sound D args := Boot.sound_run events
  refine ⟨?_, fun status exited => sound.exits exited, sound.ready, ?_, ?_⟩
  · intro a member c there
    exact (sound.rejected a member).failed there
  · intro c there
    rcases sound.running.asked with asked | ⟨-, none⟩
    · obtain ⟨command, executed⟩ := Option.isSome_iff_exists.mp asked
      obtain ⟨m, done, proper, config⟩ := mountVirtio9p_config executed
      refine ⟨m, done, proper, ?_⟩
      rw [mountConfig, executed, Option.getD_some, config]
    · cases there.symm.trans none
  · exact Boot.run_answers D q args events

/-! ### Progress -/

/-- From whatever a run has come to, fourteen rounds in which the parent, the child and the shell
each have a step, in any order and among anything else that happens, end the loop or bring it to the
next mount. They end it if the mount is new, both initializations succeed, and nothing is refused or
killed. -/
theorem mount_loop_live (D : TransportService σ) (q : Qnx) (args : List Bytes)
    (events : List BootEvent) {rounds : List (List BootEvent)}
    (everyone : ∀ round ∈ rounds, ∀ k, ∃ e ∈ round, e.agent = some k)
    (enough : 14 ≤ rounds.length) :
    let b := ((bootLoop D q args).run events (Boot.start args)).2
    let b' := ((bootLoop D q args).run rounds.flatten b).2
    (b.daemon.number < b'.daemon.number ∨ b'.mounted = true) ∧
      (b.daemon.parent = .begun → (∃ w, Started D b.daemon.number (mountConfig args) w) →
        (∀ round ∈ rounds, ∀ e ∈ round, e.Grants) →
          b'.mounted = true ∧ ∃ c, b'.daemon.child = some c ∧ c.ready = true) := by
  intro b b'
  have sound : b.Sound D args := Boot.sound_run events
  have ends : b.daemon.number < b'.daemon.number ∨ b'.mounted = true := by
    have steps : b.left b.daemon.number ≤ 14 := by
      unfold Boot.left
      split_ifs
      · exact Nat.zero_le _
      · exact Nat.add_le_add_left (Daemon.left_le b.daemon) 1
    have zero : b'.left b.daemon.number = 0 :=
      (Boot.turns D q args b.daemon.number).rounds_zero (fun _ _ _ _ => trivial) everyone
        ⟨sound, Nat.le_refl _⟩ (Nat.le_trans steps enough)
    by_contra goes
    rw [Boot.left, if_neg goes] at zero
    omega
  refine ⟨ends, ?_⟩
  rintro fresh ⟨w, started⟩ grants
  have hopeful : b.daemon.Hopeful := by
    have heard := sound.running.sound
    unfold Daemon.Sound at heard
    rw [fresh] at heard
    refine ⟨?_, ?_⟩
    · intro c there
      cases heard.1.symm.trans there
    · intro status exited
      cases fresh.symm.trans exited
  have granted : ∀ e ∈ rounds.flatten, e.Grants := by
    intro e member
    obtain ⟨round, inRounds, inRound⟩ := List.mem_flatten.mp member
    exact grants round inRounds e inRound
  have same : b'.daemon.number = b.daemon.number := Boot.run_hopeful granted sound hopeful started
  have mounted : b'.mounted = true := ends.resolve_left (by omega)
  have kept : b'.Sound D args := ((Boot.turns D q args b.daemon.number).run_keeps
    (fun _ _ => trivial) ⟨sound, Nat.le_refl _⟩).1
  exact ⟨mounted, kept.ready mounted⟩

/-- The driver of a host with one file, whose device is not there at the first mount. -/
def singleFileService : TransportService (ServiceState Node Bytes) where
  initializeTransport number _ := if number = 0 then .error (-eio) else .ok ⟨FidTable.empty, []⟩
  getMountTag _ := .error (-einval)
  transport := serviceTransport singleFile
  tag_short _ _ impossible := by cases impossible

def grantedRound : List BootEvent := [.parent true, .child (.step true), .shell]

theorem granted_everyone (n : Nat) :
    ∀ round ∈ List.replicate n grantedRound, ∀ k, ∃ e ∈ round, e.agent = some k := by
  intro round member k
  rw [List.eq_of_mem_replicate member]
  cases k with
  | parent => exact ⟨.parent true, List.mem_cons_self, rfl⟩
  | child => exact ⟨.child (.step true), by simp [grantedRound], rfl⟩
  | shell => exact ⟨.shell, by simp [grantedRound], rfl⟩

theorem granted_grants (n : Nat) : ∀ round ∈ List.replicate n grantedRound, ∀ e ∈ round,
    e.Grants := by
  intro round member
  rw [List.eq_of_mem_replicate member]
  simp only [grantedRound, List.forall_mem_cons]
  exact ⟨rfl, rfl, trivial, List.forall_mem_nil _⟩

/-- Five rounds bring the second mount, and that one succeeds. -/
theorem mount_loop_live_second :
    ((bootLoop singleFileService Qnx.headers x86MountArgs).run
      (List.replicate 14 grantedRound).flatten
      ((bootLoop singleFileService Qnx.headers x86MountArgs).run
        (List.replicate 5 grantedRound).flatten (Boot.start x86MountArgs)).2).2.mounted = true := by
  have live := mount_loop_live singleFileService Qnx.headers x86MountArgs
    (List.replicate 5 grantedRound).flatten (granted_everyone 14)
      (Nat.le_of_eq List.length_replicate.symm)
  refine (live.2 ?_ ?_ (granted_grants 14)).1
  · decide +kernel
  · have second : ((bootLoop singleFileService Qnx.headers x86MountArgs).run
        (List.replicate 5 grantedRound).flatten (Boot.start x86MountArgs)).2.daemon.number = 1 := by
      decide +kernel
    rw [second]
    exact ⟨_, ⟨FidTable.empty, []⟩, rfl, Prod.ext (by decide +kernel) rfl⟩

end Virtio9p
