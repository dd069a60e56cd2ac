import Virtio9p.Foundation.Lifetime
import Virtio9p.Resmgr.Readiness
import Virtio9p.Scripts.Startup

/-!
# Runs of the mount loop

The invariant of the loop: every mount but the last has failed for good, and the last one's child
has the link that the initializations have left.
-/
namespace Virtio9p

variable {σ : Type} {D : TransportService σ} {q : Qnx} {args : List Bytes}

/-- The link that the two initializations leave if both return 0. -/
def Started (D : TransportService σ) (number : Nat) (config : FsConfig) (w : Link σ) : Prop :=
  ∃ s, D.initializeTransport number (createTransport config) = .ok s ∧
    initializeSession D.transport (D.mountTag s) ⟨NinePSession.new, s, []⟩ = (0, w)

namespace Child

variable {number : Nat} {config : FsConfig}

/-- Where the child's link comes from. -/
def Sourced (D : TransportService σ) (number : Nat) (config : FsConfig) : Child σ → Prop
  | .initialized s => D.initializeTransport number (createTransport config) = .ok s
  | .tagged s mountTag =>
    D.initializeTransport number (createTransport config) = .ok s ∧ mountTag = D.mountTag s
  | .session w => Started D number config w
  | .dispatching w => Started D number config w
  | .attached w => Started D number config w
  | .reporting link => ∀ w ∈ link, Started D number config w
  | .reported link => ∀ w ∈ link, Started D number config w
  | _ => True

theorem step_sourced (reads ok : Bool) {c : Child σ} (sourced : c.Sourced D number config) :
    (c.step D number config reads ok).Sourced D number config := by
  have failed : (reporting none : Child σ).Sourced D number config := by
    intro w impossible
    cases impossible
  cases c with
  | begun =>
    cases ok with
    | true => exact trivial
    | false => exact failed
  | privileged =>
    rw [step]
    split
    · exact failed
    · assumption
  | initialized s => exact ⟨sourced, rfl⟩
  | tagged s mountTag =>
    obtain ⟨initialized, rfl⟩ := sourced
    simp only [step]
    split_ifs with refused
    · exact failed
    · exact ⟨s, initialized, Prod.ext (not_not.mp refused) rfl⟩
  | session w =>
    cases ok with
    | true => exact sourced
    | false => exact failed
  | dispatching w =>
    cases ok with
    | true => exact sourced
    | false => exact failed
  | attached w =>
    cases ok with
    | true =>
      intro w' same
      cases same
      exact sourced
    | false => exact failed
  | reporting link =>
    cases reads with
    | true => exact sourced
    | false => exact trivial
  | reported link => cases link <;> exact trivial
  | serving d => cases ok <;> exact trivial
  | ended ready => exact trivial

theorem take_sourced (reads : Bool) (e : ChildEvent) {c : Child σ}
    (sourced : c.Sourced D number config) :
    (c.take D q number config reads e).2.Sourced D number config := by
  cases e with
  | step ok => exact step_sourced reads ok sourced
  | crash => exact trivial
  | message call =>
    cases c with
    | serving d => exact trivial
    | begun | privileged | reported _ | ended _ => exact sourced
    | initialized _ | tagged _ _ | session _ | dispatching _ | attached _ | reporting _ =>
      exact sourced

/-- The child in the life of a server. -/
def life : Child σ → Life (Driver σ)
  | .serving d => .up d
  | .ended true => .gone
  | _ => .coming

/-- A driver that has handled nothing yet. -/
def Fresh (D : TransportService σ) (number : Nat) (config : FsConfig) (d : Driver σ) : Prop :=
  Started D number config d.link ∧ d.ocbs = []

theorem Failed.life {c : Child σ} (failed : c.Failed) : c.life = .coming := by
  rcases failed with rfl | rfl <;> rfl

theorem take_life (reads : Bool) (e : ChildEvent) {c : Child σ}
    (sourced : c.Sourced D number config) :
    Life.Step (driver D.transport q) (Fresh D number config) c.life
      (c.take D q number config reads e).1 (c.take D q number config reads e).2.life := by
  cases e with
  | step ok =>
    cases c with
    | reported link =>
      cases link with
      | none => exact .wait _
      | some w => exact .start _ ⟨sourced w rfl, rfl⟩
    | serving d =>
      cases ok with
      | true => exact .wait _
      | false => exact .leave _
    | ended ready => exact .wait _
    | reporting link => cases reads <;> exact .wait _
    | privileged =>
      simp only [take, step]
      split <;> exact .wait _
    | tagged s mountTag =>
      simp only [take, step]
      split_ifs <;> exact .wait _
    | initialized s => exact .wait _
    | begun | session _ | dispatching _ | attached _ => cases ok <;> exact .wait _
  | crash =>
    cases c with
    | reported link =>
      cases link with
      | none => exact .wait _
      | some w => exact .leave _
    | serving d => exact .leave _
    | ended ready => cases ready <;> exact .wait _
    | begun | privileged => exact .wait _
    | initialized _ | tagged _ _ | session _ | dispatching _ | attached _ | reporting _ =>
      exact .wait _
  | message call =>
    cases c with
    | serving d => exact .answer d call
    | begun | privileged | reported _ | ended _ => exact .wait _
    | initialized _ | tagged _ _ | session _ | dispatching _ | attached _ | reporting _ =>
      exact .wait _

end Child

/-! ### One mount -/

namespace Daemon

/-- A mount that did not succeed. -/
def Rejected (a : Daemon σ) : Prop := ∃ status, a.parent = .exited status ∧ status ≠ 0 ∧ a.Sound

theorem childEvent_parent (e : ChildEvent) (a : Daemon σ) {config : FsConfig} :
    (a.childEvent D q config e).2.parent = a.parent ∧
      (a.childEvent D q config e).2.number = a.number := by
  unfold childEvent
  split <;> exact ⟨rfl, rfl⟩

theorem Rejected.failed {a : Daemon σ} (rejected : a.Rejected) {c : Child σ}
    (there : a.child = some c) : c.Failed := by
  obtain ⟨status, exited, nonzero, sound⟩ := rejected
  unfold Sound at sound
  rw [exited] at sound
  simp only [if_neg nonzero] at sound
  exact sound c there

/-- Its child answers nothing any more. -/
theorem Rejected.childEvent {a : Daemon σ} (rejected : a.Rejected) (e : ChildEvent)
    {config : FsConfig} :
    (a.childEvent D q config e).1 = none ∧ (a.childEvent D q config e).2.Rejected := by
  constructor
  · cases there : a.child with
    | none =>
      unfold Daemon.childEvent
      rw [there]
    | some c =>
      unfold Daemon.childEvent
      rw [there]
      exact (Child.take_failed a.reads e (rejected.failed there)).1
  · obtain ⟨status, exited, nonzero, sound⟩ := rejected
    exact ⟨status, (childEvent_parent e a).1.trans exited, nonzero, sound_childEvent e sound⟩

/-- The child of a mount, as a server. -/
def life (a : Daemon σ) : Life (Driver σ) := a.child.elim .coming Child.life

/-- What is known of the last mount. -/
structure Running (D : TransportService σ) (args : List Bytes) (a : Daemon σ) : Prop where
  sound : a.Sound
  sourced : ∀ c, a.child = some c → c.Sourced D a.number (mountConfig args)
  /-- A driver is only executed for a mount that is well formed. -/
  asked : (mountVirtio9p args).isSome ∨ a.parent = .exited 1 ∧ a.child = none

theorem running_start (number : Nat) : (Daemon.start args number : Daemon σ).Running D args := by
  cases asked : mountVirtio9p args with
  | none =>
    have start : (Daemon.start args number : Daemon σ) = ⟨number, .exited 1, [], none⟩ := by
      rw [Daemon.start, asked]
      rfl
    rw [start]
    refine ⟨?_, ?_, .inr ⟨rfl, rfl⟩⟩
    · intro c there
      cases there
    · intro c there
      cases there
  | some command =>
    have start : (Daemon.start args number : Daemon σ) = ⟨number, .begun, [], none⟩ := by
      rw [Daemon.start, asked]
      rfl
    rw [start]
    refine ⟨⟨rfl, rfl⟩, ?_, .inl (by rw [asked]; rfl)⟩
    intro c there
    cases there

/-- A step of the parent changes the child only by making it. -/
theorem parentStep_child (ok : Bool) {a : Daemon σ} (sound : a.Sound) :
    (a.parentStep ok).number = a.number ∧
      ((a.parentStep ok).child = a.child ∨
        a.child = none ∧ (a.parentStep ok).child = some .begun) := by
  obtain ⟨number, parent, bytes, child⟩ := a
  cases parent with
  | begun => exact ⟨rfl, .inl rfl⟩
  | piped =>
    cases ok with
    | true => exact ⟨rfl, .inr ⟨sound.1, rfl⟩⟩
    | false => exact ⟨rfl, .inl rfl⟩
  | forked => exact ⟨rfl, .inl rfl⟩
  | reading =>
    cases bytes with
    | cons status rest => exact ⟨rfl, .inl rfl⟩
    | nil =>
      rw [parentStep]
      simp only
      split_ifs <;> exact ⟨rfl, .inl rfl⟩
  | exited status => exact ⟨rfl, .inl rfl⟩

theorem Running.parentStep {a : Daemon σ} (running : a.Running D args) (ok : Bool) :
    (a.parentStep ok).Running D args ∧ (a.parentStep ok).life = a.life := by
  obtain ⟨number, child⟩ := parentStep_child ok running.sound
  refine ⟨⟨sound_parentStep ok running.sound, ?_, ?_⟩, ?_⟩
  · intro c there
    rw [number]
    rcases child with same | ⟨-, made⟩
    · exact running.sourced c (same.symm.trans there)
    · cases made.symm.trans there
      exact trivial
  · rcases running.asked with asked | ⟨exited, none⟩
    · exact .inl asked
    · refine .inr ?_
      have same : a.parentStep ok = a := by
        unfold Daemon.parentStep
        rw [exited]
      rw [same]
      exact ⟨exited, none⟩
  · rw [life, life]
    rcases child with same | ⟨none, made⟩
    · rw [same]
    · rw [none, made]
      rfl

theorem Running.childEvent {a : Daemon σ} (running : a.Running D args) (e : ChildEvent) :
    (a.childEvent D q (mountConfig args) e).2.Running D args ∧
      Life.Step (driver D.transport q) (Child.Fresh D a.number (mountConfig args)) a.life
        (a.childEvent D q (mountConfig args) e).1
          (a.childEvent D q (mountConfig args) e).2.life := by
  have sound : (a.childEvent D q (mountConfig args) e).2.Sound := sound_childEvent e running.sound
  cases there : a.child with
  | none =>
    have same : a.childEvent D q (mountConfig args) e = (none, a) := by
      unfold Daemon.childEvent
      rw [there]
    rw [same]
    exact ⟨running, .wait _⟩
  | some c =>
    have step : a.childEvent D q (mountConfig args) e =
        ((c.take D q a.number (mountConfig args) a.reads e).1,
          { a with
            bytes := a.bytes ++ Child.writes a.reads e c
            child := some (c.take D q a.number (mountConfig args) a.reads e).2 }) := by
      unfold Daemon.childEvent
      rw [there]
    rw [step] at sound ⊢
    have sourced := running.sourced c there
    refine ⟨⟨sound, ?_, ?_⟩, ?_⟩
    · intro c' same
      cases same
      exact Child.take_sourced a.reads e sourced
    · rcases running.asked with asked | ⟨-, none⟩
      · exact .inl asked
      · cases there.symm.trans none
    · rw [life, life, there]
      exact Child.take_life a.reads e sourced

/-- A mount that has exited with another status than 0 is rejected, and its server never came up. -/
theorem Running.rejected {a : Daemon σ} (running : a.Running D args) {status : UInt8}
    (exited : a.parent = .exited status) (nonzero : status ≠ 0) :
    a.Rejected ∧ a.life = .coming := by
  have rejected : a.Rejected := ⟨status, exited, nonzero, running.sound⟩
  refine ⟨rejected, ?_⟩
  cases there : a.child with
  | none => rw [life, there, Option.elim_none]
  | some c =>
    rw [life, there]
    exact (rejected.failed there).life

end Daemon

/-! ### The loop -/

namespace Boot

/-- What holds throughout the loop. -/
structure Sound (D : TransportService σ) (args : List Bytes) (b : Boot σ) : Prop where
  running : b.daemon.Running D args
  rejected : ∀ a ∈ b.earlier, a.Rejected
  mounted : b.mounted = true → b.daemon.parent = .exited 0

theorem sound_start : (Boot.start args : Boot σ).Sound D args where
  running := Daemon.running_start 0
  rejected := List.forall_mem_nil _
  mounted := by
    intro impossible
    cases impossible

/-- The drivers that may come up. -/
def Fresh (D : TransportService σ) (args : List Bytes) (d : Driver σ) : Prop :=
  ∃ number, Child.Fresh D number (mountConfig args) d

/-- Of all the children, only the last mount's can serve. -/
def life (b : Boot σ) : Life (Driver σ) := b.daemon.life

/-- A step of the loop keeps what holds, and is a step in the life of one server. -/
theorem sound_step (e : BootEvent) {b : Boot σ} (sound : b.Sound D args) :
    ((bootLoop D q args).step e b).2.Sound D args ∧
      Life.Step (driver D.transport q) (Fresh D args) b.life ((bootLoop D q args).step e b).1
        ((bootLoop D q args).step e b).2.life := by
  obtain ⟨running, rejected, mounted⟩ := sound
  cases e with
  -- a parent does not touch the server
  | parent ok =>
    obtain ⟨running', life⟩ := running.parentStep ok
    refine ⟨⟨running', rejected, ?_⟩, ?_⟩
    · intro done
      change (b.daemon.parentStep ok).parent = .exited 0
      unfold Daemon.parentStep
      rw [mounted done]
      exact mounted done
    · change Life.Step _ _ b.daemon.life none (b.daemon.parentStep ok).life
      rw [life]
      exact .wait _
  | child e =>
    obtain ⟨running', step⟩ := running.childEvent (q := q) e
    refine ⟨⟨running', rejected, ?_⟩, step.weaken fun d fresh => ⟨_, fresh⟩⟩
    intro done
    exact (Daemon.childEvent_parent e b.daemon).1.trans (mounted done)
  -- the children of earlier mounts have been rejected, so they never answer
  | earlier i e =>
    cases found : b.earlier[i]? with
    | none =>
      have same : (bootLoop D q args).step (.earlier i e) b = (none, b) := by
        simp only [bootLoop, found]
      rw [same]
      exact ⟨⟨running, rejected, mounted⟩, .wait _⟩
    | some a =>
      obtain ⟨silent, rejected'⟩ : (a.childEvent D q (mountConfig args) e).1 = none ∧
          (a.childEvent D q (mountConfig args) e).2.Rejected :=
        (rejected a (List.mem_of_getElem? found)).childEvent e
      have step : (bootLoop D q args).step (.earlier i e) b =
          (none, { b with
            earlier := b.earlier.set i (a.childEvent D q (mountConfig args) e).2 }) := by
        simp only [bootLoop, found, silent]
      rw [step]
      refine ⟨⟨running, ?_, mounted⟩, .wait _⟩
      intro a' member
      rcases List.mem_or_eq_of_mem_set member with old | rfl
      · exact rejected a' old
      · exact rejected'
  | shell =>
    cases parent : b.daemon.parent with
    | exited status =>
      by_cases zero : status = 0
      · have step : (bootLoop D q args).step .shell b = (none, { b with mounted := true }) := by
          simp only [bootLoop, parent, if_pos zero]
        rw [step]
        exact ⟨⟨running, rejected, fun _ => parent.trans (congrArg _ zero)⟩, .wait _⟩
      · have step : (bootLoop D q args).step .shell b =
            (none, ⟨Daemon.start args (b.daemon.number + 1), b.daemon :: b.earlier, false⟩) := by
          simp only [bootLoop, parent, if_neg zero]
        -- the parent has failed, so its child cannot serve any more
        obtain ⟨failed, coming⟩ := running.rejected parent zero
        rw [step]
        refine ⟨⟨Daemon.running_start _, List.forall_mem_cons.mpr ⟨failed, rejected⟩, ?_⟩, ?_⟩
        · intro impossible
          cases impossible
        · rw [life, coming]
          exact .wait _
    | begun | piped | forked | reading =>
      have same : (bootLoop D q args).step .shell b = (none, b) := by
        simp only [bootLoop, parent]
      rw [same]
      exact ⟨⟨running, rejected, mounted⟩, .wait _⟩

theorem sound_run (events : List BootEvent) :
    ((bootLoop D q args).run events (Boot.start args)).2.Sound D args := by
  have keeps (e : BootEvent) (b : Boot σ) (sound : b.Sound D args) :
      ((bootLoop D q args).step e b).2.Sound D args := (sound_step e sound).1
  exact Machine.run_invariant keeps events sound_start

/-- A mount exits with 0 if and only if its child has reported that it serves. -/
theorem Sound.exits {b : Boot σ} (sound : b.Sound D args) {status : UInt8}
    (exited : b.daemon.parent = .exited status) :
    status = 0 ↔ ∃ c, b.daemon.child = some c ∧ c.ready = true := by
  have heard := sound.running.sound
  unfold Daemon.Sound at heard
  rw [exited] at heard
  simp only at heard
  split_ifs at heard with zero
  · exact iff_of_true zero heard
  · refine iff_of_false zero ?_
    rintro ⟨c, there, ready⟩
    rw [(heard c there).not_ready] at ready
    cases ready

theorem Sound.ready {b : Boot σ} (sound : b.Sound D args) (mounted : b.mounted = true) :
    ∃ c, b.daemon.child = some c ∧ c.ready = true := (sound.exits (sound.mounted mounted)).mp rfl

/-- All that is ever answered are the answers of one driver. -/
theorem run_answers (D : TransportService σ) (q : Qnx) (args : List Bytes)
    (events : List BootEvent) :
    let answers := ((bootLoop D q args).run events (Boot.start args)).1.filterMap id
    answers = [] ∨ ∃ number w, Started D number (mountConfig args) w ∧
      answers.map Prod.snd = ((driver D.transport q).run (answers.map Prod.fst) ⟨w, []⟩).1 := by
  intro answers
  have keeps (e : BootEvent) (b : Boot σ) (sound : b.Sound D args) :
      ((bootLoop D q args).step e b).2.Sound D args := (sound_step e sound).1
  have lives (e : BootEvent) (b : Boot σ) (sound : b.Sound D args) :=
    (sound_step (q := q) e sound).2
  have answered : Life.Answers (driver D.transport q) (Fresh D args) answers .coming :=
    Life.run_answers keeps lives events sound_start
  rcases answered with none | ⟨d, ⟨number, started, ocbs⟩, replies⟩
  · exact .inl none
  · obtain ⟨w, _⟩ := d
    cases ocbs
    exact .inr ⟨number, w, started, replies⟩

end Boot

end Virtio9p
