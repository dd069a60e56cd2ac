import Virtio9p.Foundation.Rounds
import Virtio9p.Scripts.StartupRuns

/-!
# Progress of the mount loop

The steps that a mount still takes, and whose turn it is. The parent is only kept waiting by a child
that has a step to take.
-/
namespace Virtio9p

variable {σ : Type} {D : TransportService σ} {q : Qnx} {args : List Bytes}

/-- Those who bring a mount forward. -/
inductive MountAgent where
  | parent
  | child
  | shell
  deriving DecidableEq, Repr

def BootEvent.agent : BootEvent → Option MountAgent
  | .parent _ => some .parent
  | .child (.step _) => some .child
  | .shell => some .shell
  | _ => none

namespace Child

variable {number : Nat} {config : FsConfig}

/-- The steps up to the end or the dispatch loop. -/
def left : Child σ → Nat
  | .begun => 9
  | .privileged => 8
  | .initialized _ => 7
  | .tagged _ _ => 6
  | .session _ => 5
  | .dispatching _ => 4
  | .attached _ => 3
  | .reporting _ => 2
  | .reported _ => 1
  | .serving _ => 0
  | .ended _ => 0

theorem step_left (reads ok : Bool) (c : Child σ) :
    (c.step D number config reads ok).left ≤ c.left - 1 := by
  cases c with
  | begun | session _ | dispatching _ | attached _ | serving _ =>
    cases ok <;> exact Nat.le_of_ble_eq_true rfl
  | privileged =>
    rw [step]
    split <;> exact Nat.le_of_ble_eq_true rfl
  | initialized s => exact Nat.le_refl _
  | tagged s mountTag =>
    simp only [step]
    split_ifs <;> exact Nat.le_of_ble_eq_true rfl
  | reporting link => cases reads <;> exact Nat.le_of_ble_eq_true rfl
  | reported link => cases link <;> exact Nat.le_refl _
  | ended ready => exact Nat.le_refl _

theorem take_left (reads : Bool) (e : ChildEvent) (c : Child σ) :
    (c.take D q number config reads e).2.left ≤ c.left := by
  cases e with
  | step ok => exact Nat.le_trans (step_left reads ok c) (Nat.sub_le _ _)
  | crash => exact Nat.zero_le _
  | message call => cases c <;> exact Nat.le_refl _

/-- A child that has nothing left to do has written to the pipe or has closed it. -/
theorem Wrote.done {c : Child σ} {bytes : List UInt8} (wrote : c.Wrote bytes) (done : c.left = 0) :
    bytes ≠ [] ∨ c.holds = false := by
  cases c with
  | serving d => exact .inr rfl
  | ended ready => exact .inr rfl
  | begun | privileged => cases done
  | initialized _ | tagged _ _ | session _ | dispatching _ | attached _ => cases done
  | reporting _ | reported _ => cases done

end Child

namespace Daemon

def childLeft (a : Daemon σ) : Nat := a.child.elim 0 Child.left

/-- The steps up to the exit of the parent. -/
def left (a : Daemon σ) : Nat :=
  match a.parent with
  | .begun => 13
  | .piped => 12
  | .forked => 2 + a.childLeft
  | .reading => 1 + a.childLeft
  | .exited _ => 0

def turn (a : Daemon σ) : MountAgent :=
  match a.parent with
  | .reading => if 0 < a.childLeft then .child else .parent
  | .exited _ => .shell
  | _ => .parent

theorem left_le (a : Daemon σ) : a.left ≤ 13 := by
  obtain ⟨number, parent, bytes, child⟩ := a
  have few : child.elim 0 Child.left ≤ 9 := by
    cases child with
    | none => exact Nat.zero_le _
    | some c => cases c <;> exact Nat.le_of_ble_eq_true rfl
  cases parent with
  | begun => exact Nat.le_refl _
  | piped => exact Nat.le_succ _
  | forked =>
    change 2 + child.elim 0 Child.left ≤ 13
    omega
  | reading =>
    change 1 + child.elim 0 Child.left ≤ 13
    omega
  | exited status => exact Nat.zero_le _

/-- The parent takes a step or is kept waiting as it is. -/
theorem parentStep_left (ok : Bool) {a : Daemon σ} (sound : a.Sound) :
    (a.parentStep ok).left < a.left ∨ a.parentStep ok = a ∧ a.turn ≠ .parent := by
  obtain ⟨number, parent, bytes, child⟩ := a
  cases parent with
  | begun => cases ok <;> exact .inl (Nat.le_of_ble_eq_true rfl)
  | piped => cases ok <;> exact .inl (Nat.le_of_ble_eq_true rfl)
  | forked => exact .inl (Nat.add_lt_add_right Nat.one_lt_two _)
  | reading =>
    obtain ⟨c, there, wrote⟩ : ∃ c, child = some c ∧ c.Wrote bytes := sound
    subst there
    cases bytes with
    | cons status rest => exact .inl (Nat.lt_of_lt_of_le Nat.zero_lt_one (Nat.le_add_right 1 _))
    | nil =>
      cases holds : c.holds with
      | false =>
        have step : (⟨number, .reading, [], some c⟩ : Daemon σ).parentStep ok =
            ⟨number, .exited 1, [], some c⟩ := by
          simp only [parentStep, Option.any_some, holds, Bool.false_eq_true, if_false]
        rw [step]
        exact .inl (Nat.lt_of_lt_of_le Nat.zero_lt_one (Nat.le_add_right 1 _))
      | true =>
        have step : (⟨number, .reading, [], some c⟩ : Daemon σ).parentStep ok =
            ⟨number, .reading, [], some c⟩ := by
          simp only [parentStep, Option.any_some, holds, if_true]
        refine .inr ⟨step, ?_⟩
        -- a child that holds the pipe and has written nothing is not done
        have busy : 0 < c.left := by
          rw [Nat.pos_iff_ne_zero]
          intro done
          rcases wrote.done done with some | closed
          · exact some rfl
          · rw [holds] at closed
            cases closed
        change (if 0 < c.left then MountAgent.child else .parent) ≠ .parent
        rw [if_pos busy]
        decide
  | exited status => exact .inr ⟨rfl, MountAgent.noConfusion⟩

theorem childEvent_childLeft (e : ChildEvent) (a : Daemon σ) {config : FsConfig} :
    (a.childEvent D q config e).2.childLeft ≤ a.childLeft := by
  obtain ⟨number, parent, bytes, child⟩ := a
  cases child with
  | none => exact Nat.le_refl _
  | some c => exact Child.take_left _ e c

theorem left_of_childLeft {a a' : Daemon σ} (parent : a'.parent = a.parent)
    (left : a'.childLeft ≤ a.childLeft) :
    a'.left < a.left ∨ a'.left = a.left ∧ a'.turn = a.turn := by
  rcases Nat.lt_or_eq_of_le left with less | same
  · unfold Daemon.left turn
    rw [parent]
    cases a.parent with
    | begun | piped | exited _ => exact .inr ⟨rfl, rfl⟩
    | forked => exact .inl (Nat.add_lt_add_left less 2)
    | reading => exact .inl (Nat.add_lt_add_left less 1)
  · refine .inr ⟨?_, ?_⟩
    · rw [Daemon.left, Daemon.left, parent, same]
    · rw [turn, turn, parent, same]

/-- What happens to the child brings the parent's exit no further away. -/
theorem childEvent_left (e : ChildEvent) (a : Daemon σ) {config : FsConfig} :
    (a.childEvent D q config e).2.left < a.left ∨
      (a.childEvent D q config e).2.left = a.left ∧ (a.childEvent D q config e).2.turn = a.turn :=
  left_of_childLeft (childEvent_parent e a).1 (childEvent_childLeft e a)

/-- In its turn the child takes a step. -/
theorem childStep_left (ok : Bool) {a : Daemon σ} {config : FsConfig} (turn : a.turn = .child) :
    (a.childEvent D q config (.step ok)).2.left < a.left := by
  obtain ⟨number, parent, bytes, child⟩ := a
  cases parent with
  | begun | piped | forked | exited _ => cases turn
  | reading =>
    cases child with
    | none => cases turn
    | some c =>
      have busy : 0 < c.left := by
        by_contra idle
        have waits : (if 0 < c.left then MountAgent.child else .parent) = .child := turn
        rw [if_neg idle] at waits
        cases waits
      have step : (c.step D number config true ok).left ≤ c.left - 1 := Child.step_left true ok c
      change 1 + (c.step D number config true ok).left < 1 + c.left
      omega

end Daemon

/-! ### The loop -/

namespace Boot

/-- The steps up to the moment in which the shell has taken the status of a mount. -/
def left (number : Nat) (b : Boot σ) : Nat :=
  if number < b.daemon.number ∨ b.mounted = true then 0 else 1 + b.daemon.left

theorem left_same {number : Nat} {b b' : Boot σ} (mount : b'.daemon.number = b.daemon.number)
    (mounted : b'.mounted = b.mounted) (less : b'.daemon.left < b.daemon.left ∨
      b'.daemon.left = b.daemon.left ∧ b'.daemon.turn = b.daemon.turn) :
    b'.left number < b.left number ∨
      b'.left number = b.left number ∧ (0 < b.left number → b'.daemon.turn = b.daemon.turn) := by
  unfold left
  rw [mount, mounted]
  split_ifs
  · exact .inr ⟨rfl, fun none => absurd none (Nat.lt_irrefl 0)⟩
  · rcases less with less | ⟨same, turn⟩
    · exact .inl (Nat.add_lt_add_left less 1)
    · exact .inr ⟨congrArg (1 + ·) same, fun _ => turn⟩

theorem left_lt {number : Nat} {b b' : Boot σ} (mount : b'.daemon.number = b.daemon.number)
    (mounted : b'.mounted = b.mounted) (less : b'.daemon.left < b.daemon.left)
    (some : 0 < b.left number) :
    b'.left number < b.left number := by
  unfold left at some ⊢
  rw [mount, mounted]
  split_ifs at some ⊢
  · exact absurd some (Nat.lt_irrefl 0)
  · exact Nat.add_lt_add_left less 1

theorem left_zero {number : Nat} {b : Boot σ} (done : number < b.daemon.number ∨ b.mounted = true) :
    b.left number = 0 := if_pos done

/-- Taking the status of a mount ends it. -/
theorem shell_left {number : Nat} {b : Boot σ} (mount : number ≤ b.daemon.number)
    (turn : b.daemon.turn = .shell) : ((bootLoop D q args).step .shell b).2.left number = 0 := by
  cases parent : b.daemon.parent with
  | exited status =>
    simp only [bootLoop, parent]
    split_ifs
    · exact left_zero (.inr rfl)
    · exact left_zero (.inl (Nat.lt_succ_of_le mount))
  | begun | piped | forked =>
    rw [Daemon.turn, parent] at turn
    cases turn
  | reading =>
    rw [Daemon.turn, parent] at turn
    simp only at turn
    split_ifs at turn

theorem step_number (e : BootEvent) {b : Boot σ} (sound : b.Sound D args) :
    b.daemon.number ≤ ((bootLoop D q args).step e b).2.daemon.number := by
  cases e with
  | parent ok => exact Nat.le_of_eq (Daemon.parentStep_child ok sound.running.sound).1.symm
  | child e => exact Nat.le_of_eq (Daemon.childEvent_parent e b.daemon).2.symm
  | earlier i e =>
    simp only [bootLoop]
    split <;> exact Nat.le_refl _
  | shell =>
    simp only [bootLoop]
    split
    · split_ifs
      · exact Nat.le_refl _
      · exact Nat.le_succ _
    · exact Nat.le_refl _

/-- Each mount is brought to its end in turns. -/
theorem turns (D : TransportService σ) (q : Qnx) (args : List Bytes) (number : Nat) :
    (bootLoop D q args).Turns (fun b => b.Sound D args ∧ number ≤ b.daemon.number) (fun _ => True)
      (Boot.left number) (fun b => b.daemon.turn) BootEvent.agent where
  -- the number of the mount only grows
  keeps e b := by
    rintro ⟨sound, mount⟩ -
    exact ⟨(sound_step e sound).1, Nat.le_trans mount (step_number e sound)⟩
  -- no event raises what is left
  stays e b := by
    rintro ⟨sound, mount⟩ -
    cases e with
    | parent ok =>
      refine left_same (Daemon.parentStep_child ok sound.running.sound).1 rfl ?_
      rcases Daemon.parentStep_left ok sound.running.sound with less | ⟨same, -⟩
      · exact .inl less
      · exact .inr ⟨congrArg Daemon.left same, congrArg Daemon.turn same⟩
    | child e =>
      exact left_same (Daemon.childEvent_parent e b.daemon).2 rfl
        (Daemon.childEvent_left e b.daemon)
    | earlier i e =>
      have same : ((bootLoop D q args).step (.earlier i e) b).2.daemon = b.daemon ∧
          ((bootLoop D q args).step (.earlier i e) b).2.mounted = b.mounted := by
        simp only [bootLoop]
        split <;> exact ⟨rfl, rfl⟩
      refine left_same (congrArg Daemon.number same.1) same.2 (.inr ⟨?_, ?_⟩)
      · rw [same.1]
      · rw [same.1]
    | shell =>
      by_cases turn : b.daemon.turn = .shell
      · rw [shell_left mount turn]
        rcases Nat.eq_zero_or_pos (b.left number) with zero | some
        · exact .inr ⟨zero.symm, fun some => absurd zero (Nat.ne_of_gt some)⟩
        · exact .inl some
      · -- the shell waits
        have same : ((bootLoop D q args).step .shell b).2 = b := by
          simp only [bootLoop]
          split
          · rename_i status exited
            rw [Daemon.turn, exited] at turn
            exact absurd rfl turn
          · rfl
        rw [same]
        exact .inr ⟨rfl, fun _ => rfl⟩
  -- a step of the one whose turn it is lowers it
  moves e b := by
    rintro ⟨sound, mount⟩ - some agent
    cases e with
    | parent ok =>
      have turn : b.daemon.turn = .parent := (Option.some.inj agent).symm
      refine left_lt (Daemon.parentStep_child ok sound.running.sound).1 rfl ?_ some
      exact (Daemon.parentStep_left ok sound.running.sound).resolve_right fun waits => waits.2 turn
    | child e =>
      cases e with
      | step ok =>
        have turn : b.daemon.turn = .child := (Option.some.inj agent).symm
        exact left_lt (Daemon.childEvent_parent _ b.daemon).2 rfl
          (Daemon.childStep_left ok turn) some
      | crash => cases agent
      | message call => cases agent
    | earlier i e => cases agent
    | shell =>
      rw [shell_left mount (Option.some.inj agent).symm]
      exact some

end Boot

/-! ### A mount in which nothing fails -/

/-- Nothing is refused, and the child is not killed. -/
def ChildEvent.Grants : ChildEvent → Prop
  | .step ok => ok = true
  | .crash => False
  | .message _ => True

def BootEvent.Grants : BootEvent → Prop
  | .parent ok => ok = true
  | .child e => e.Grants
  | _ => True

namespace Child

variable {number : Nat} {config : FsConfig}

/-- Nothing has failed so far. -/
def hopeful : Child σ → Bool
  | .reporting link => link.isSome
  | .reported link => link.isSome
  | .ended _ => false
  | _ => true

theorem Failed.not_hopeful {c : Child σ} (failed : c.Failed) : c.hopeful = false := by
  rcases failed with rfl | rfl <;> rfl

theorem step_hopeful {w : Link σ} (started : Started D number config w) {reads : Bool} {c : Child σ}
    (heard : reads = true ∨ c.ready = true) (sourced : c.Sourced D number config)
    (hopeful : c.hopeful = true) : (c.step D number config reads true).hopeful = true := by
  obtain ⟨s, initialized, connected⟩ := started
  cases c with
  | begun | session _ | dispatching _ | attached _ | serving _ | initialized _ => rfl
  | privileged =>
    rw [step, initialized]
    rfl
  | tagged s' mountTag =>
    obtain ⟨initialized', rfl⟩ := sourced
    cases initialized.symm.trans initialized'
    have zero : (initializeSession D.transport (D.mountTag s)
        ⟨NinePSession.new, s, []⟩).1 = 0 := congrArg Prod.fst connected
    simp only [step, zero]
    rfl
  | reporting link =>
    rcases heard with rfl | ready
    · exact hopeful
    · cases ready
  | reported link =>
    cases link with
    | none => cases hopeful
    | some w => rfl
  | ended ready => cases hopeful

theorem take_hopeful {w : Link σ} (started : Started D number config w) {reads : Bool} {c : Child σ}
    (heard : reads = true ∨ c.ready = true) (sourced : c.Sourced D number config)
    {e : ChildEvent} (grants : e.Grants) (hopeful : c.hopeful = true) :
    (c.take D q number config reads e).2.hopeful = true := by
  cases e with
  | step ok =>
    cases grants
    exact step_hopeful started heard sourced hopeful
  | crash => cases grants
  | message call =>
    cases c with
    | serving d => rfl
    | begun | privileged | reported _ | ended _ => exact hopeful
    | initialized _ | tagged _ _ | session _ | dispatching _ | attached _ | reporting _ =>
      exact hopeful

end Child

namespace Daemon

structure Hopeful (a : Daemon σ) : Prop where
  child : ∀ c, a.child = some c → c.hopeful = true
  parent : ∀ status, a.parent = .exited status → status = 0

/-- The parent of a child that may serve still listens, or has heard that it does. -/
theorem Hopeful.heard {a : Daemon σ} (hopeful : a.Hopeful) (sound : a.Sound) {c : Child σ}
    (there : a.child = some c) : a.reads = true ∨ c.ready = true := by
  unfold reads Sound at *
  cases parent : a.parent with
  | begun | piped | forked | reading => exact .inl rfl
  | exited status =>
    rw [parent] at sound
    simp only [if_pos (hopeful.parent status parent)] at sound
    obtain ⟨c', there', ready⟩ := sound
    cases there.symm.trans there'
    exact .inr ready

theorem Hopeful.parentStep {a : Daemon σ} (hopeful : a.Hopeful) (sound : a.Sound) :
    (a.parentStep true).Hopeful := by
  obtain ⟨number, parent, bytes, child⟩ := a
  obtain ⟨granted, exits⟩ := hopeful
  cases parent with
  | begun => exact ⟨granted, fun _ impossible => by cases impossible⟩
  | piped =>
    refine ⟨?_, fun _ impossible => by cases impossible⟩
    intro c there
    cases there
    rfl
  | forked => exact ⟨granted, fun _ impossible => by cases impossible⟩
  | reading =>
    obtain ⟨c, there, wrote⟩ : ∃ c, child = some c ∧ c.Wrote bytes := sound
    subst there
    cases bytes with
    | cons status rest =>
      refine ⟨granted, ?_⟩
      intro status' exited
      cases exited
      by_contra nonzero
      have failed := wrote.byte
      rw [if_neg nonzero] at failed
      exact absurd ((granted c rfl).symm.trans failed.not_hopeful) (by decide)
    | nil =>
      cases holds : c.holds with
      | true =>
        rw [Daemon.parentStep]
        simp only [Option.any_some, holds, if_true]
        exact ⟨granted, fun _ impossible => by cases impossible⟩
      | false =>
        have failed := wrote.closed holds
        exact absurd ((granted c rfl).symm.trans failed.not_hopeful) (by decide)
  | exited status => exact ⟨granted, exits⟩

theorem Hopeful.childEvent {a : Daemon σ} (hopeful : a.Hopeful) (running : a.Running D args)
    {w : Link σ} (started : Started D a.number (mountConfig args) w) {e : ChildEvent}
    (grants : e.Grants) : (a.childEvent D q (mountConfig args) e).2.Hopeful := by
  refine ⟨?_, ?_⟩
  · intro c after
    cases there : a.child with
    | none =>
      unfold Daemon.childEvent at after
      rw [there] at after
      cases there.symm.trans after
    | some c =>
      unfold Daemon.childEvent at after
      rw [there] at after
      cases after
      exact Child.take_hopeful started (hopeful.heard running.sound there)
        (running.sourced c there) grants (hopeful.child c there)
  · intro status exited
    exact hopeful.parent status ((childEvent_parent e a).1.symm.trans exited)

end Daemon

namespace Boot

/-- No further mount is begun. -/
theorem step_hopeful {e : BootEvent} (grants : e.Grants) {b : Boot σ} (sound : b.Sound D args)
    (hopeful : b.daemon.Hopeful) {w : Link σ}
    (started : Started D b.daemon.number (mountConfig args) w) :
    ((bootLoop D q args).step e b).2.daemon.Hopeful ∧
      ((bootLoop D q args).step e b).2.daemon.number = b.daemon.number := by
  cases e with
  | parent ok =>
    cases grants
    exact ⟨hopeful.parentStep sound.running.sound,
      (Daemon.parentStep_child true sound.running.sound).1⟩
  | child e =>
    exact ⟨hopeful.childEvent sound.running started grants, (Daemon.childEvent_parent e b.daemon).2⟩
  | earlier i e =>
    simp only [bootLoop]
    split <;> exact ⟨hopeful, rfl⟩
  | shell =>
    simp only [bootLoop]
    split
    · rename_i status exited
      rw [if_pos (hopeful.parent status exited)]
      exact ⟨hopeful, rfl⟩
    · exact ⟨hopeful, rfl⟩

theorem run_hopeful {events : List BootEvent} (grants : ∀ e ∈ events, e.Grants) {b : Boot σ}
    (sound : b.Sound D args) (hopeful : b.daemon.Hopeful) {w : Link σ}
    (started : Started D b.daemon.number (mountConfig args) w) :
    ((bootLoop D q args).run events b).2.daemon.number = b.daemon.number := by
  have keeps (e : BootEvent) (b' : Boot σ)
      (inv : b'.Sound D args ∧ b'.daemon.Hopeful ∧ b'.daemon.number = b.daemon.number)
      (grants : e.Grants) : ((bootLoop D q args).step e b').2.Sound D args ∧
        ((bootLoop D q args).step e b').2.daemon.Hopeful ∧
        ((bootLoop D q args).step e b').2.daemon.number = b.daemon.number := by
    obtain ⟨sound, hopeful, number⟩ := inv
    obtain ⟨hopeful', number'⟩ := step_hopeful (q := q) grants sound hopeful (number.symm ▸ started)
    exact ⟨(sound_step e sound).1, hopeful', number'.trans number⟩
  exact ((Machine.meets_of_forall grants b).invariant keeps ⟨sound, hopeful, rfl⟩).2.2

end Boot

end Virtio9p
