import Virtio9p.Resmgr.FsMain

/-!
# What the parent hears

The pipe holds what the child has written, so the parent exits with 0 if and only if the child has
reported that it serves. A child that failed is heard as a failure, whether it reported that or
ended without a word.
-/
namespace Virtio9p

variable {σ : Type} {D : TransportService σ} {q : Qnx} {number : Nat} {config : FsConfig}

namespace Child

/-- It will never serve. -/
def Failed (c : Child σ) : Prop := c = .reported none ∨ c = .ended false

/-- The bytes are what the child has written. -/
def Wrote : Child σ → List UInt8 → Prop
  | .reported none, bytes => bytes = [1]
  | .reported (some _), bytes => bytes = [0]
  | .serving _, bytes => bytes = [0]
  | .ended true, bytes => bytes = [0]
  -- it may have been killed before it could report anything
  | .ended false, bytes => bytes = [] ∨ bytes = [1]
  | _, bytes => bytes = []

theorem step_wrote (ok : Bool) {c : Child σ} {bytes : List UInt8} (wrote : c.Wrote bytes) :
    (c.step D number config true ok).Wrote (bytes ++ writes true (.step ok) c) := by
  cases c with
  | begun =>
    obtain rfl : bytes = [] := wrote
    cases ok <;> rfl
  | privileged =>
    obtain rfl : bytes = [] := wrote
    rw [step]
    cases D.initializeTransport number (createTransport config) <;> rfl
  | initialized s =>
    obtain rfl : bytes = [] := wrote
    rfl
  | tagged s mountTag =>
    obtain rfl : bytes = [] := wrote
    simp only [step]
    split_ifs <;> rfl
  | session w =>
    obtain rfl : bytes = [] := wrote
    cases ok <;> rfl
  | dispatching w =>
    obtain rfl : bytes = [] := wrote
    cases ok <;> rfl
  | attached w =>
    obtain rfl : bytes = [] := wrote
    rfl
  | reporting link =>
    -- nothing was written before, and now one byte is
    obtain rfl : bytes = [] := wrote
    cases link <;> rfl
  | reported link =>
    cases link with
    | none =>
      obtain rfl : bytes = [1] := wrote
      exact .inr rfl
    | some w =>
      obtain rfl : bytes = [0] := wrote
      rfl
  | serving d =>
    obtain rfl : bytes = [0] := wrote
    cases ok <;> rfl
  | ended ready => exact (List.append_nil bytes).symm ▸ wrote

theorem crash_wrote {c : Child σ} {bytes : List UInt8} (wrote : c.Wrote bytes) :
    (ended c.ready : Child σ).Wrote bytes := by
  cases c with
  | reported link =>
    cases link with
    | none => exact .inr wrote
    | some w => exact wrote
  | serving d => exact wrote
  | ended ready => exact wrote
  | begun => exact .inl wrote
  | privileged => exact .inl wrote
  | initialized s => exact .inl wrote
  | tagged s mountTag => exact .inl wrote
  | session w => exact .inl wrote
  | dispatching w => exact .inl wrote
  | attached w => exact .inl wrote
  | reporting link => exact .inl wrote

/-- The pipe keeps up with the child as long as the parent holds its read end. -/
theorem take_wrote (e : ChildEvent) {c : Child σ} {bytes : List UInt8} (wrote : c.Wrote bytes) :
    (c.take D q number config true e).2.Wrote (bytes ++ writes true e c) := by
  cases e with
  | step ok => exact step_wrote ok wrote
  | crash => exact (List.append_nil bytes).symm ▸ crash_wrote wrote
  | message call =>
    rw [show writes true (.message call) c = [] from rfl, List.append_nil]
    cases c with
    | serving d => exact wrote
    | begun | privileged | reported _ | ended _ => exact wrote
    | initialized _ | tagged _ _ | session _ | dispatching _ | attached _ | reporting _ =>
      exact wrote

/-! ### After the report -/

theorem take_ready (reads : Bool) (e : ChildEvent) {c : Child σ} (ready : c.ready = true) :
    (c.take D q number config reads e).2.ready = true := by
  cases e with
  | crash => exact ready
  | step ok =>
    cases c with
    | reported link =>
      cases link with
      | none => cases ready
      | some w => rfl
    | serving d => cases ok <;> rfl
    | ended _ => exact ready
    | begun | privileged => cases ready
    | initialized _ | tagged _ _ | session _ | dispatching _ | attached _ | reporting _ =>
      cases ready
  | message call =>
    cases c with
    | serving d => rfl
    | begun | privileged | reported _ | ended _ => exact ready
    | initialized _ | tagged _ _ | session _ | dispatching _ | attached _ | reporting _ =>
      exact ready

theorem take_failed (reads : Bool) (e : ChildEvent) {c : Child σ} (failed : c.Failed) :
    (c.take D q number config reads e).1 = none ∧ (c.take D q number config reads e).2.Failed := by
  rcases failed with rfl | rfl
  · cases e with
    | step ok => exact ⟨rfl, .inr rfl⟩
    | crash => exact ⟨rfl, .inr rfl⟩
    | message call => exact ⟨rfl, .inl rfl⟩
  · cases e <;> exact ⟨rfl, .inr rfl⟩

theorem Failed.not_ready {c : Child σ} (failed : c.Failed) : c.ready = false := by
  rcases failed with rfl | rfl <;> rfl

/-- A byte that the parent reads says whether the child is ready. -/
theorem Wrote.byte {c : Child σ} {status : UInt8} {rest : List UInt8}
    (wrote : c.Wrote (status :: rest)) :
    if status = 0 then c.ready = true else c.Failed := by
  cases c with
  | reported link =>
    cases link with
    | none =>
      cases wrote
      exact .inl rfl
    | some w =>
      cases wrote
      rfl
  | serving d =>
    cases wrote
    rfl
  | ended ready =>
    cases ready with
    | true =>
      cases wrote
      rfl
    | false =>
      rcases wrote with none | one
      · cases none
      · cases one
        exact .inr rfl
  | begun | privileged => cases wrote
  | initialized _ | tagged _ _ | session _ | dispatching _ | attached _ | reporting _ => cases wrote

/-- An empty pipe without a writer is left by a child that was killed before it could report. -/
theorem Wrote.closed {c : Child σ} (wrote : c.Wrote []) (closed : c.holds = false) : c.Failed := by
  cases c with
  | serving d => cases wrote
  | ended ready =>
    cases ready with
    | true => cases wrote
    | false => exact .inr rfl
  | begun | privileged | reported _ => cases closed
  | initialized _ | tagged _ _ | session _ | dispatching _ | attached _ | reporting _ =>
    cases closed

end Child

/-! ### Both processes -/

namespace Daemon

/-- What the states of the parent stand for. -/
def Sound (a : Daemon σ) : Prop :=
  match a.parent with
  | .begun | .piped => a.child = none ∧ a.bytes = []
  | .forked | .reading => ∃ c, a.child = some c ∧ c.Wrote a.bytes
  | .exited status =>
    if status = 0 then ∃ c, a.child = some c ∧ c.ready = true
    else ∀ c, a.child = some c → c.Failed

theorem sound_parentStep (ok : Bool) {a : Daemon σ} (sound : a.Sound) :
    (a.parentStep ok).Sound := by
  obtain ⟨number, parent, bytes, child⟩ := a
  cases parent with
  | begun =>
    obtain ⟨none, empty⟩ : child = none ∧ bytes = [] := sound
    subst none
    cases ok with
    | true => exact ⟨rfl, empty⟩
    | false =>
      intro c there
      cases there
  | piped =>
    obtain ⟨none, empty⟩ : child = none ∧ bytes = [] := sound
    subst none
    cases ok with
    | true => exact ⟨.begun, rfl, empty⟩
    | false =>
      intro c there
      cases there
  | forked => exact sound
  | reading =>
    obtain ⟨c, there, wrote⟩ : ∃ c, child = some c ∧ c.Wrote bytes := sound
    subst there
    cases bytes with
    | cons status rest =>
      have heard := wrote.byte
      change if status = 0 then _ else _
      split_ifs at heard ⊢ with zero
      · exact ⟨c, rfl, heard⟩
      · intro c' there
        cases there
        exact heard
    | nil =>
      change Sound (if c.holds then _ else _)
      split_ifs with holds
      · exact ⟨c, rfl, wrote⟩
      · intro c' there
        cases there
        exact wrote.closed (Bool.not_eq_true _ ▸ holds)
  | exited status => exact sound

theorem sound_childEvent (e : ChildEvent) {a : Daemon σ} (sound : a.Sound) :
    (a.childEvent D q config e).2.Sound := by
  obtain ⟨number, parent, bytes, child⟩ := a
  cases child with
  | none => exact sound
  | some c =>
    cases parent with
    | begun => cases sound.1
    | piped => cases sound.1
    | forked =>
      obtain ⟨c', there, wrote⟩ : ∃ c', some c = some c' ∧ c'.Wrote bytes := sound
      cases there
      exact ⟨_, rfl, Child.take_wrote e wrote⟩
    | reading =>
      obtain ⟨c', there, wrote⟩ : ∃ c', some c = some c' ∧ c'.Wrote bytes := sound
      cases there
      exact ⟨_, rfl, Child.take_wrote e wrote⟩
    | exited status =>
      change if status = 0 then _ else _
      change if status = 0 then _ else _ at sound
      split_ifs at sound ⊢ with zero
      · obtain ⟨c', there, ready⟩ := sound
        cases there
        exact ⟨_, rfl, Child.take_ready _ e ready⟩
      · intro c' there
        cases there
        exact (Child.take_failed _ e (sound c rfl)).2

end Daemon

end Virtio9p
