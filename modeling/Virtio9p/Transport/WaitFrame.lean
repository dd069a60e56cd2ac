import Virtio9p.Transport.Awaits

/-!
# What a wait leaves alone

A part of the state that neither the events nor a look at the used ring changes is the same behind
any wait of both transports.
-/
namespace Virtio9p

/-- A part of the state that is changed neither by events nor by a look at the used ring. -/
structure WaitFixed {α : Type} (part : WaitState → α) : Prop where
  elapse : ∀ s e, part (WaitState.elapse s e) = part s
  getBuf : ∀ s outLen got s', s.getBuf outLen = some (got, s') → part s' = part s
  pulses : ∀ s n, part { s with pulses := n } = part s

/-- A wait changes no such part. -/
def WaitLeaves (wait : List WaitEvent → WaitState → Waited) : Prop :=
  ∀ {α : Type} (part : WaitState → α), WaitFixed part → ∀ es s done es' s',
    wait es s = some (done, es', s') → part s' = part s

section Fixed

variable {α : Type} {part : WaitState → α} (fixed : WaitFixed part)

include fixed

theorem WaitFixed.sleep (es : List WaitEvent) (s : WaitState) : part (s.sleep es).2 = part s := by
  fun_induction WaitState.sleep es s with
  | case1 => rfl
  | case2 => rfl
  | case3 e es s _ ih => exact ih.trans (fixed.elapse s e)

theorem WaitFixed.elapsed (es : List WaitEvent) (s : WaitState) : part (s.elapsed es) = part s := by
  induction es generalizing s with
  | nil => rfl
  | cons e es ih => exact (ih (s.elapse e)).trans (fixed.elapse s e)

theorem WaitFixed.receivePulse (es : List WaitEvent) (s : WaitState) :
    part (s.receivePulse es).2.2 = part s := by
  fun_induction WaitState.receivePulse es s with
  | case1 => rfl
  | case2 => exact fixed.pulses _ _
  | case3 => rfl
  | case4 s _ _ e es ih => exact ih.trans (fixed.elapse s e)

theorem WaitFixed.spinWait {spins : Nat} {outLen : UInt32} {es es' : List WaitEvent}
    {s s' : WaitState} {got : Int32 × UInt32}
    (done : spinWait spins outLen es s = some (got, es', s')) : part s' = part s := by
  induction spins generalizing outLen es s with
  | zero =>
    cases done
    rfl
  | succ spins ih =>
    rw [Virtio9p.spinWait] at done
    have slept := fixed.sleep es s
    split at done
    · cases done
    · rename_i looked
      have kept := (fixed.getBuf _ _ _ _ looked).trans slept
      split at done
      · cases done
        exact kept
      · exact (ih done).trans kept

theorem WaitFixed.pollUsed {outLen : UInt32} {es es' : List WaitEvent} {s s' : WaitState}
    {got : Int32 × UInt32} (done : pollUsed outLen es s = some (got, es', s')) :
    part s' = part s := by
  rw [Virtio9p.pollUsed] at done
  split at done
  · cases done
  · rename_i looked
    have kept := fixed.getBuf _ _ _ _ looked
    split at done
    · cases done
      exact kept
    · exact (fixed.spinWait done).trans kept

theorem WaitFixed.pciRetry {fuel : Nat} {outLen : UInt32} {es es' : List WaitEvent}
    {s s' : WaitState} {done : Completion}
    (waited : pciRetry fuel outLen es s = some (done, es', s')) : part s' = part s := by
  induction fuel generalizing outLen es s with
  | zero => cases waited
  | succ fuel ih =>
    rw [Virtio9p.pciRetry] at waited
    have received := fixed.receivePulse es s
    split at waited
    · rename_i result
      rw [result] at received
      obtain ⟨⟨got, s₁⟩, looked, result⟩ := Option.map_eq_some_iff.mp waited
      cases result
      exact (fixed.getBuf _ _ _ _ looked).trans received
    · rename_i result
      rw [result] at received
      split at waited
      · cases waited
      · rename_i polled
        have kept := (fixed.pollUsed polled).trans received
        split at waited
        · cases waited
          exact kept
        · exact (ih waited).trans kept

end Fixed

theorem mmioWait_leaves : WaitLeaves mmioWaitForCompletion := by
  intro α part fixed es s done es' s' waited
  rw [mmioWaitForCompletion] at waited
  have received := fixed.receivePulse es s
  split at waited
  · rename_i result
    rw [result] at received
    cases waited
    exact received
  · rename_i result
    rw [result] at received
    obtain ⟨⟨got, rest, s₁⟩, polled, result⟩ := Option.map_eq_some_iff.mp waited
    cases result
    exact (fixed.pollUsed polled).trans received

theorem pciWait_leaves : WaitLeaves pciWaitForCompletion := by
  intro α part fixed es s done es' s' waited
  rw [pciWaitForCompletion] at waited
  split at waited
  · cases waited
  · rename_i looked
    have kept := fixed.getBuf _ _ _ _ looked
    split at waited
    · cases waited
      exact (fixed.pulses _ _).trans kept
    · exact (fixed.pciRetry waited).trans kept

end Virtio9p
