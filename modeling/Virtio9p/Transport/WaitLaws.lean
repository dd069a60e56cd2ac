import Virtio9p.Transport.Exchanges
import Virtio9p.Transport.Layout

/-!
# Laws of the waits

What a wait that succeeds has read, when a wait is sure to succeed, and that no wait moves the
driver's index. Both transports keep these laws.
-/
namespace Virtio9p

/-! ### The driver's index -/

/-- The driver's index into the available ring moves in `AddBuf` only. -/
theorem freeChain_availIdx {fuel : Nat} {i : UInt16} {vq vq' : Virtqueue}
    (freed : vq.freeChain fuel i = some vq') : vq'.availIdx = vq.availIdx := by
  induction fuel generalizing i vq with
  | zero => cases freed
  | succ fuel ih =>
    rw [Virtqueue.freeChain] at freed
    split at freed
    · exact (ih freed).trans rfl
    · cases freed
      rfl

theorem availIdx_fixed : WaitFixed fun s => s.live.queue.availIdx where
  elapse s e := by
    cases e with
    | pulse => rfl
    | complete head outLen =>
      simp only [WaitState.elapse, LiveQueue.complete]
      split <;> rfl
    | tick => rfl
  getBuf s outLen got s' looked := by
    obtain ⟨⟨got, live⟩, queue, result⟩ := Option.map_eq_some_iff.mp looked
    cases result
    obtain ⟨⟨got, vq⟩, look, result⟩ := Option.map_eq_some_iff.mp queue
    cases result
    rw [Virtqueue.getBuf] at look
    split at look
    · cases look
      rfl
    · obtain ⟨freed, chain, result⟩ := Option.map_eq_some_iff.mp look
      cases result
      exact (freeChain_availIdx chain : freed.availIdx = _)
  pulses _ _ := rfl

/-! ### What a wait has read -/

/-- A wait that succeeds returns the length of the completion that was published. -/
def WaitReads (wait : List WaitEvent → WaitState → Waited) : Prop :=
  ∀ queueSize c answer es s, Awaits queueSize c answer s.live → ∀ done es' s',
    wait es s = some (done, es', s') → done.rc = 0 →
      answer.or (published c es) = some done.outLen

/-- What is published first in a part of the events is published first in all of them. -/
theorem published_append_some {c : Chain} {answer : Option UInt32} {es es' : List WaitEvent}
    {n : UInt32} (answered : answer.or (published c es) = some n) :
    answer.or (published c (es ++ es')) = some n := by
  rw [published_append, ← Option.or_assoc, answered]
  rfl

theorem mmioWait_reads : WaitReads mmioWaitForCompletion := by
  intro queueSize c answer es s awaits done es' s' waited zero
  -- of the ways in which the wait ends one gives 0
  cases attached : s.channel with
  | false =>
    rw [mmioWaitForCompletion, receivePulse_detached attached] at waited
    cases waited
    exact absurd zero (by decide)
  | true =>
    cases pulsed : mmioWindow s.pulses es with
    | none =>
      rw [mmioWait_timeout attached pulsed] at waited
      cases waited
      exact absurd zero (by decide)
    | some seen =>
      cases answered : answer.or (published c seen) with
      | some n =>
        obtain ⟨rest, rfl⟩ := mmioWindow_append attached pulsed
        obtain ⟨_, _, waited', -⟩ := mmioWait_answered awaits attached pulsed answered
        rw [waited'] at waited
        cases waited
        exact published_append_some answered
      | none =>
        obtain ⟨_, _, waited', -⟩ := mmioWait_silent awaits attached pulsed answered
        rw [waited'] at waited
        cases waited
        exact absurd zero (by decide)

theorem pciWait_reads : WaitReads pciWaitForCompletion := by
  intro queueSize c answer es s awaits done es' s' waited zero
  cases attached : s.channel with
  | false =>
    cases answer with
    | some n =>
      obtain ⟨_, got, -⟩ := getBuf_answered awaits 0
      rw [pciWaitForCompletion, got] at waited
      simp only [if_pos (head_nonneg c.head)] at waited
      cases waited
      rfl
    | none =>
      rw [pciWaitForCompletion, getBuf_waiting awaits 0] at waited
      simp only [pciRetry, receivePulse_detached attached, getBuf_waiting awaits,
        Option.map_some] at waited
      cases waited
      exact absurd zero (by decide : -esrch ≠ 0)
  | true =>
    cases answered : answer.or (published c es) with
    | some n =>
      obtain ⟨_, _, waited', -⟩ := pciWait_answered awaits attached answered
      rw [waited'] at waited
      cases waited
      rfl
    | none =>
      obtain ⟨_, _, waited', -⟩ := pciWait_silent awaits attached answered
      rw [waited'] at waited
      cases waited
      exact absurd zero (by decide)

/-! ### When a wait succeeds -/

/-- A wait on an empty channel succeeds if the first pulse comes behind the completion. It takes
that pulse, or leaves the channel empty. -/
def WaitPrompt (wait : List WaitEvent → WaitState → Waited) : Prop :=
  ∀ queueSize c answer s n before after, Awaits queueSize c answer s.live → s.channel = true →
    s.pulses = 0 → .pulse ∉ before → answer.or (published c before) = some n →
      ∃ es' s', wait (before ++ .pulse :: after) s =
        some (⟨0, n, c.head.toUInt32.toInt32⟩, es', s') ∧ s'.pulses = 0

section Prompt

variable {queueSize : UInt16} {c : Chain} {s : WaitState}

theorem untilPulse_first {before : List WaitEvent} (quiet : .pulse ∉ before)
    (after : List WaitEvent) :
    untilPulse 0 (before ++ .pulse :: after) = some (before ++ [.pulse], after) := by
  induction before with
  | nil => rfl
  | cons e before ih =>
    rw [List.mem_cons, not_or] at quiet
    obtain ⟨other, rest⟩ := quiet
    cases e with
    | pulse => exact absurd rfl other
    | complete head outLen => exact congrArg (Option.map _) (ih rest)
    | tick => exact congrArg (Option.map _) (ih rest)

theorem elapsed_quiet {before : List WaitEvent} (quiet : .pulse ∉ before) :
    (s.elapsed before).pulses = s.pulses := by
  induction before generalizing s with
  | nil => rfl
  | cons e before ih =>
    rw [List.mem_cons, not_or] at quiet
    obtain ⟨other, rest⟩ := quiet
    refine (ih (s := s.elapse e) rest).trans ?_
    cases e with
    | pulse => exact absurd rfl other
    | complete head outLen => rfl
    | tick => rfl

theorem getBuf_pulses {outLen : UInt32} {got : Int32 × UInt32} {s' : WaitState}
    (looked : s.getBuf outLen = some (got, s')) : s'.pulses = s.pulses := by
  obtain ⟨⟨got, live⟩, -, result⟩ := Option.map_eq_some_iff.mp looked
  cases result
  rfl

/-- The receive takes the pulse, and the look at the used ring finds the completion. -/
theorem received_prompt {answer : Option UInt32} {n : UInt32} {before : List WaitEvent}
    (awaits : Awaits queueSize c answer s.live) (attached : s.channel = true)
    (empty : s.pulses = 0) (quiet : .pulse ∉ before)
    (answered : answer.or (published c before) = some n) (after : List WaitEvent)
    (outLen : UInt32) :
    ∃ s₁ s', s.receivePulse (before ++ .pulse :: after) = (.ok (), after, s₁) ∧
      pollUsed outLen after s₁ = some ((c.head.toUInt32.toInt32, n), after, s') ∧
        s'.pulses = 0 := by
  have split : untilPulse s.pulses (before ++ .pulse :: after) =
      some (before ++ [.pulse], after) := by
    rw [empty]
    exact untilPulse_first quiet after
  have received := (WaitState.receivePulse_ok attached split).1
  have waiting := awaits.elapsed (before ++ [.pulse])
  rw [published_append_some answered] at waiting
  have taken : Awaits queueSize c (some n) (s.elapsed (before ++ [.pulse])).drainPulse.live :=
    waiting
  obtain ⟨s', got, -⟩ := getBuf_answered taken outLen
  refine ⟨_, s', received, ?_, ?_⟩
  · rw [pollUsed, got]
    simp only [if_pos (head_nonneg c.head)]
  · -- one pulse was queued, and it was taken
    rw [getBuf_pulses got, WaitState.elapsed_append]
    have one : ((s.elapsed before).elapsed [.pulse]).pulses = 1 := by
      change (s.elapsed before).pulses + 1 = 1
      rw [elapsed_quiet quiet, empty]
    simp only [WaitState.drainPulse, one]

theorem mmioWait_prompt : WaitPrompt mmioWaitForCompletion := by
  intro queueSize c answer s n before after awaits attached empty quiet answered
  obtain ⟨s₁, s', received, polled, drained⟩ :=
    received_prompt awaits attached empty quiet answered after 0
  refine ⟨after, s', ?_, drained⟩
  rw [mmioWaitForCompletion, received]
  simp only [polled, Option.map_some, conclude, if_pos (head_nonneg c.head)]

theorem pciWait_prompt : WaitPrompt pciWaitForCompletion := by
  intro queueSize c answer s n before after awaits attached empty quiet answered
  cases answer with
  | some m =>
    -- the check before the first receive finds the completion
    cases answered
    obtain ⟨s', got, -⟩ := getBuf_answered awaits 0
    refine ⟨before ++ .pulse :: after, s'.drainPulse, ?_, ?_⟩
    · rw [pciWaitForCompletion, got]
      simp only [if_pos (head_nonneg c.head)]
    · simp only [WaitState.drainPulse, getBuf_pulses got, empty]
  | none =>
    obtain ⟨s₁, s', received, polled, drained⟩ :=
      received_prompt awaits attached empty quiet answered after 0
    refine ⟨after, s', ?_, drained⟩
    rw [pciWaitForCompletion, getBuf_waiting awaits 0]
    simp only [pciRetry, received, polled, if_pos (head_nonneg c.head)]
    rfl

end Prompt

end Virtio9p
