import Virtio9p.Transport.SetupLaws

/-!
# Exchanges

What bringing a transport up and one `Exchange` do, for any transport that keeps the laws of
its setup and of its wait.
-/
namespace Virtio9p

/-- Every wait ends: with the completion of the chain in flight and the queue idle, or with a
negative code and no completion read. -/
def WaitEnds (wait : List WaitEvent → WaitState → Waited) : Prop :=
  ∀ queueSize c answer es s, Awaits queueSize c answer s.live → ∃ done es' s',
    wait es s = some (done, es', s') ∧
      (done.rc = 0 ∧ done.head = c.head.toUInt32.toInt32 ∧ Idle queueSize s'.live ∨
        done.rc < 0 ∧ done.head = -1)

theorem receivePulse_detached {s : WaitState} (detached : s.channel = false)
    (es : List WaitEvent) : s.receivePulse es = (.error esrch, es, s) := by
  unfold WaitState.receivePulse
  rw [if_pos detached]

theorem mmioWait_ends : WaitEnds mmioWaitForCompletion := by
  intro queueSize c answer es s awaits
  cases attached : s.channel with
  | false =>
    -- the receive fails at once, and nobody looks at the used ring
    refine ⟨⟨-esrch, 0, -1⟩, es, s, ?_, .inr ⟨by decide, rfl⟩⟩
    rw [mmioWaitForCompletion, receivePulse_detached attached]
  | true =>
    cases pulsed : mmioWindow s.pulses es with
    | none => exact ⟨_, _, _, mmioWait_timeout attached pulsed, .inr ⟨by decide, rfl⟩⟩
    | some seen =>
      cases answered : answer.or (published c seen) with
      | some n =>
        obtain ⟨es', s', waited, idle⟩ := mmioWait_answered awaits attached pulsed answered
        exact ⟨_, es', s', waited, .inl ⟨rfl, rfl, idle⟩⟩
      | none =>
        obtain ⟨es', s', waited, -⟩ := mmioWait_silent awaits attached pulsed answered
        exact ⟨_, es', s', waited, .inr ⟨by decide, rfl⟩⟩

theorem pciWait_ends : WaitEnds pciWaitForCompletion := by
  intro queueSize c answer es s awaits
  cases attached : s.channel with
  | false =>
    cases answer with
    | some n =>
      -- the check before the first receive finds the completion
      obtain ⟨s', got, idle⟩ := getBuf_answered awaits 0
      refine ⟨⟨0, n, c.head.toUInt32.toInt32⟩, es, s'.drainPulse, ?_, .inl ⟨rfl, rfl, idle⟩⟩
      rw [pciWaitForCompletion, got]
      simp only [if_pos (head_nonneg c.head)]
    | none =>
      -- the receive fails at once, and so does the last-resort check
      refine ⟨⟨-esrch, 0, -1⟩, es, s, ?_, .inr ⟨by decide, rfl⟩⟩
      have got := getBuf_waiting awaits 0
      rw [pciWaitForCompletion, got]
      simp only [pciRetry, receivePulse_detached attached, got]
      rfl
  | true =>
    cases answered : answer.or (published c es) with
    | some n =>
      obtain ⟨es', s', waited, idle⟩ := pciWait_answered awaits attached answered
      exact ⟨_, es', s', waited, .inl ⟨rfl, rfl, idle⟩⟩
    | none =>
      obtain ⟨es', s', waited, -⟩ := pciWait_silent awaits attached answered
      exact ⟨_, es', s', waited, .inr ⟨by decide, rfl⟩⟩

/-! ### The buffers -/

/-- `-errno` is not 0. -/
theorem negated_errno (errno : Errno) : -errno.val ≠ 0 := by
  intro zero
  have positive := errno.property
  have back : errno.val = 0 := by rw [← Int32.neg_neg (a := errno.val), zero, Int32.neg_zero]
  rw [back] at positive
  exact absurd positive Int32.lt_irrefl

namespace TransportState

variable {κ : Type} {o : SetupOutcome} {t : TransportState κ}

@[simp] theorem attachInterrupt_virtqueue : (t.attachInterrupt o).2.virtqueue = t.virtqueue := by
  unfold attachInterrupt
  split
  · rfl
  · simp only
    split
    · rfl
    · split <;> rfl

@[simp] theorem attachInterrupt_device : (t.attachInterrupt o).2.device = t.device := by
  unfold attachInterrupt
  split
  · rfl
  · simp only
    split
    · rfl
    · split <;> rfl

@[simp] theorem mapBuffers_virtqueue : (t.mapBuffers o).2.virtqueue = t.virtqueue := by
  unfold mapBuffers
  split
  · rfl
  · simp only
    split
    · rfl
    · split
      · rfl
      · split
        · rfl
        · exact attachInterrupt_virtqueue

@[simp] theorem mapBuffers_device : (t.mapBuffers o).2.device = t.device := by
  unfold mapBuffers
  split
  · rfl
  · simp only
    split
    · rfl
    · split
      · rfl
      · split
        · rfl
        · exact attachInterrupt_device

/-- Without the request buffer the guard of `Exchange` does not pass. -/
theorem not_up_of_request (unmapped : t.dmaReqVirt = none) : ¬ t.Up :=
  fun up => up.2.1 unmapped

end TransportState

section Exchanges

variable {κ : Type} {impl : TransportImpl κ} {queueSize : UInt32 → UInt16}

/-- `InitializeDevice` stops before the buffers, or makes a queue and goes on to them. -/
theorem initializeDevice_cases (laws : SetupLaws impl queueSize) (o : SetupOutcome)
    (t : TransportState κ) :
    ((impl.initializeDevice o t).1 ≠ 0 ∧ BuffersKept t (impl.initializeDevice o t).2) ∨
    ∃ t' live, impl.initializeDevice o t = t'.mapBuffers o ∧ BuffersKept t t' ∧
      queueSize o.queueNumMax ≠ 0 ∧ t'.virtqueue = some live ∧ Idle (queueSize o.queueNumMax) live ∧
        Registered live.queue t'.device := by
  have negotiated := laws.negotiated o t
  unfold TransportImpl.initializeDevice
  simp only
  by_cases refused : (impl.negotiateFeatures o t).1 ≠ 0
  · rw [if_pos refused]
    exact .inl ⟨refused, negotiated⟩
  · rw [if_neg refused]
    have queued := laws.queued o (impl.negotiateFeatures o t).2
    have kept : BuffersKept t (impl.setupVirtqueue o (impl.negotiateFeatures o t).2).2 :=
      ⟨queued.request.trans negotiated.request, queued.response.trans negotiated.response⟩
    by_cases failed : (impl.setupVirtqueue o (impl.negotiateFeatures o t).2).1 ≠ 0
    · rw [if_pos failed]
      exact .inl ⟨failed, kept⟩
    · rw [if_neg failed]
      obtain ⟨size, live, made, idle, registered⟩ := laws.made o _ (not_not.mp failed)
      exact .inr ⟨_, live, rfl, kept, size, made, idle, registered⟩

/-- If the guard passes, the queue has two descriptors or more, and all of them are free. -/
def QueueReady (t : TransportState κ) : Prop :=
  t.Up → ∃ live, t.virtqueue = some live ∧ 2 ≤ live.queue.queueSize ∧
    Idle live.queue.queueSize live

theorem QueueReady.of_idle {size : UInt16} (two : 2 ≤ size) {live : LiveQueue}
    (idle : Idle size live) {t : TransportState κ} (queue : t.virtqueue = some live) :
    QueueReady t := by
  have same := idle.sound.size
  intro _
  exact ⟨live, queue, same ▸ two, same ▸ idle⟩

/-- An initialization that returns 0 has made the queue. -/
theorem initializeDevice_ready (laws : SetupLaws impl queueSize) {o : SetupOutcome}
    {t : TransportState κ} (two : 2 ≤ queueSize o.queueNumMax)
    (done : (impl.initializeDevice o t).1 = 0) : QueueReady (impl.initializeDevice o t).2 := by
  rcases initializeDevice_cases laws o t with ⟨failed, -⟩ | ⟨t', live, result, -, -, made, idle, -⟩
  · exact absurd done failed
  · apply QueueReady.of_idle two idle
    rw [result, TransportState.mapBuffers_virtqueue, made]

/-- Wherever it stops, `ResetDevice` leaves no queue with a chain in flight in use. -/
theorem resetDevice_ready (laws : SetupLaws impl queueSize) {o : SetupOutcome}
    (room : queueSize o.queueNumMax ≠ 1) (t : TransportState κ) :
    QueueReady (impl.resetDevice o t).2 := by
  let released := TransportState.release { impl.clearStatus t with virtqueue := none }
  rcases initializeDevice_cases laws o released with
    ⟨-, kept⟩ | ⟨t', live, result, -, size, made, idle, -⟩
  · -- `release` has dropped the buffers, and nothing has made new ones
    have down : ¬ (impl.resetDevice o t).2.Up := TransportState.not_up_of_request kept.request
    exact fun up => absurd up down
  · -- the queue was made anew, so no chain of the old one is in flight
    have queue : (impl.resetDevice o t).2.virtqueue = some live := by
      change (impl.initializeDevice o released).2.virtqueue = some live
      rw [result, TransportState.mapBuffers_virtqueue, made]
    have two : 2 ≤ queueSize o.queueNumMax := by
      have none : (0 : UInt16).toNat = 0 := rfl
      have one : (1 : UInt16).toNat = 1 := rfl
      have least : (2 : UInt16).toNat = 2 := rfl
      rw [Ne, ← UInt16.toNat_inj] at size room
      rw [UInt16.le_iff_toNat_le]
      omega
    exact QueueReady.of_idle two idle queue

/-- What one `Exchange` does on a transport whose queue is ready. -/
structure ExchangeSound (t : TransportState κ)
    (result : Option ExchangeReply × TransportState κ) : Prop where
  /-- Behind the guard all descriptors are free and `AddBuf` finds room. -/
  room : t.Up → ∃ live, t.virtqueue = some live ∧
    live.queue.freeList.Perm (descriptors live.queue.queueSize) ∧
    live.queue.numFree = live.queue.queueSize ∧
      ∃ reply head, result.1 = some reply ∧ reply.added = some head ∧ 0 ≤ head
  /-- A completion that is read is that of the request just added. -/
  own : ∀ reply head, result.1 = some reply → reply.head = some head → 0 ≤ head →
    reply.added = some head
  read : ∀ reply, result.1 = some reply → reply.rc = 0 → ∃ head, reply.head = some head ∧ 0 ≤ head
  refused : ¬ t.Up → result = (some ⟨-einval, [], none, none⟩, t)

theorem exchange_refused (x : ExchangeInput) {t : TransportState κ} (down : ¬ t.Up) :
    impl.exchange x t = (some ⟨-einval, [], none, none⟩, t) := by
  rw [TransportImpl.exchange_eq]
  split
  · rename_i queue request response
    exact absurd ⟨by simp [queue], by simp [request], by simp [response]⟩ down
  · rfl

/-- Behind the guard, on an idle queue of two descriptors or more, the request is added and
either its completion is read or the device is reset. -/
theorem exchange_up (ends : WaitEnds impl.waitForCompletion) {size : UInt16} (two : 2 ≤ size)
    (x : ExchangeInput) {t : TransportState κ} (up : t.Up) {live : LiveQueue}
    (queue : t.virtqueue = some live) (idle : Idle size live) :
    ∃ (head : UInt16) (done : Completion) (s : WaitState),
      done.rc = 0 ∧ Idle size s.live ∧
        impl.exchange x t =
          (some ⟨0, (List.range done.outLen.toNat).map x.answer, some head.toUInt32.toInt32,
            some head.toUInt32.toInt32⟩,
            { t with virtqueue := some s.live, pulses := s.pulses }) ∨
      done.rc < 0 ∧
        impl.exchange x t = (some ⟨done.rc, [], some head.toUInt32.toInt32, some (-1)⟩,
          (impl.resetDevice x.reset
            { t with virtqueue := some s.live, pulses := s.pulses }).2) := by
  obtain ⟨-, request, response⟩ := up
  obtain ⟨req, request⟩ := Option.ne_none_iff_exists'.mp request
  obtain ⟨resp, response⟩ := Option.ne_none_iff_exists'.mp response
  obtain ⟨head, awaits⟩ := idle.addBuf two t.dmaReqPhys (UInt32.ofNat x.request.length)
    t.dmaRespPhys maxMessageSize
  let added := live.addBuf t.dmaReqPhys (UInt32.ofNat x.request.length) t.dmaRespPhys
    maxMessageSize
  let c := live.queue.nextChain t.dmaReqPhys (UInt32.ofNat x.request.length) t.dmaRespPhys
    maxMessageSize
  let s₀ : WaitState := ⟨added.2, 0 ≤ t.chid, t.pulses⟩
  -- from `AddBuf` on exactly the chain of this request is in flight
  have waiting : Awaits size c (Option.or none (published c x.early)) (s₀.elapsed x.early).live :=
    Awaits.elapsed (s := s₀) awaits x.early
  obtain ⟨done, es, s, waited, outcome⟩ := ends size c _ x.events _ waiting
  have room : ¬ added.1 < 0 := by
    change ¬ (live.addBuf _ _ _ _).1 < 0
    rw [head]
    exact head_not_neg _
  -- so `Exchange` gets past `AddBuf` and its wait returns
  have step : impl.exchange x t =
      if done.rc < 0 then
        (some ⟨done.rc, [], some added.1, some done.head⟩, (impl.resetDevice x.reset
          { t with virtqueue := some s.live, pulses := s.pulses }).2)
      else
        (some ⟨0, (List.range done.outLen.toNat).map x.answer, some added.1, some done.head⟩,
          { t with virtqueue := some s.live, pulses := s.pulses }) := by
    rw [TransportImpl.exchange_eq, queue, request, response]
    simp only
    rw [if_neg room]
    rw [show impl.waitForCompletion x.events _ = _ from waited]
  refine ⟨c.head, done, s, ?_⟩
  rw [step, show added.1 = c.head.toUInt32.toInt32 from head]
  rcases outcome with ⟨success, own, idle⟩ | ⟨failure, unread⟩
  · left
    rw [if_neg (by rw [success]; exact Int32.lt_irrefl), own]
    exact ⟨success, idle, rfl⟩
  · right
    rw [if_pos failure, unread]
    exact ⟨failure, rfl⟩

theorem exchange_sound (laws : SetupLaws impl queueSize) (ends : WaitEnds impl.waitForCompletion)
    (x : ExchangeInput) (room : queueSize x.reset.queueNumMax ≠ 1) {t : TransportState κ}
    (ready : QueueReady t) :
    ExchangeSound t (impl.exchange x t) ∧ QueueReady (impl.exchange x t).2 := by
  by_cases up : t.Up
  · obtain ⟨live, queue, two, idle⟩ := ready up
    -- with nothing in flight the free list is the whole table
    have free : live.queue.freeList.Perm (descriptors live.queue.queueSize) := by
      have parts := idle.sound.parts
      rwa [idle.empty, List.flatMap_nil, List.append_nil] at parts
    obtain ⟨head, done, s, ⟨success, after, step⟩ | ⟨failure, step⟩⟩ :=
      exchange_up ends two x up queue idle
    · rw [step]
      constructor
      · constructor
        · intro _
          exact ⟨live, queue, free, idle.numFree, _, _, rfl, rfl, head_nonneg head⟩
        · rintro _ _ ⟨⟩ ⟨⟩ _
          rfl
        · rintro _ ⟨⟩ _
          exact ⟨_, rfl, head_nonneg head⟩
        · exact fun down => absurd up down
      · exact QueueReady.of_idle two after rfl
    · rw [step]
      constructor
      · constructor
        · intro _
          exact ⟨live, queue, free, idle.numFree, _, _, rfl, rfl, head_nonneg head⟩
        · rintro _ _ ⟨⟩ ⟨⟩ nonneg
          -- no completion was read
          exact absurd nonneg (by decide)
        · rintro _ ⟨⟩ zero
          have zero : done.rc = 0 := zero
          exact absurd (zero ▸ failure) Int32.lt_irrefl
        · exact fun down => absurd up down
      · exact resetDevice_ready laws room _
  · rw [exchange_refused x up]
    constructor
    · constructor
      · exact fun up' => absurd up' up
      · rintro _ _ ⟨⟩ ⟨⟩
      · rintro _ ⟨⟩ zero
        exact absurd zero (by decide)
      · exact fun _ => rfl
    · exact ready

end Exchanges

end Virtio9p
