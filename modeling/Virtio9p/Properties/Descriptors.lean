import Virtio9p.Transport.Partition

/-!
# Descriptors of the virtqueue

In every run of driver and device the free list and the chains in flight share the
descriptor table, and a chain in flight is left alone until `GetBuf` returns it.
-/
namespace Virtio9p

/-- The input leaves a chain in flight alone, or returns it. -/
def Untouched (c : Chain) (s : LiveQueue) (reply : QueueReply) (s' : LiveQueue) : Prop :=
  (c ∈ s'.inFlight ∧ s'.queue.desc c.head = s.queue.desc c.head ∧
    s'.queue.desc c.tail = s.queue.desc c.tail) ∨
  (∃ outLen, reply = .got c.head.toUInt32.toInt32 outLen) ∧ c ∉ s'.inFlight

/-- What holds of the descriptors between two calls. -/
structure DescriptorLaws (fuel : Nat) (queueSize : UInt16) (s : LiveQueue) : Prop where
  /-- Every descriptor is free or in one chain in flight, and only there. -/
  partition : (s.queue.freeList ++ s.inFlight.flatMap Chain.descs).Perm (descriptors queueSize)
  counted : s.queue.freeList.length = s.queue.numFree.toNat
  /-- A request descriptor that links to a response descriptor. -/
  layout : ∀ c ∈ s.inFlight, s.queue.desc c.head = c.request ∧ s.queue.desc c.tail = c.response
  full : ∀ outPhys outLen inPhys inLen,
    (s.queue.addBuf outPhys outLen inPhys inLen).1 = -enospc ↔ s.queue.freeList.length < 2
  unchanged : ∀ outPhys outLen inPhys inLen,
    (s.queue.addBuf outPhys outLen inPhys inLen).1 = -enospc →
      (s.queue.addBuf outPhys outLen inPhys inLen).2 = s.queue
  returns : ((liveQueue fuel).step .getBuf s).1 ≠ .stuck
  untouched : ∀ input, Conforming input s → ∀ c ∈ s.inFlight,
    Untouched c s ((liveQueue fuel).step input s).1 ((liveQueue fuel).step input s).2

section Laws

variable {queueSize : UInt16} {s : LiveQueue}

/-- A chain that stays in flight stays as it is. -/
theorem Sound.kept {s' : LiveQueue} (sound : Sound queueSize s) (sound' : Sound queueSize s')
    {c : Chain} (member : c ∈ s.inFlight) (remains : c ∈ s'.inFlight) (reply : QueueReply) :
    Untouched c s reply s' := by
  obtain ⟨request, response⟩ := sound.holds c member
  obtain ⟨request', response'⟩ := sound'.holds c remains
  exact Or.inl ⟨remains, request'.trans request.symm, response'.trans response.symm⟩

theorem Sound.addBuf_full_iff (sound : Sound queueSize s) (outPhys : UInt64) (outLen : UInt32)
    (inPhys : UInt64) (inLen : UInt32) :
    (s.queue.addBuf outPhys outLen inPhys inLen).1 = -enospc ↔ s.queue.numFree < 2 := by
  constructor
  · intro failed
    by_contra room
    let c := s.queue.nextChain outPhys outLen inPhys inLen
    have apart : c.tail ≠ c.head := (sound.next_free ⟨rfl, rfl, rfl⟩ room).2
    rw [Virtqueue.addBuf_eq room apart] at failed
    exact head_not_neg _ (failed ▸ (by decide : (-enospc : Int32) < 0))
  · intro full
    rw [Virtqueue.addBuf_full full]

theorem Sound.untouched (sound : Sound queueSize s) (fuel : Nat) {input : QueueInput}
    (conforming : Conforming input s) {c : Chain} (member : c ∈ s.inFlight) :
    Untouched c s ((liveQueue (fuel + 2)).step input s).1
      ((liveQueue (fuel + 2)).step input s).2 := by
  have sound' := sound_step fuel input s sound conforming
  cases input with
  | addBuf outPhys outLen inPhys inLen =>
    apply sound.kept sound' member
    by_cases full : s.queue.numFree < 2
    · simp only [liveQueue, addBuf_full full]
      exact member
    · simp only [liveQueue, sound.addBuf_eq full]
      exact List.mem_append_left _ member
  | getBuf =>
    cases unread : s.queue.unread with
    | nil =>
      apply sound.kept sound' member
      simp only [liveQueue, getBuf_nil unread]
      exact member
    | cons e rest =>
      obtain ⟨d, inFlight, names⟩ := sound.completes.named e (unread ▸ List.mem_cons_self)
      have got := sound.getBuf_eq unread inFlight names fuel 0
      by_cases same : c.head = d.head
      · right
        simp only [liveQueue, got]
        constructor
        · rw [same]
          exact ⟨e.len, rfl⟩
        · intro remains
          have differ := (List.mem_filter.mp remains).2
          simp [same] at differ
      · apply sound.kept sound' member
        simp only [liveQueue, got]
        exact List.mem_filter.mpr ⟨member, decide_eq_true fun equal => same (head_inj.mp equal)⟩
  | device usedIdx usedRing => exact sound.kept sound' member member _

theorem Sound.laws (sound : Sound queueSize s) (fuel : Nat) :
    DescriptorLaws (fuel + 2) queueSize s where
  partition := sound.parts
  counted := s.queue.freeList_length
  layout := sound.holds
  full outPhys outLen inPhys inLen := by
    have two : (2 : UInt16).toNat = 2 := rfl
    rw [sound.addBuf_full_iff, Virtqueue.freeList_length, UInt16.lt_iff_toNat_lt, two]
  unchanged outPhys outLen inPhys inLen failed := by
    rw [Virtqueue.addBuf_full ((sound.addBuf_full_iff _ _ _ _).mp failed)]
  returns := by
    obtain ⟨reply, s', got, _⟩ := sound.getBuf fuel 0
    simp [liveQueue, got]
  untouched _ conforming _ member := sound.untouched fuel conforming member

end Laws

/-- The laws hold after every run with a conforming device. -/
theorem descriptors_partitioned (queueSize : UInt16) (fuel : Nat) (inputs : List QueueInput)
    (conforming : (liveQueue (fuel + 2)).Meets Conforming inputs (LiveQueue.start queueSize)) :
    DescriptorLaws (fuel + 2) queueSize
      ((liveQueue (fuel + 2)).run inputs (LiveQueue.start queueSize)).2 := by
  have sound : Sound queueSize
      ((liveQueue (fuel + 2)).run inputs (LiveQueue.start queueSize)).2 :=
    conforming.invariant (sound_step fuel) (sound_start queueSize)
  exact sound.laws fuel

/-- Two chains in a queue of four, completed out of order. -/
def outOfOrder : List QueueInput :=
  [.addBuf 0x1000 16 0x2000 64, .addBuf 0x3000 16 0x4000 64,
    .device 1 (fun _ => ⟨2, 11⟩), .getBuf, .addBuf 0x5000 16 0x6000 64,
    .device 3 (fun slot => if slot = 1 then ⟨0, 7⟩ else ⟨3, 9⟩), .getBuf, .getBuf]

theorem descriptors_partitioned_outOfOrder :
    DescriptorLaws 2 4 ((liveQueue 2).run outOfOrder (LiveQueue.start 4)).2 := by
  apply descriptors_partitioned 4 0 outOfOrder
  exact ⟨trivial, trivial, ⟨by decide, by decide⟩, trivial, trivial,
    ⟨by decide, by decide⟩, trivial,
    trivial, trivial⟩

end Virtio9p
