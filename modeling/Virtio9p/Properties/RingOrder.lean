import Virtio9p.Transport.RingDevice

/-!
# Order on the rings

With a size that is a power of two both rings are FIFO queues, however often the 16-bit
indices wrap: the room in the rings follows from the number of descriptors.
-/
namespace Virtio9p

/-- What a run has shown, and what holds of the state it ends in. -/
structure RingLaws (fuel : Nat) (replies : List RingReply) (s : RingState) : Prop where
  /-- The device takes each head that `AddBuf` returned once, in this order, and finds no
  entry only if it has taken all of them. -/
  avail : Fifo.Trace [] (replies.map availEvent) s.availContents
  seen : (replies.map availEvent).filterMap Fifo.Event.get? ++ s.availContents =
    (replies.map availEvent).filterMap Fifo.Event.put?
  /-- `GetBuf` returns each completion once, in the order of publication, and -1 only if it
  has returned all of them. -/
  used : Fifo.Trace [] (replies.map usedEvent) s.usedContents
  got : (replies.map usedEvent).filterMap Fifo.Event.get? ++ s.usedContents =
    (replies.map usedEvent).filterMap Fifo.Event.put?
  returns : .stuck ∉ replies
  kept : ∀ input, SlotsKept s ((ringMachine fuel).step input s).2

/-- A size that is a power of two divides the range of the indices. -/
theorem slots_apart {queueSize : UInt16} {k : Nat} (power : queueSize.toNat = 2 ^ k) :
    Ring.Apart (· + 1) (· % queueSize) queueSize.toNat := by
  apply Ring.apart_mod
  rw [power]
  apply Nat.pow_dvd_pow 2
  -- an exponent of 17 or more would not fit into the size
  have bound := queueSize.toNat_lt
  rw [power] at bound
  exact Nat.le_of_lt ((Nat.pow_lt_pow_iff_right (by decide)).mp bound)

theorem stepsInOrder {queueSize : UInt16} {s : RingState}
    (apart : Ring.Apart (· + 1) (· % queueSize) queueSize.toNat)
    (inOrder : InOrder queueSize s) (fuel : Nat) (input : RingInput) :
    StepsInOrder queueSize s ((ringMachine (fuel + 2)).step input s) := by
  cases input with
  | addBuf outPhys outLen inPhys inLen =>
    exact addBuf_inOrder apart inOrder outPhys outLen inPhys inLen (fuel + 2)
  | getBuf => exact getBuf_inOrder inOrder fuel
  | take => exact take_inOrder inOrder
  | complete which outLen => exact complete_inOrder apart inOrder which outLen

theorem start_contents (queueSize : UInt16) :
    (RingState.start queueSize).availContents = [] ∧
      (RingState.start queueSize).usedContents = [] := by
  have posted : (RingState.start queueSize).posted = [] := Ring.pending_eq_nil.mpr rfl
  have unread : (RingState.start queueSize).live.queue.unread = [] := Ring.pending_eq_nil.mpr rfl
  rw [RingState.availContents, RingState.usedContents, posted, unread]
  exact ⟨rfl, rfl⟩

/-- The laws hold after every run. -/
theorem rings_in_order (queueSize : UInt16) (k : Nat) (power : queueSize.toNat = 2 ^ k)
    (fuel : Nat) (inputs : List RingInput) :
    let run := (ringMachine (fuel + 2)).run inputs (RingState.start queueSize)
    RingLaws (fuel + 2) run.1 run.2 := by
  intro run
  have steps (input : RingInput) (s : RingState) (inOrder : InOrder queueSize s) :
      StepsInOrder queueSize s ((ringMachine (fuel + 2)).step input s) :=
    stepsInOrder (slots_apart power) inOrder fuel input
  have invariant (input : RingInput) (s : RingState) (inOrder : InOrder queueSize s) :
      InOrder queueSize ((ringMachine (fuel + 2)).step input s).2 := (steps input s inOrder).inOrder
  have start := inOrder_start queueSize
  have final : InOrder queueSize run.2 := Machine.run_invariant invariant inputs start
  have avail : Fifo.Trace [] (run.1.map availEvent) run.2.availContents := by
    rw [← (start_contents queueSize).1]
    exact Fifo.run_trace invariant (fun input s inOrder => (steps input s inOrder).avail) inputs
      start
  have used : Fifo.Trace [] (run.1.map usedEvent) run.2.usedContents := by
    rw [← (start_contents queueSize).2]
    exact Fifo.run_trace invariant (fun input s inOrder => (steps input s inOrder).used) inputs
      start
  have returns : ∀ reply ∈ run.1, reply ≠ .stuck :=
    Machine.run_outputs invariant (fun input s inOrder => (steps input s inOrder).returns)
      inputs start
  constructor
  · exact avail
  · exact avail.order
  · exact used
  · exact used.order
  · exact fun stuck => returns _ stuck rfl
  · exact fun input => (steps input run.2 final).kept

/-- Two requests at a time in a ring of four, over and over. -/
def busyRing : List RingInput :=
  (List.replicate 3 [.addBuf 0x1000 16 0x2000 64, .addBuf 0x3000 16 0x4000 64, .take, .take,
    .complete 1 11, .complete 0 7, .getBuf, .getBuf, .getBuf]).flatten

theorem rings_in_order_busyRing :
    RingLaws 2 ((ringMachine 2).run busyRing (RingState.start 4)).1
      ((ringMachine 2).run busyRing (RingState.start 4)).2 :=
  rings_in_order 4 2 rfl 0 busyRing

end Virtio9p
