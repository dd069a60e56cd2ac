import Virtio9p.Foundation.Fifo
import Virtio9p.Transport.Partition

/-!
# A device on the rings

The device takes the entries of the available ring in the order of their indices. It
completes the chains it has taken in any order, and puts each into the slot of the next
index of the used ring.
-/
namespace Virtio9p

structure RingState where
  live : LiveQueue
  /-- The device's own index into the available ring. -/
  seenIdx : UInt16
  /-- Heads that the device has taken and not completed. -/
  held : List UInt16

inductive RingInput where
  | addBuf (outPhys : UInt64) (outLen : UInt32) (inPhys : UInt64) (inLen : UInt32)
  | getBuf
  | take
  /-- Complete one of the chains that the device holds. -/
  | complete (which : Nat) (outLen : UInt32)
  deriving DecidableEq, Repr

inductive RingReply where
  | added (rc : Int32)
  | got (rc : Int32) (outLen : UInt32)
  /-- `GetBuf` does not return. -/
  | stuck
  | taken (head : UInt16)
  /-- The device finds no entry. -/
  | noEntry
  | published (head : UInt16) (outLen : UInt32)
  /-- The device holds no such chain. -/
  | noChain
  deriving DecidableEq, Repr

namespace RingState

def start (queueSize : UInt16) : RingState := ⟨LiveQueue.start queueSize, 0, []⟩

/-- The entries of the available ring that the device has not seen yet. -/
def posted (s : RingState) : List UInt16 :=
  Ring.pending s.live.queue.slot s.live.queue.availRing s.seenIdx s.live.queue.availIdx

/-- The device takes the next entry. -/
def take (s : RingState) : RingReply × RingState :=
  let vq := s.live.queue
  if s.seenIdx = vq.availIdx then (.noEntry, s)
  else
    let head := vq.availRing (vq.slot s.seenIdx)
    (.taken head, { s with seenIdx := s.seenIdx + 1, held := s.held ++ [head] })

/-- The device publishes a completion. -/
def complete (which : Nat) (outLen : UInt32) (s : RingState) : RingReply × RingState :=
  let vq := s.live.queue
  match s.held[which]? with
  | none => (.noChain, s)
  | some head =>
    let usedRing := Function.update vq.usedRing (vq.slot vq.usedIdx) ⟨head.toUInt32, outLen⟩
    (.published head outLen, { s with
      live := s.live.writeUsed (vq.usedIdx + 1) usedRing
      held := s.held.eraseIdx which })

end RingState

/-- Driver and device on the two rings. -/
def ringMachine (fuel : Nat) : Machine RingInput RingReply RingState where
  step
    | .addBuf outPhys outLen inPhys inLen, s =>
      let added := s.live.addBuf outPhys outLen inPhys inLen
      (.added added.1, { s with live := added.2 })
    | .getBuf, s =>
      match s.live.getBuf fuel 0 with
      | none => (.stuck, s)
      | some got => (.got got.1.1 got.1.2, { s with live := got.2 })
    | .take, s => s.take
    | .complete which outLen, s => s.complete which outLen

/-! ### The rings as queues -/

/-- The available ring carries what `AddBuf` returns to the device. -/
def availEvent : RingReply → Fifo.Event Int32
  | .added rc => if rc < 0 then .silent else .put rc
  | .taken head => .get head.toUInt32.toInt32
  | .noEntry => .empty
  | _ => .silent

/-- The used ring carries completions to `GetBuf`, which returns -1 if there is none. -/
def usedEvent : RingReply → Fifo.Event (Int32 × UInt32)
  | .published head outLen => .put (head.toUInt32.toInt32, outLen)
  | .got rc outLen => if rc = -1 then .empty else .get (rc, outLen)
  | _ => .silent

def RingState.availContents (s : RingState) : List Int32 :=
  s.posted.map fun head => head.toUInt32.toInt32

def RingState.usedContents (s : RingState) : List (Int32 × UInt32) :=
  s.live.queue.unread.map fun e => (e.id.toInt32, e.len)

/-- The slots of the entries that are not consumed yet hold what they held. -/
def SlotsKept (s s' : RingState) : Prop :=
  (∀ idx ∈ Ring.indices s.seenIdx s.live.queue.availIdx,
    s'.live.queue.availRing (s.live.queue.slot idx) =
      s.live.queue.availRing (s.live.queue.slot idx)) ∧
  ∀ idx ∈ Ring.indices s.live.queue.lastUsedIdx s.live.queue.usedIdx,
    s'.live.queue.usedRing (s.live.queue.slot idx) =
      s.live.queue.usedRing (s.live.queue.slot idx)

/-! ### The invariant -/

/-- Every chain in flight is posted, held by the device or used, and only one of these. -/
structure InOrder (queueSize : UInt16) (s : RingState) : Prop where
  -- a permutation: the device completes in any order
  sound : Sound queueSize s.live
  heads : (s.posted ++ s.held ++ s.live.queue.unread.map fun e => e.id.toUInt16).Perm
    (s.live.inFlight.map Chain.head)

/-- What a step has to do. -/
structure StepsInOrder (queueSize : UInt16) (s : RingState) (r : RingReply × RingState) :
    Prop where
  inOrder : InOrder queueSize r.2
  avail : Fifo.Step s.availContents (availEvent r.1) r.2.availContents
  used : Fifo.Step s.usedContents (usedEvent r.1) r.2.usedContents
  kept : SlotsKept s r.2
  returns : r.1 ≠ .stuck

section Invariant

variable {queueSize : UInt16} {s : RingState}

theorem InOrder.count (inOrder : InOrder queueSize s) :
    2 * (s.posted.length + s.held.length + s.live.queue.unread.length) ≤ queueSize.toNat := by
  -- a chain in flight takes two descriptors of the table
  have total := inOrder.heads.length_eq
  have count := inOrder.sound.count
  simp only [List.length_append, List.length_map] at total
  omega

theorem InOrder.nodup (inOrder : InOrder queueSize s) :
    (s.posted ++ s.held ++ s.live.queue.unread.map fun e => e.id.toUInt16).Nodup := by
  -- `Sound` speaks of the codes of the heads, not of the heads
  have codes : ((s.live.inFlight.map Chain.head).map fun head : UInt16 =>
      head.toUInt32.toInt32).Nodup := by
    rw [List.map_map]
    exact inOrder.sound.heads_nodup
  exact inOrder.heads.nodup_iff.mpr (codes.of_map _)

theorem inOrder_start (queueSize : UInt16) : InOrder queueSize (RingState.start queueSize) := by
  have posted : (RingState.start queueSize).posted = [] := Ring.pending_eq_nil.mpr rfl
  have unread : (RingState.start queueSize).live.queue.unread = [] := Ring.pending_eq_nil.mpr rfl
  constructor
  · exact sound_start queueSize
  · rw [posted, unread]
    exact List.Perm.refl _

/-! ### The steps -/

theorem SlotsKept.refl (s : RingState) : SlotsKept s s := ⟨fun _ _ => rfl, fun _ _ => rfl⟩

/-- Some step does nothing to the rings. -/
theorem InOrder.idle (inOrder : InOrder queueSize s) {reply : RingReply}
    (avail : availEvent reply = .silent ∨ availEvent reply = .empty ∧ s.posted = [])
    (used : usedEvent reply = .silent ∨ usedEvent reply = .empty ∧ s.live.queue.unread = [])
    (returns : reply ≠ .stuck) : StepsInOrder queueSize s (reply, s) := by
  refine ⟨inOrder, ?_, ?_, SlotsKept.refl s, returns⟩
  · rcases avail with silent | ⟨event, empty⟩
    · rw [silent]
      exact Fifo.Step.silent _
    · rw [event, RingState.availContents, empty]
      exact Fifo.Step.empty
  · rcases used with silent | ⟨event, empty⟩
    · rw [silent]
      exact Fifo.Step.silent _
    · rw [event, RingState.usedContents, empty]
      exact Fifo.Step.empty

theorem InOrder.slots (inOrder : InOrder queueSize s) :
    s.live.queue.slot = (· % queueSize) := by
  funext idx
  rw [Virtqueue.slot, inOrder.sound.size]

section Completed

variable {which : Nat} {head : UInt16} (holds : s.held[which]? = some head)

include holds

theorem held_perm : s.held.Perm (head :: s.held.eraseIdx which) := by
  obtain ⟨inside, isHead⟩ := List.getElem?_eq_some_iff.mp holds
  rw [← isHead]
  exact (List.getElem_cons_eraseIdx_perm inside).symm

/-- The completed chain moves from the held ones to the used ring. -/
theorem InOrder.moved (inOrder : InOrder queueSize s) (outLen : UInt32) :
    (s.posted ++ s.held.eraseIdx which ++
        (s.live.queue.unread ++ [VringUsedElem.mk head.toUInt32 outLen]).map
          fun e => e.id.toUInt16).Perm
      (s.live.inFlight.map Chain.head) := by
  refine List.Perm.trans ?_ inOrder.heads
  rw [List.map_append, List.append_assoc, List.append_assoc]
  apply List.Perm.append_left
  refine List.Perm.trans ?_ ((held_perm holds).append_right _).symm
  simp only [List.map_cons, List.map_nil, UInt16.toUInt16_toUInt32, ← List.append_assoc]
  exact List.perm_append_comm

/-- The device conforms when it completes a chain that it holds. -/
theorem InOrder.completes (inOrder : InOrder queueSize s) {live : LiveQueue} {outLen : UInt32}
    (unread : live.queue.unread = s.live.queue.unread ++ [⟨head.toUInt32, outLen⟩])
    (same : live.inFlight = s.live.inFlight) : Completes live := by
  constructor
  · intro e member
    rw [unread] at member
    rw [same]
    rcases List.mem_append.mp member with old | new
    · exact inOrder.sound.completes.named e old
    · rw [List.mem_singleton.mp new]
      -- the new entry names a chain that the device has held
      have flying : head ∈ s.live.inFlight.map Chain.head := by
        apply inOrder.heads.mem_iff.mp
        simp [(held_perm holds).mem_iff]
      obtain ⟨c, member, same⟩ := List.mem_map.mp flying
      exact ⟨c, member, congrArg UInt16.toUInt32 same.symm⟩
  · -- no head is used twice, as the heads in flight are distinct
    have all := inOrder.nodup
    rw [(inOrder.heads.trans (inOrder.moved holds outLen).symm).nodup_iff] at all
    have heads := (List.nodup_append.mp all).2.1
    have ids : ((live.queue.unread.map VringUsedElem.id).map UInt32.toUInt16).Nodup := by
      rw [List.map_map, unread]
      exact heads
    exact ids.of_map _

end Completed

section Writes

variable (apart : Ring.Apart (· + 1) (· % queueSize) queueSize.toNat)

include apart

theorem addBuf_inOrder (inOrder : InOrder queueSize s) (outPhys : UInt64) (outLen : UInt32)
    (inPhys : UInt64) (inLen : UInt32) (fuel : Nat) :
    StepsInOrder queueSize s
      ((ringMachine fuel).step (.addBuf outPhys outLen inPhys inLen) s) := by
  by_cases full : s.live.queue.numFree < 2
  · simp only [ringMachine, addBuf_full full]
    exact inOrder.idle (Or.inl rfl) (Or.inl rfl) (by simp)
  · let c := s.live.queue.nextChain outPhys outLen inPhys inLen
    let s' : RingState := { s with live := ⟨s.live.queue.added c, s.live.inFlight ++ [c]⟩ }
    have step : (ringMachine fuel).step (.addBuf outPhys outLen inPhys inLen) s =
        (.added c.head.toUInt32.toInt32, s') := by
      simp only [ringMachine, inOrder.sound.addBuf_eq full]
      rfl
    rw [← inOrder.slots] at apart
    -- the two descriptors that are still free leave a slot
    have room : s.posted.length < queueSize.toNat := by
      have bound := inOrder.count
      have count := inOrder.sound.count
      have two : (2 : UInt16).toNat = 2 := rfl
      rw [UInt16.lt_iff_toNat_lt, two] at full
      omega
    have posted : s'.posted = s.posted ++ [c.head] :=
      Ring.pending_push apart room queueSize.toNat_lt c.head
    rw [step]
    constructor
    · constructor
      · exact inOrder.sound.added ⟨rfl, rfl, rfl⟩ full
      · -- the new chain is posted
        change (s'.posted ++ s.held ++ s.live.queue.unread.map _).Perm
          ((s.live.inFlight ++ [c]).map Chain.head)
        rw [posted, List.map_append]
        refine List.Perm.trans ?_ (inOrder.heads.append_right [c.head])
        simp only [List.append_assoc]
        apply List.Perm.append_left
        exact List.perm_append_comm.trans (by simp)
    · have event : availEvent (.added c.head.toUInt32.toInt32) =
          .put c.head.toUInt32.toInt32 := if_neg (head_not_neg c.head)
      have contents : s'.availContents = s.availContents ++ [c.head.toUInt32.toInt32] := by
        simp only [RingState.availContents, posted, List.map_append, List.map_cons, List.map_nil]
      rw [event, contents]
      exact Fifo.Step.put s.availContents c.head.toUInt32.toInt32
    · exact Fifo.Step.silent _
    · exact ⟨Ring.pending_kept apart room c.head, fun _ _ => rfl⟩
    · simp

theorem complete_inOrder (inOrder : InOrder queueSize s) (which : Nat) (outLen : UInt32) :
    StepsInOrder queueSize s (s.complete which outLen) := by
  cases holds : s.held[which]? with
  | none =>
    simp only [RingState.complete, holds]
    exact inOrder.idle (Or.inl rfl) (Or.inl rfl) (by simp)
  | some head =>
    let e : VringUsedElem := ⟨head.toUInt32, outLen⟩
    let vq := s.live.queue
    let s' : RingState := { s with
      live := s.live.writeUsed (vq.usedIdx + 1)
        (Function.update vq.usedRing (vq.slot vq.usedIdx) e)
      held := s.held.eraseIdx which }
    have step : s.complete which outLen = (.published head outLen, s') := by
      simp only [RingState.complete, holds]
      rfl
    rw [← inOrder.slots] at apart
    -- a chain that is held is not in the used ring yet
    have room : s.live.queue.unread.length < queueSize.toNat := by
      have bound := inOrder.count
      have nonempty := (held_perm holds).length_eq
      simp only [List.length_cons] at nonempty
      omega
    have unread : s'.live.queue.unread = s.live.queue.unread ++ [e] :=
      Ring.pending_push apart room queueSize.toNat_lt e
    rw [step]
    constructor
    · constructor
      · exact inOrder.sound.writeUsed (inOrder.completes holds unread rfl)
      · change (s.posted ++ s.held.eraseIdx which ++ s'.live.queue.unread.map _).Perm _
        rw [unread]
        exact inOrder.moved holds outLen
    · exact Fifo.Step.silent _
    · rw [usedEvent, RingState.usedContents, RingState.usedContents, unread, List.map_append]
      exact Fifo.Step.put _ _
    · exact ⟨fun _ _ => rfl, Ring.pending_kept apart room e⟩
    · simp

end Writes

theorem take_inOrder (inOrder : InOrder queueSize s) : StepsInOrder queueSize s s.take := by
  by_cases none : s.seenIdx = s.live.queue.availIdx
  · simp only [RingState.take, if_pos none]
    exact inOrder.idle (Or.inr ⟨rfl, Ring.pending_eq_nil.mpr none⟩) (Or.inl rfl) (by simp)
  · let head := s.live.queue.availRing (s.live.queue.slot s.seenIdx)
    let s' : RingState := { s with seenIdx := s.seenIdx + 1, held := s.held ++ [head] }
    have step : s.take = (.taken head, s') := by
      simp only [RingState.take, if_neg none]
      rfl
    have posted : s.posted = head :: s'.posted := Ring.pending_cons none
    rw [step]
    constructor
    · constructor
      · exact inOrder.sound
      · -- the head moves from the posted ones to the held ones
        have heads := inOrder.heads
        rw [posted] at heads
        refine List.Perm.trans ?_ heads
        change (s'.posted ++ (s.held ++ [head]) ++ _).Perm _
        apply List.Perm.append_right
        rw [← List.append_assoc]
        exact List.perm_append_singleton head _
    · rw [RingState.availContents, posted]
      exact Fifo.Step.get _ _
    · exact Fifo.Step.silent _
    · exact ⟨fun _ _ => rfl, fun _ _ => rfl⟩
    · simp

theorem getBuf_inOrder (inOrder : InOrder queueSize s) (fuel : Nat) :
    StepsInOrder queueSize s ((ringMachine (fuel + 2)).step .getBuf s) := by
  cases unread : s.live.queue.unread with
  | nil =>
    have got := getBuf_nil unread (fuel + 2) 0
    simp only [ringMachine, got]
    exact inOrder.idle (Or.inl rfl) (Or.inr ⟨rfl, unread⟩) (by simp)
  | cons e rest =>
    obtain ⟨c, member, names⟩ := inOrder.sound.completes.named e (unread ▸ List.mem_cons_self)
    let left := s.live.inFlight.filter fun d =>
      d.head.toUInt32.toInt32 ≠ c.head.toUInt32.toInt32
    let s' : RingState := { s with live := ⟨s.live.queue.returned c, left⟩ }
    have step : (ringMachine (fuel + 2)).step .getBuf s =
        (.got c.head.toUInt32.toInt32 e.len, s') := by
      simp only [ringMachine, inOrder.sound.getBuf_eq unread member names fuel 0]
      rfl
    have later : s'.live.queue.unread = rest :=
      (Virtqueue.getBuf_eq unread names (inOrder.sound.holds c member)
        (inOrder.sound.tail_ne_head member) 0 0).2
    -- a head is never the -1 of an empty ring
    have notEmpty : c.head.toUInt32.toInt32 ≠ -1 := by
      intro same
      exact head_not_neg c.head (same ▸ by decide)
    rw [step]
    constructor
    · constructor
      · exact inOrder.sound.returned unread member names
      · -- both sides lose the chain that is returned
        have flying : (s.live.inFlight.map Chain.head).Perm (c.head :: left.map Chain.head) :=
          (perm_cons_filter (fun d : Chain => d.head.toUInt32.toInt32) member
            inOrder.sound.heads_nodup).map Chain.head
        have heads := inOrder.heads.trans flying
        rw [unread, List.map_cons, names, UInt16.toUInt16_toUInt32] at heads
        change (s.posted ++ s.held ++ s'.live.queue.unread.map _).Perm (left.map Chain.head)
        rw [later]
        exact (List.perm_middle.symm.trans heads).cons_inv
    · exact Fifo.Step.silent _
    · rw [usedEvent, if_neg notEmpty, RingState.usedContents, RingState.usedContents, unread,
        later, List.map_cons, names]
      exact Fifo.Step.get _ _
    · exact ⟨fun _ _ => rfl, fun _ _ => rfl⟩
    · simp

end Invariant

end Virtio9p
