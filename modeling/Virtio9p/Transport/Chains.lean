import Virtio9p.Foundation.Linked
import Virtio9p.Foundation.Machine
import Virtio9p.Transport.Virtqueue

/-!
# Chains in flight

A live queue is a virtqueue together with the chains that `AddBuf` made and `GetBuf` has
not returned yet. Driver and device act on it in any order.
-/
namespace Virtio9p

/-- A request and a response buffer, and the descriptors they are in. `link` is what the
`next` field of the second one held when the chain was made. -/
structure Chain where
  head : UInt16
  tail : UInt16
  outPhys : UInt64
  outLen : UInt32
  inPhys : UInt64
  inLen : UInt32
  link : UInt16
  deriving DecidableEq, Repr

namespace Chain

/-- Device-readable. -/
def request (c : Chain) : VringDesc := ⟨c.outPhys, c.outLen, vringDescFlagNext, c.tail⟩

/-- Device-writable. -/
def response (c : Chain) : VringDesc := ⟨c.inPhys, c.inLen, vringDescFlagWrite, c.link⟩

def descs (c : Chain) : List UInt16 := [c.head, c.tail]

end Chain

namespace Virtqueue

def next (vq : Virtqueue) (i : UInt16) : UInt16 := (vq.desc i).next

/-- The `num_free_` descriptors reached from `free_head_`. -/
def freeList (vq : Virtqueue) : List UInt16 := List.iterate vq.next vq.freeHead vq.numFree.toNat

/-- The used elements that `GetBuf` has not read yet. -/
def unread (vq : Virtqueue) : List VringUsedElem :=
  Ring.pending vq.slot vq.usedRing vq.lastUsedIdx vq.usedIdx

/-- The chain that the next `AddBuf` makes. -/
def nextChain (outPhys : UInt64) (outLen : UInt32) (inPhys : UInt64) (inLen : UInt32)
    (vq : Virtqueue) : Chain where
  head := vq.freeHead
  tail := vq.next vq.freeHead
  outPhys := outPhys
  outLen := outLen
  inPhys := inPhys
  inLen := inLen
  link := vq.next (vq.next vq.freeHead)

/-- The first two free descriptors are those of `c`. -/
structure Next (vq : Virtqueue) (c : Chain) : Prop where
  head : c.head = vq.freeHead
  tail : c.tail = vq.next vq.freeHead
  link : c.link = vq.next c.tail

@[simp] theorem freeList_length (vq : Virtqueue) : vq.freeList.length = vq.numFree.toNat := by
  simp [freeList]

/-- The queue after `AddBuf` took the descriptors of a chain. -/
def added (vq : Virtqueue) (c : Chain) : Virtqueue :=
  { vq with
    desc := Function.update (Function.update vq.desc c.tail c.response) c.head c.request
    freeHead := c.link
    numFree := vq.numFree - 1 - 1
    availRing := Function.update vq.availRing (vq.slot vq.availIdx) c.head
    availIdx := vq.availIdx + 1 }

/-! ### What the operations do -/

variable {vq : Virtqueue} {outPhys inPhys : UInt64} {outLen inLen : UInt32}

theorem addBuf_full (full : vq.numFree < 2) :
    vq.addBuf outPhys outLen inPhys inLen = (-enospc, vq) := by
  rw [addBuf, if_pos full]

/-- `AddBuf` takes the first two free descriptors. -/
theorem addBuf_eq (room : ¬ vq.numFree < 2) (apart : vq.next vq.freeHead ≠ vq.freeHead) :
    let c := vq.nextChain outPhys outLen inPhys inLen
    vq.addBuf outPhys outLen inPhys inLen = (c.head.toUInt32.toInt32, vq.added c) := by
  intro c
  let filled : Virtqueue := { vq with
    desc := Function.update vq.desc c.head c.request
    freeHead := c.tail
    numFree := vq.numFree - 1 }
  have first :
      (vq.fillDesc vq.freeHead outPhys outLen vringDescFlagNext).popFree vq.freeHead = filled := by
    simp [fillDesc, popFree, setDesc, filled, c, nextChain, Chain.request, next]
  have second : ((filled.fillDesc c.tail inPhys inLen vringDescFlagWrite).linkDesc c.head
      c.tail).popFree c.tail =
      { filled with
        desc := Function.update (Function.update vq.desc c.tail c.response) c.head c.request
        freeHead := c.link
        numFree := vq.numFree - 1 - 1 } := by
    have apart' : c.head ≠ c.tail := apart.symm
    have response : { filled.desc c.tail with
        addr := inPhys, len := inLen, flags := vringDescFlagWrite } = c.response := by
      simp only [filled, Function.update_of_ne apart'.symm]
      rfl
    simp only [fillDesc, linkDesc, popFree, setDesc, response, Function.update_of_ne apart',
      Function.update_of_ne apart'.symm, Function.update_self]
    simp only [filled, Function.update_self, Function.update_comm apart', Function.update_idem]
    rfl
  rw [addBuf, if_neg room]
  simp only [first]
  exact congrArg (fun vq => (c.head.toUInt32.toInt32, pushAvail vq c.head)) second

/-- A chain in the descriptor table. -/
def Holds (vq : Virtqueue) (c : Chain) : Prop :=
  vq.desc c.head = c.request ∧ vq.desc c.tail = c.response

/-- The queue after the chain went back to the free list. -/
def freed (vq : Virtqueue) (c : Chain) : Virtqueue :=
  { vq with
    desc := Function.update
      (Function.update vq.desc c.head { c.request with next := vq.freeHead })
      c.tail { c.response with next := c.head }
    freeHead := c.tail
    numFree := vq.numFree + 1 + 1 }

theorem freeChain_eq {c : Chain} (holds : vq.Holds c) (apart : c.tail ≠ c.head) (fuel : Nat) :
    vq.freeChain (fuel + 2) c.head = some (vq.freed c) := by
  obtain ⟨request, response⟩ := holds
  have first : vq.freeDesc c.head =
      { vq with
        desc := Function.update vq.desc c.head { c.request with next := vq.freeHead }
        freeHead := c.head
        numFree := vq.numFree + 1 } := by
    simp [freeDesc, linkDesc, setDesc, request]
  have untouched : (vq.freeDesc c.head).desc c.tail = c.response := by
    rw [first, ← response]
    exact Function.update_of_ne apart _ _
  have second : (vq.freeDesc c.head).freeDesc c.tail = vq.freed c := by
    rw [freeDesc, linkDesc, untouched, first]
    rfl
  -- the request has the NEXT flag and links to the response, which has not
  have more : (vq.desc c.head).flags &&& vringDescFlagNext ≠ 0 := by
    rw [request]
    exact (by decide : vringDescFlagNext &&& vringDescFlagNext ≠ 0)
  have last : ¬ ((vq.freeDesc c.head).desc c.tail).flags &&& vringDescFlagNext ≠ 0 := by
    rw [untouched]
    exact (by decide : ¬ vringDescFlagWrite &&& vringDescFlagNext ≠ 0)
  have link : (vq.desc c.head).next = c.tail := by rw [request]; rfl
  rw [freeChain]
  simp only [if_pos more, link]
  rw [freeChain]
  simp only [if_neg last, second]

/-- The queue after `GetBuf` returned the chain. -/
def returned (vq : Virtqueue) (c : Chain) : Virtqueue :=
  { vq.freed c with lastUsedIdx := vq.lastUsedIdx + 1 }

/-! ### Used elements -/

theorem getBuf_empty (empty : vq.unread = []) (fuel : Nat) (outLen : UInt32) :
    vq.getBuf fuel outLen = some ((-1, outLen), vq) := by
  rw [getBuf, if_pos (Ring.pending_eq_nil.mp empty)]

theorem getBuf_eq {c : Chain} {elem : VringUsedElem} {rest : List VringUsedElem}
    (first : vq.unread = elem :: rest) (names : elem.id = c.head.toUInt32) (holds : vq.Holds c)
    (apart : c.tail ≠ c.head) (fuel : Nat) (outLen : UInt32) :
    vq.getBuf (fuel + 2) outLen = some ((c.head.toUInt32.toInt32, elem.len), vq.returned c) ∧
      (vq.returned c).unread = rest := by
  have some : vq.lastUsedIdx ≠ vq.usedIdx := fun same => by
    rw [unread, Ring.pending_eq_nil.mpr same] at first
    cases first
  rw [unread, Ring.pending_cons some] at first
  obtain ⟨read, later⟩ := List.cons.inj first
  have freed : vq.freeChain (fuel + 2) elem.id.toUInt16 = Option.some (vq.freed c) := by
    rw [names, UInt16.toUInt16_toUInt32]
    exact freeChain_eq holds apart fuel
  constructor
  · rw [getBuf, if_neg some, read]
    simp only [freed, Option.map_some]
    rw [names]
    rfl
  · exact later

end Virtqueue

/-! ### Live queues -/

structure LiveQueue where
  queue : Virtqueue
  inFlight : List Chain

/-- What happens to a live queue: a call of the driver, or any write of the device to the
used ring. -/
inductive QueueInput where
  | addBuf (outPhys : UInt64) (outLen : UInt32) (inPhys : UInt64) (inLen : UInt32)
  | getBuf
  | device (usedIdx : UInt16) (usedRing : UInt16 → VringUsedElem)

inductive QueueReply where
  | added (rc : Int32)
  | got (rc : Int32) (outLen : UInt32)
  | used
  /-- `GetBuf` does not return. -/
  | stuck
  deriving DecidableEq, Repr

namespace LiveQueue

/-- A queue of the given size after `Initialize`. -/
def start (queueSize : UInt16) : LiveQueue := ⟨(Virtqueue.new queueSize).initDescChain, []⟩

def addBuf (outPhys : UInt64) (outLen : UInt32) (inPhys : UInt64) (inLen : UInt32)
    (s : LiveQueue) : Int32 × LiveQueue :=
  let added := s.queue.addBuf outPhys outLen inPhys inLen
  if added.1 < 0 then (added.1, { s with queue := added.2 })
  else (added.1, ⟨added.2, s.inFlight ++ [s.queue.nextChain outPhys outLen inPhys inLen]⟩)

def getBuf (fuel : Nat) (outLen : UInt32) (s : LiveQueue) :
    Option ((Int32 × UInt32) × LiveQueue) :=
  (s.queue.getBuf fuel outLen).map fun got =>
    (got.1, ⟨got.2, s.inFlight.filter fun c => c.head.toUInt32.toInt32 ≠ got.1.1⟩)

def writeUsed (usedIdx : UInt16) (usedRing : UInt16 → VringUsedElem) (s : LiveQueue) : LiveQueue :=
  { s with queue := { s.queue with usedIdx := usedIdx, usedRing := usedRing } }

end LiveQueue

/-- Driver and device on one queue. -/
def liveQueue (fuel : Nat) : Machine QueueInput QueueReply LiveQueue where
  step
    | .addBuf outPhys outLen inPhys inLen, s =>
      let added := s.addBuf outPhys outLen inPhys inLen
      (.added added.1, added.2)
    | .getBuf, s =>
      match s.getBuf fuel 0 with
      | none => (.stuck, s)
      | some got => (.got got.1.1 got.1.2, got.2)
    | .device usedIdx usedRing, s => (.used, s.writeUsed usedIdx usedRing)

end Virtio9p
