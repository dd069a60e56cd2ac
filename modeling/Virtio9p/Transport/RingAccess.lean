import Virtio9p.Foundation.Extent
import Virtio9p.Transport.Setup

/-!
# The memory of a legacy queue

Where `InitializeLegacy` puts the three parts of a queue in its block, and which bytes of them
`AddBuf` and `GetBuf` read and write.
-/
namespace Virtio9p

/-! ### The layout -/

/-- The sizes and offsets that `InitializeLegacy` computes. -/
structure LegacyLayout where
  descSize : UInt64
  availSize : UInt64
  usedOffset : UInt64
  usedSize : UInt64
  /-- `base_alloc_size_` -/
  allocSize : UInt64
  deriving DecidableEq, Repr

def legacyLayout (queueSize : UInt16) (align : UInt32) : LegacyLayout :=
  let descSize := queueSize.toUInt64 * 16
  let availSize := 4 + queueSize.toUInt64 * 2 + 2
  let usedOffset := alignUp (descSize + availSize) align.toUInt64
  let usedSize := 4 + queueSize.toUInt64 * 8 + 2
  ⟨descSize, availSize, usedOffset, usedSize, usedOffset + usedSize⟩

inductive RingPart where
  | desc
  | avail
  | used
  deriving DecidableEq, Repr

namespace LegacyLayout

/-- The block that is allocated. -/
def block (l : LegacyLayout) : Extent := ⟨0, l.allocSize.toNat⟩

/-- A part of the queue in the block. -/
def part (l : LegacyLayout) : RingPart → Extent
  | .desc => ⟨0, l.descSize.toNat⟩
  | .avail => ⟨l.descSize.toNat, l.availSize.toNat⟩
  | .used => ⟨l.usedOffset.toNat, l.usedSize.toNat⟩

end LegacyLayout

/-! ### Accesses -/

/-- The fields of a `VringDesc`. -/
inductive DescField where
  | addr
  | len
  | flags
  | next
  deriving DecidableEq, Repr

def DescField.extent : DescField → Extent
  | .addr => ⟨0, 8⟩
  | .len => ⟨8, 4⟩
  | .flags => ⟨12, 2⟩
  | .next => ⟨14, 2⟩

inductive RingAccess where
  /-- `desc_virt_[idx].field` -/
  | desc (idx : UInt16) (field : DescField)
  /-- `avail_virt_[cell]` -/
  | avail (cell : UInt32)
  /-- `used_virt_ + offset` -/
  | used (offset : UInt64) (width : Nat)
  deriving DecidableEq, Repr

namespace RingAccess

def part : RingAccess → RingPart
  | .desc .. => .desc
  | .avail .. => .avail
  | .used .. => .used

/-- The bytes, from the pointer to the part on. -/
def extent : RingAccess → Extent
  | .desc idx field => field.extent.shift (16 * idx.toNat)
  | .avail cell => ⟨2 * cell.toNat, 2⟩
  | .used offset width => ⟨offset.toNat, width⟩

/-- The descriptor of the access, if it is one to the table, is in the queue. -/
def Proper (queueSize : UInt16) : RingAccess → Prop
  | .desc idx _ => idx < queueSize
  | _ => True

end RingAccess

/-- A queue with the accesses that were made to its memory. -/
structure LoggedQueue where
  vq : Virtqueue
  log : List RingAccess

namespace LoggedQueue

def access (accesses : List RingAccess) (l : LoggedQueue) : LoggedQueue :=
  { l with log := l.log ++ accesses }

def on (f : Virtqueue → Virtqueue) (l : LoggedQueue) : LoggedQueue := { l with vq := f l.vq }

def fillDesc (idx : UInt16) (addr : UInt64) (len : UInt32) (flags : UInt16) (l : LoggedQueue) :
    LoggedQueue :=
  (l.access [.desc idx .addr, .desc idx .len, .desc idx .flags]).on
    (·.fillDesc idx addr len flags)

def linkDesc (idx next : UInt16) (l : LoggedQueue) : LoggedQueue :=
  (l.access [.desc idx .next]).on (·.linkDesc idx next)

def popFree (idx : UInt16) (l : LoggedQueue) : LoggedQueue :=
  (l.access [.desc idx .next]).on (·.popFree idx)

def pushAvail (head : UInt16) (l : LoggedQueue) : LoggedQueue :=
  (l.access [.avail 1, .avail (2 + (l.vq.slot l.vq.availIdx).toUInt32), .avail 1]).on
    (·.pushAvail head)

/-- `AddBuf` -/
def addBuf (outPhys : UInt64) (outLen : UInt32) (inPhys : UInt64) (inLen : UInt32)
    (l : LoggedQueue) : Int32 × LoggedQueue :=
  if l.vq.numFree < 2 then (-enospc, l)
  else
    let head := l.vq.freeHead
    let l := (l.fillDesc head outPhys outLen vringDescFlagNext).popFree head
    let idx := l.vq.freeHead
    let l := ((l.fillDesc idx inPhys inLen vringDescFlagWrite).linkDesc head idx).popFree idx
    (head.toUInt32.toInt32, l.pushAvail head)

/-- The chain from `i` on goes back to the free list; `false` if it has more than `fuel`
descriptors. -/
def freeChain : Nat → UInt16 → LoggedQueue → Bool × LoggedQueue
  | 0, _, l => (false, l)
  | fuel + 1, i, l =>
    let hasNext := (l.vq.desc i).flags &&& vringDescFlagNext ≠ 0
    let next := (l.vq.desc i).next
    let l := (l.access [.desc i .flags, .desc i .next, .desc i .next]).on (·.freeDesc i)
    if hasNext then freeChain fuel next l else (true, l)

/-- `elem_offset` -/
def elemOffset (vq : Virtqueue) : UInt64 := 4 + (vq.slot vq.lastUsedIdx).toUInt64 * 8

/-- `GetBuf` -/
def getBuf (fuel : Nat) (outLen : UInt32) (l : LoggedQueue) :
    Option (Int32 × UInt32) × LoggedQueue :=
  let l := l.access [.used 2 2]
  if l.vq.lastUsedIdx = l.vq.usedIdx then (some (-1, outLen), l)
  else
    let elem := l.vq.usedRing (l.vq.slot l.vq.lastUsedIdx)
    -- the length, and the id twice
    let l := l.access [.used (elemOffset l.vq + 4) 4, .used (elemOffset l.vq) 4,
      .used (elemOffset l.vq) 4]
    let freed := l.freeChain fuel elem.id.toUInt16
    if freed.1 then
      (some (elem.id.toInt32, elem.len),
        freed.2.on fun vq => { vq with lastUsedIdx := vq.lastUsedIdx + 1 })
    else (none, freed.2)

/-! ### Logging changes nothing -/

theorem addBuf_vq (outPhys : UInt64) (outLen : UInt32) (inPhys : UInt64) (inLen : UInt32)
    (l : LoggedQueue) :
    let logged := l.addBuf outPhys outLen inPhys inLen
    l.vq.addBuf outPhys outLen inPhys inLen = (logged.1, logged.2.vq) := by
  by_cases full : l.vq.numFree < 2
  · rw [Virtqueue.addBuf, if_pos full, addBuf, if_pos full]
  · rw [Virtqueue.addBuf, if_neg full, addBuf, if_neg full]
    rfl

theorem freeChain_vq (fuel : Nat) (i : UInt16) (l : LoggedQueue) :
    l.vq.freeChain fuel i = if (l.freeChain fuel i).1 then
      some (l.freeChain fuel i).2.vq else none := by
  induction fuel generalizing i l with
  | zero => rfl
  | succ fuel ih =>
    let l' := (l.access [.desc i .flags, .desc i .next, .desc i .next]).on (·.freeDesc i)
    by_cases hasNext : (l.vq.desc i).flags &&& vringDescFlagNext ≠ 0
    · have plain : l.vq.freeChain (fuel + 1) i = l'.vq.freeChain fuel (l.vq.desc i).next :=
        if_pos hasNext
      have logged : l.freeChain (fuel + 1) i = l'.freeChain fuel (l.vq.desc i).next :=
        if_pos hasNext
      rw [plain, logged, ih]
    · have plain : l.vq.freeChain (fuel + 1) i = some l'.vq := if_neg hasNext
      have logged : l.freeChain (fuel + 1) i = (true, l') := if_neg hasNext
      rw [plain, logged]
      rfl

theorem getBuf_vq (fuel : Nat) (outLen : UInt32) (l : LoggedQueue) :
    let logged := l.getBuf fuel outLen
    l.vq.getBuf fuel outLen = logged.1.map fun reply => (reply, logged.2.vq) := by
  by_cases same : l.vq.lastUsedIdx = l.vq.usedIdx
  · have plain : l.vq.getBuf fuel outLen = some ((-1, outLen), l.vq) := if_pos same
    have logged : l.getBuf fuel outLen = (some (-1, outLen), l.access [.used 2 2]) := if_pos same
    rw [plain, logged]
    rfl
  · let elem := l.vq.usedRing (l.vq.slot l.vq.lastUsedIdx)
    let l' := (l.access [.used 2 2]).access [.used (elemOffset l.vq + 4) 4,
      .used (elemOffset l.vq) 4, .used (elemOffset l.vq) 4]
    let freed := l'.freeChain fuel elem.id.toUInt16
    have plain : l.vq.getBuf fuel outLen = (l'.vq.freeChain fuel elem.id.toUInt16).map fun vq =>
        ((elem.id.toInt32, elem.len), { vq with lastUsedIdx := vq.lastUsedIdx + 1 }) :=
      if_neg same
    have logged : l.getBuf fuel outLen = if freed.1 then
          (some (elem.id.toInt32, elem.len),
            freed.2.on fun vq => { vq with lastUsedIdx := vq.lastUsedIdx + 1 })
        else (none, freed.2) :=
      if_neg same
    rw [plain, logged, freeChain_vq]
    change (if freed.1 then some freed.2.vq else none).map _ = _
    cases freed.1 <;> rfl

end LoggedQueue

end Virtio9p
