import Mathlib.Logic.Function.Basic
import Virtio9p.Foundation.Ring
import Virtio9p.Protocol.Types

/-!
# Virtqueue

A split virtqueue: the descriptor table, the available ring that the driver writes and the
used ring that the device writes. Free descriptors are threaded through their `next` fields.
-/
namespace Virtio9p

def enospc : Int32 := 28
def enomem : Int32 := 12

def vringDescFlagNext : UInt16 := 1
def vringDescFlagWrite : UInt16 := 2

structure VringDesc where
  addr : UInt64
  len : UInt32
  flags : UInt16
  next : UInt16
  deriving DecidableEq, Repr

structure VringUsedElem where
  id : UInt32
  len : UInt32
  deriving DecidableEq, Repr

/-- The queue and its ring memory. The device reads `desc`, `availIdx` and `availRing` and
writes `usedIdx` and `usedRing`. -/
structure Virtqueue where
  queueSize : UInt16
  /-- The ring memory is allocated. -/
  mapped : Bool
  freeHead : UInt16
  numFree : UInt16
  lastUsedIdx : UInt16
  descPhys : UInt64
  availPhys : UInt64
  usedPhys : UInt64
  desc : UInt16 → VringDesc
  availIdx : UInt16
  availRing : UInt16 → UInt16
  usedIdx : UInt16
  usedRing : UInt16 → VringUsedElem

namespace Virtqueue

/-- The ring slot of an index. -/
def slot (vq : Virtqueue) (idx : UInt16) : UInt16 := idx % vq.queueSize

def setDesc (vq : Virtqueue) (idx : UInt16) (d : VringDesc) : Virtqueue :=
  { vq with desc := Function.update vq.desc idx d }

/-- The constructor. -/
def new (queueSize : UInt16) : Virtqueue where
  queueSize := queueSize
  mapped := false
  freeHead := 0
  numFree := queueSize
  lastUsedIdx := 0
  descPhys := 0
  availPhys := 0
  usedPhys := 0
  desc := fun _ => ⟨0, 0, 0, 0⟩
  availIdx := 0
  availRing := fun _ => 0
  usedIdx := 0
  usedRing := fun _ => ⟨0, 0⟩

/-- Every descriptor points to the one behind it; the last one points out of the table. -/
def initDescChain (vq : Virtqueue) : Virtqueue :=
  { vq with
    desc := fun i => if i < vq.queueSize then { vq.desc i with next := i + 1 } else vq.desc i
    freeHead := 0
    numFree := vq.queueSize
    lastUsedIdx := 0 }

def fillDesc (vq : Virtqueue) (idx : UInt16) (addr : UInt64) (len : UInt32) (flags : UInt16) :
    Virtqueue :=
  vq.setDesc idx { vq.desc idx with addr := addr, len := len, flags := flags }

def linkDesc (vq : Virtqueue) (idx next : UInt16) : Virtqueue :=
  vq.setDesc idx { vq.desc idx with next := next }

/-- The free list goes on behind `idx`. -/
def popFree (vq : Virtqueue) (idx : UInt16) : Virtqueue :=
  { vq with freeHead := (vq.desc idx).next, numFree := vq.numFree - 1 }

/-- Publish the head of a chain in the available ring. -/
def pushAvail (vq : Virtqueue) (head : UInt16) : Virtqueue :=
  { vq with
    availRing := Function.update vq.availRing (vq.slot vq.availIdx) head
    availIdx := vq.availIdx + 1 }

/-- `AddBuf` returns the head of the new chain. -/
def addBuf (outPhys : UInt64) (outLen : UInt32) (inPhys : UInt64) (inLen : UInt32)
    (vq : Virtqueue) : Int32 × Virtqueue :=
  -- one descriptor for the request, one for the response
  if vq.numFree < 2 then (-enospc, vq)
  else
    let head := vq.freeHead
    -- first descriptor: device-readable
    let vq := (vq.fillDesc head outPhys outLen vringDescFlagNext).popFree head
    let idx := vq.freeHead
    -- second descriptor: device-writable, and the first one links to it
    let vq := ((vq.fillDesc idx inPhys inLen vringDescFlagWrite).linkDesc head idx).popFree idx
    (head.toUInt32.toInt32, vq.pushAvail head)

/-- Put one descriptor in front of the free list. -/
def freeDesc (vq : Virtqueue) (i : UInt16) : Virtqueue :=
  let vq := vq.linkDesc i vq.freeHead
  { vq with freeHead := i, numFree := vq.numFree + 1 }

/-- Return the chain from `i` on to the free list; `none` if it has more than `fuel`
descriptors. -/
def freeChain : Nat → UInt16 → Virtqueue → Option Virtqueue
  | 0, _, _ => none
  | fuel + 1, i, vq =>
    -- flags and link are read before `freeDesc` overwrites the link
    let hasNext := (vq.desc i).flags &&& vringDescFlagNext ≠ 0
    let next := (vq.desc i).next
    let vq := vq.freeDesc i
    if hasNext then freeChain fuel next vq else some vq

/-- `GetBuf` returns the head of a chain that the device has used, and stores the length in
`out_len`; `none` if it has not returned after `fuel` descriptors. -/
def getBuf (fuel : Nat) (outLen : UInt32) (vq : Virtqueue) :
    Option ((Int32 × UInt32) × Virtqueue) :=
  if vq.lastUsedIdx = vq.usedIdx then some ((-1, outLen), vq)
  else
    let elem := vq.usedRing (vq.slot vq.lastUsedIdx)
    (vq.freeChain fuel elem.id.toUInt16).map fun vq =>
      ((elem.id.toInt32, elem.len), { vq with lastUsedIdx := vq.lastUsedIdx + 1 })

end Virtqueue

end Virtio9p
