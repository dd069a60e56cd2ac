import Virtio9p.Protocol.Types

/-!
# FidPool

Hands out fids in increasing order. `Reset` empties the pool and starts the
numbering again.
-/
namespace Virtio9p

structure FidPool where
  allocated : Finset UInt32
  nextFid : UInt32
  /-- Ghost: how often `Allocate` was called, over all resets. -/
  allocations : Nat

namespace FidPool

def new : FidPool := ⟨∅, 0, 0⟩

def allocate (p : FidPool) : UInt32 × FidPool :=
  (p.nextFid, ⟨insert p.nextFid p.allocated, p.nextFid + 1, p.allocations + 1⟩)

def release (p : FidPool) (fid : UInt32) : FidPool := { p with allocated := p.allocated.erase fid }

def isAllocated (p : FidPool) (fid : UInt32) : Bool := decide (fid ∈ p.allocated)

def reset (p : FidPool) : FidPool := { p with allocated := ∅, nextFid := 0 }

@[simp] theorem isAllocated_iff (p : FidPool) (fid : UInt32) :
    p.isAllocated fid = true ↔ fid ∈ p.allocated := by simp [isAllocated]

/-- Every fid in the pool was handed out since the last reset. -/
def Below (p : FidPool) : Prop := ∀ fid ∈ p.allocated, fid.toNat < p.nextFid.toNat

/-- The numbering never runs ahead of the number of allocations. -/
def Counted (p : FidPool) : Prop := p.nextFid.toNat ≤ p.allocations

variable {p : FidPool}

/-- Two numbers in a row differ, even if the second one wraps. -/
theorem nextFid_moves (p : FidPool) : p.allocate.2.nextFid ≠ p.nextFid := by
  intro same
  have one : (1 : UInt32).toNat = 1 := rfl
  have wrapped : (p.nextFid + 1).toNat = p.nextFid.toNat := congrArg UInt32.toNat same
  rw [UInt32.toNat_add, one] at wrapped
  have bound := UInt32.toNat_lt p.nextFid
  omega

/-- As long as fewer than `2 ^ 32` fids were allocated, the next number does not wrap. -/
theorem nextFid_succ (counted : p.Counted) (few : p.allocations + 1 < 2 ^ 32) :
    (p.nextFid + 1).toNat = p.nextFid.toNat + 1 := by
  have bound : p.nextFid.toNat ≤ p.allocations := counted
  have one : (1 : UInt32).toNat = 1 := rfl
  rw [UInt32.toNat_add, one]
  omega

theorem Counted.allocate (counted : p.Counted) (few : p.allocations + 1 < 2 ^ 32) :
    p.allocate.2.Counted := by
  have bound : p.nextFid.toNat ≤ p.allocations := counted
  have next := nextFid_succ counted few
  change (p.nextFid + 1).toNat ≤ p.allocations + 1
  omega

theorem Below.fresh (below : p.Below) : p.nextFid ∉ p.allocated := by
  intro member
  exact Nat.lt_irrefl _ (below p.nextFid member)

theorem Below.allocate (below : p.Below) (counted : p.Counted)
    (few : p.allocations + 1 < 2 ^ 32) : p.allocate.2.Below := by
  have next := nextFid_succ counted few
  intro fid member
  change fid.toNat < (p.nextFid + 1).toNat
  rcases Finset.mem_insert.mp member with rfl | old
  · omega
  · have bound := below fid old
    omega

theorem Below.release (below : p.Below) (fid : UInt32) : (p.release fid).Below := by
  intro other member
  exact below other (Finset.mem_of_mem_erase member)

/-- The pool hands out every number once. -/
def Ordered (p : FidPool) : Prop := p.allocations < 2 ^ 32 → p.Below ∧ p.Counted

theorem Ordered.new : FidPool.new.Ordered := fun _ => ⟨by rintro fid ⟨⟩, Nat.le_refl 0⟩

theorem Ordered.reset (p : FidPool) : p.reset.Ordered :=
  fun _ => ⟨fun fid member => absurd member (Finset.notMem_empty fid), Nat.zero_le _⟩

theorem Ordered.allocate (ordered : p.Ordered) : p.allocate.2.Ordered := by
  intro few
  obtain ⟨below, counted⟩ := ordered (Nat.lt_of_succ_lt few)
  exact ⟨below.allocate counted few, counted.allocate few⟩

theorem Ordered.release (ordered : p.Ordered) (fid : UInt32) : (p.release fid).Ordered :=
  fun few => ⟨(ordered few).1.release fid, (ordered few).2⟩

end FidPool

end Virtio9p
