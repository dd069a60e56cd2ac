import Mathlib.Algebra.Group.Nat.Defs
import Mathlib.Data.List.Basic

/-!
# Memory

A memory has a cell at every address of 64 bits. What is stored in a row of cells is loaded
from there again.
-/

abbrev Memory (α : Type*) := UInt64 → α

namespace Memory

variable {α : Type*}

def load (m : Memory α) (addr : UInt64) (n : Nat) : List α :=
  (List.range n).map fun i => m (addr + UInt64.ofNat i)

def store (m : Memory α) (addr : UInt64) (cells : List α) : Memory α :=
  fun a => cells[(a - addr).toNat]?.getD (m a)

@[simp] theorem load_length (m : Memory α) (addr : UInt64) (n : Nat) :
    (m.load addr n).length = n := by
  rw [load, List.length_map, List.length_range]

/-- The row must not run into itself. -/
theorem load_store (m : Memory α) (addr : UInt64) {cells : List α}
    (short : cells.length ≤ 2 ^ 64) : (m.store addr cells).load addr cells.length = cells := by
  apply List.ext_getElem (load_length _ _ _)
  intro i inside inside'
  have distance : (addr + UInt64.ofNat i - addr).toNat = i := by
    have cancels : addr + UInt64.ofNat i - addr = UInt64.ofNat i := by
      rw [UInt64.add_comm, UInt64.add_sub_cancel]
    rw [cancels, UInt64.toNat_ofNat']
    exact Nat.mod_eq_of_lt (Nat.lt_of_lt_of_le inside' short)
  simp only [load, List.getElem_map, List.getElem_range, store, distance]
  rw [List.getElem?_eq_getElem inside', Option.getD_some]

end Memory
