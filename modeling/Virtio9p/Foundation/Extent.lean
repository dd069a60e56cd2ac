import Mathlib.Data.Nat.Bitwise
import Mathlib.Data.Set.Lattice
import Mathlib.Order.Bounds.Basic
import Mathlib.Order.CompletePartialOrder

/-!
# Extents

Runs of bytes in a block of memory: when one lies in another, when two are apart, and the
least aligned offset at which the next one may start.
-/

structure Extent where
  start : Nat
  length : Nat
  deriving DecidableEq, Repr

namespace Extent

def stop (a : Extent) : Nat := a.start + a.length

/-- The offsets of the bytes. -/
def bytes (a : Extent) : Set Nat := Set.Ico a.start a.stop

def Within (a b : Extent) : Prop := b.start ≤ a.start ∧ a.stop ≤ b.stop

instance (a b : Extent) : Decidable (a.Within b) := inferInstanceAs (Decidable (_ ∧ _))

/-- The same bytes seen from an offset before them. -/
def shift (n : Nat) (a : Extent) : Extent := ⟨n + a.start, a.length⟩

variable {a b : Extent}

/-- Bytes that end before an extent does lie within it when they are moved to its start. -/
theorem shift_within {n : Nat} (high : a.stop ≤ b.length) (same : b.start = n) :
    (a.shift n).Within b := by
  simp only [stop] at high
  constructor <;> simp only [Extent.shift, stop] <;> omega

theorem disjoint_of_le (le : a.stop ≤ b.start) : Disjoint a.bytes b.bytes := by
  rw [bytes, bytes, Set.disjoint_left]
  rintro n ⟨-, inFirst⟩ ⟨inSecond, -⟩
  exact absurd (inFirst.trans_le le) (Nat.not_lt.mpr inSecond)

/-! ### Aligned offsets -/

/-- The first multiple of `alignment` from `n` on. -/
def alignedUp (n alignment : Nat) : Nat := (n + alignment - 1) / alignment * alignment

theorem alignedUp_isLeast (n : Nat) {alignment : Nat} (positive : 0 < alignment) :
    IsLeast {m | alignment ∣ m ∧ n ≤ m} (alignedUp n alignment) := by
  constructor
  · refine ⟨Nat.dvd_mul_left .., ?_⟩
    have split := Nat.div_add_mod' (n + alignment - 1) alignment
    have rest := Nat.mod_lt (n + alignment - 1) positive
    simp only [alignedUp]
    omega
  · rintro m ⟨⟨factor, rfl⟩, le⟩
    rw [alignedUp, Nat.mul_comm]
    refine Nat.mul_le_mul_left _ (Nat.lt_succ_iff.mp ?_)
    rw [Nat.div_lt_iff_lt_mul positive, Nat.succ_mul, Nat.mul_comm]
    omega

/-- Less than one multiple is skipped. -/
theorem alignedUp_lt (n : Nat) {alignment : Nat} (positive : 0 < alignment) :
    alignedUp n alignment < n + alignment := by
  have le := Nat.div_mul_le_self (n + alignment - 1) alignment
  simp only [alignedUp]
  omega

/-- For a power of two the low bits are cleared. -/
theorem and_not_low (n k width : Nat) (small : n < 2 ^ width) (le : k ≤ width) :
    n &&& (2 ^ width - 1 - (2 ^ k - 1)) = n / 2 ^ k * 2 ^ k := by
  have mask : 2 ^ width - 1 - (2 ^ k - 1) = 2 ^ width - ((2 ^ k - 1) + 1) := by omega
  have low : 2 ^ k - 1 < 2 ^ width := by
    have := Nat.pow_le_pow_right (n := 2) (by decide) le
    have := Nat.two_pow_pos k
    omega
  refine Nat.eq_of_testBit_eq fun i => ?_
  rw [Nat.testBit_and, mask, Nat.testBit_two_pow_sub_succ low, Nat.testBit_two_pow_sub_one,
    Nat.testBit_mul_two_pow, Nat.testBit_div_two_pow]
  by_cases below : i < k
  · simp [below]
  · by_cases inside : i < width
    · simp [below, inside, Nat.not_lt.mp below]
    · have zero : n.testBit i = false :=
        Nat.testBit_lt_two_pow
          (small.trans_le (Nat.pow_le_pow_right (by decide) (Nat.not_lt.mp inside)))
      simp [below, inside, zero, Nat.not_lt.mp below]

end Extent
