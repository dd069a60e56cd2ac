import Mathlib.Data.List.Iterate
import Mathlib.Data.Nat.ModEq

/-!
# Rings with running indices

A producer writes entry after entry, a consumer reads them. Both count with an index that
`next` advances, and `slot` says where the entry of an index is kept. Slots are reused, so
a write keeps the entries that are not read yet only if their slots are apart.

The indices of the last section are 16-bit counters that wrap, as a split virtqueue has them.
-/
namespace Ring

variable {ι κ α : Type*} (next : ι → ι) (slot : ι → κ)

/-- The entries of `n` indices from `first` on. -/
def window (ring : κ → α) (first : ι) (n : Nat) : List α :=
  (List.iterate next first n).map fun idx => ring (slot idx)

/-- Any `n` indices in a row have slots of their own. -/
def Apart (n : Nat) : Prop :=
  ∀ first i j, i < n → j < n → slot (next^[i] first) = slot (next^[j] first) → i = j

variable {next slot} {ring : κ → α} {first : ι} {n : Nat}

@[simp] theorem window_length : (window next slot ring first n).length = n := by
  simp [window]

theorem window_cons :
    window next slot ring first (n + 1) =
      ring (slot first) :: window next slot ring (next first) n := rfl

theorem window_succ :
    window next slot ring first (n + 1) =
      window next slot ring first n ++ [ring (slot (next^[n] first))] := by
  induction n generalizing first with
  | zero => rfl
  | succ n ih =>
    rw [window_cons, ih, window_cons, List.cons_append]
    rfl

/-- Only the slots of the window matter. -/
theorem window_congr {ring' : κ → α}
    (same : ∀ i < n, ring' (slot (next^[i] first)) = ring (slot (next^[i] first))) :
    window next slot ring' first n = window next slot ring first n := by
  apply List.map_congr_left
  intro idx member
  obtain ⟨i, bound, rfl⟩ := List.mem_iterate.mp member
  exact same i bound

/-- A write behind the window keeps what is in it, as long as there is room. -/
theorem update_kept [DecidableEq κ] (apart : Apart next slot (n + 1)) (x : α) {i : Nat}
    (bound : i < n) :
    Function.update ring (slot (next^[n] first)) x (slot (next^[i] first)) =
      ring (slot (next^[i] first)) := by
  apply Function.update_of_ne
  intro same
  have equal := apart first i n (Nat.lt_succ_of_lt bound) (Nat.lt_succ_self n) same
  exact Nat.ne_of_lt bound equal

theorem window_push [DecidableEq κ] (apart : Apart next slot (n + 1)) (x : α) :
    window next slot (Function.update ring (slot (next^[n] first)) x) first (n + 1) =
      window next slot ring first n ++ [x] := by
  rw [window_succ, Function.update_self]
  congr 1
  apply window_congr
  intro i bound
  exact update_kept apart x bound

theorem Apart.mono {m : Nat} (apart : Apart next slot n) (le : m ≤ n) : Apart next slot m :=
  fun first i j left right => apart first i j (Nat.lt_of_lt_of_le left le)
    (Nat.lt_of_lt_of_le right le)

/-! ### Counters of 16 bits -/

section Counters

variable {slot : UInt16 → κ} {first last : UInt16}

/-- The entries from `first` up to `last`. -/
def pending (slot : UInt16 → κ) (ring : κ → α) (first last : UInt16) : List α :=
  window (· + 1) slot ring first (last - first).toNat

theorem iterate_succ (first : UInt16) (n : Nat) :
    (· + 1)^[n] first = first + UInt16.ofNat n := by
  induction n with
  | zero => simp
  | succ n ih =>
    rw [Function.iterate_succ_apply', ih, UInt16.ofNat_add, ← UInt16.add_assoc]
    rfl

theorem iterate_between (first last : UInt16) : (· + 1)^[(last - first).toNat] first = last := by
  rw [iterate_succ, UInt16.ofNat_toNat, UInt16.add_comm, UInt16.sub_add_cancel]

/-- The indices from `first` up to `last`. -/
def indices (first last : UInt16) : List UInt16 :=
  List.iterate (· + 1) first (last - first).toNat

theorem pending_length : (pending slot ring first last).length = (last - first).toNat :=
  window_length

theorem pending_eq_nil : pending slot ring first last = [] ↔ first = last := by
  rw [← List.length_eq_zero_iff, pending_length, ← UInt16.toNat_inj, UInt16.toNat_sub]
  have left := first.toNat_lt
  have right := last.toNat_lt
  omega

/-- The consumer reads the first entry. -/
theorem pending_cons (some : first ≠ last) :
    pending slot ring first last = ring (slot first) :: pending slot ring (first + 1) last := by
  have count : (last - first).toNat = (last - (first + 1)).toNat + 1 := by
    have differ : first.toNat ≠ last.toNat := fun same => some (UInt16.toNat_inj.mp same)
    have left := first.toNat_lt
    have right := last.toNat_lt
    have one : (1 : UInt16).toNat = 1 := rfl
    simp only [UInt16.toNat_sub, UInt16.toNat_add, one]
    omega
  rw [pending, count]
  rfl

/-- The producer writes the last one. -/
theorem pending_push [DecidableEq κ] {size : Nat} (apart : Apart (· + 1) slot size)
    (room : (pending slot ring first last).length < size) (small : size < 2 ^ 16) (x : α) :
    pending slot (Function.update ring (slot last) x) first (last + 1) =
      pending slot ring first last ++ [x] := by
  rw [pending_length] at room
  have count : (last + 1 - first).toNat = (last - first).toNat + 1 := by
    have one : (1 : UInt16).toNat = 1 := rfl
    have left := first.toNat_lt
    have right := last.toNat_lt
    simp only [UInt16.toNat_sub, UInt16.toNat_add, one] at room ⊢
    omega
  have push : window (· + 1) slot
      (Function.update ring (slot ((· + 1)^[(last - first).toNat] first)) x) first
        ((last - first).toNat + 1) = pending slot ring first last ++ [x] :=
    window_push (apart.mono room) x
  rw [iterate_between] at push
  rw [pending, count]
  exact push

theorem pending_kept [DecidableEq κ] {size : Nat} (apart : Apart (· + 1) slot size)
    (room : (pending slot ring first last).length < size) (x : α) :
    ∀ idx ∈ indices first last,
      Function.update ring (slot last) x (slot idx) = ring (slot idx) := by
  intro idx member
  obtain ⟨i, bound, rfl⟩ := List.mem_iterate.mp member
  rw [pending_length] at room
  have kept : Function.update ring (slot ((· + 1)^[(last - first).toNat] first)) x
      (slot ((· + 1)^[i] first)) = ring (slot ((· + 1)^[i] first)) :=
    update_kept (apart.mono room) x bound
  rw [iterate_between] at kept
  exact kept

/-- Slots by remainder are apart if the size divides the range of the counters. -/
theorem apart_mod {size : UInt16} (divides : size.toNat ∣ 2 ^ 16) :
    Apart (· + 1) (· % size) size.toNat := by
  intro first i j left right same
  have bound := size.toNat_lt
  rw [iterate_succ, iterate_succ] at same
  have remainders := congrArg UInt16.toNat same
  simp only [UInt16.toNat_mod, UInt16.toNat_add, UInt16.toNat_ofNat', Nat.mod_mod_of_dvd _ divides]
    at remainders
  rw [Nat.mod_eq_of_lt (left.trans bound), Nat.mod_eq_of_lt (right.trans bound)] at remainders
  exact (Nat.ModEq.add_left_cancel' first.toNat remainders).eq_of_lt_of_lt left right

end Counters

end Ring
