import Virtio9p.Protocol.Wire

/-!
# Decoder calls at any read offset

A decoder helper adds a width to the 32-bit read offset and compares the sum with the length of
the buffer. If the sum wraps to a value inside the buffer, the helper reads past the end; if not,
it takes the bytes whole or leaves the message alone.
-/
namespace Virtio9p

open NinePMessage

/-- The 32-bit sum of an offset and a width does not wrap to a value inside the buffer. -/
def Unwrapped (size offset width : Nat) : Prop :=
  offset + width < 2 ^ 32 ∨ size + 2 ^ 32 < offset + width

instance (size offset width : Nat) : Decidable (Unwrapped size offset width) :=
  inferInstanceAs (Decidable (_ ∨ _))

/-- Where a read of some bytes leaves the offset: behind them, if they are all there. -/
def offsetAfter (size offset width : Nat) : Nat :=
  if offset + width ≤ size then offset + width else offset

/-- No sum of a sequence of reads wraps into the buffer. -/
def UnwrappedAll (size : Nat) : Nat → List Nat → Prop
  | _, [] => True
  | offset, width :: widths =>
    Unwrapped size offset width ∧ UnwrappedAll size (offsetAfter size offset width) widths

theorem offsetAfter_le {size offset : Nat} (inside : offset ≤ size) (width : Nat) :
    offsetAfter size offset width ≤ size := by
  unfold offsetAfter
  split
  · assumption
  · exact inside

theorem offsetAfter_all_le {size offset : Nat} (inside : offset ≤ size) (widths : List Nat) :
    widths.foldl (offsetAfter size) offset ≤ size := by
  induction widths generalizing offset with
  | nil => exact inside
  | cons width widths ih => exact ih (offsetAfter_le inside width)

theorem unwrappedAll_append {size offset : Nat} (widths widths' : List Nat) :
    UnwrappedAll size offset (widths ++ widths') ↔
      UnwrappedAll size offset widths ∧
        UnwrappedAll size (widths.foldl (offsetAfter size) offset) widths' := by
  induction widths generalizing offset with
  | nil => exact (and_iff_right trivial).symm
  | cons width widths ih => exact (and_congr_right fun _ => ih).trans and_assoc.symm

/-! ### One read -/

namespace NinePMessage

variable {m : NinePMessage} {width : UInt32}

/-- What a read of some bytes does to the message. -/
def skip (m : NinePMessage) (width : UInt32) (fault : Bool) : NinePMessage :=
  if m.data.length < (m.readOffset + width).toNat then m else m.advance width fault

private theorem wrapped_sum (m : NinePMessage) (width : UInt32) :
    (m.readOffset + width).toNat = m.readOffset.toNat + width.toNat ∧
        m.readOffset.toNat + width.toNat < 2 ^ 32 ∨
      (m.readOffset + width).toNat + 2 ^ 32 = m.readOffset.toNat + width.toNat := by
  have offset := m.readOffset.toNat_lt
  have bound := width.toNat_lt
  rw [UInt32.toNat_add]
  omega

/-- Behind a passed check, an index outside the buffer is there exactly if the sum has wrapped. -/
theorem outside_eq (small : m.data.length < 2 ^ 32)
    (passed : ¬ m.data.length < (m.readOffset + width).toNat) :
    m.outside width.toNat = decide (m.data.length < m.readOffset.toNat + width.toNat) := by
  have offset := m.readOffset.toNat_lt
  have bound := width.toNat_lt
  rw [Bool.eq_iff_iff, outside, List.any_eq_true, decide_eq_true_eq]
  constructor
  · rintro ⟨k, member, beyond⟩
    have inRange := List.mem_range.mp member
    rw [decide_eq_true_eq, UInt32.toNat_add, UInt32.toNat_ofNat'] at beyond
    omega
  · intro beyond
    rcases wrapped_sum m width with ⟨sum, -⟩ | sum
    · omega
    · -- the last index before the wrap
      refine ⟨2 ^ 32 - 1 - m.readOffset.toNat, List.mem_range.mpr (by omega), ?_⟩
      rw [decide_eq_true_eq, UInt32.toNat_add, UInt32.toNat_ofNat']
      omega

end NinePMessage

/-- `m'` is `m` after reads of the given widths, as far as nothing wraps into the buffer. -/
structure Reads (m : NinePMessage) (widths : List Nat) (m' : NinePMessage) : Prop where
  data : m'.data = m.data
  clean : UnwrappedAll m.data.length m.readOffset.toNat widths → m'.fault = m.fault ∧
    m'.readOffset.toNat = widths.foldl (offsetAfter m.data.length) m.readOffset.toNat
  overrun : ¬ UnwrappedAll m.data.length m.readOffset.toNat widths → m'.fault = true
  sticky : m.fault = true → m'.fault = true

namespace Reads

variable {m m' m'' : NinePMessage} {widths widths' : List Nat} {width : UInt32}

theorem append (first : Reads m widths m') (next : Reads m' widths' m'') :
    Reads m (widths ++ widths') m'' where
  data := next.data.trans first.data
  clean unwrapped := by
    obtain ⟨before, behind⟩ := (unwrappedAll_append widths widths').mp unwrapped
    obtain ⟨fault, offset⟩ := first.clean before
    rw [← offset] at behind
    obtain ⟨fault', offset'⟩ := next.clean (by rw [first.data]; exact behind)
    rw [fault', offset', fault, offset, first.data, List.foldl_append]
    exact ⟨rfl, rfl⟩
  overrun wrapped := by
    by_cases before : UnwrappedAll m.data.length m.readOffset.toNat widths
    · apply next.overrun
      rw [first.data, (first.clean before).2]
      exact fun behind => wrapped ((unwrappedAll_append widths widths').mpr ⟨before, behind⟩)
    · exact next.sticky (first.overrun before)
  sticky fault := next.sticky (first.sticky fault)

/-- A read checks one sum. -/
theorem skip (small : m.data.length < 2 ^ 32) {fault : Bool}
    (reported : ¬ m.data.length < (m.readOffset + width).toNat →
      fault = decide (m.data.length < m.readOffset.toNat + width.toNat)) :
    Reads m [width.toNat] (m.skip width fault) := by
  unfold NinePMessage.skip
  by_cases stays : m.data.length < (m.readOffset + width).toNat
  · rw [if_pos stays]
    refine ⟨rfl, fun _ => ⟨rfl, ?_⟩, ?_, id⟩
    · have short : ¬ m.readOffset.toNat + width.toNat ≤ m.data.length := by
        have sum := NinePMessage.wrapped_sum m width
        omega
      exact (if_neg short).symm
    · intro wrapped
      refine absurd ⟨?_, trivial⟩ wrapped
      have sum := NinePMessage.wrapped_sum m width
      unfold Unwrapped
      omega
  · rw [if_neg stays, reported stays]
    have sum := NinePMessage.wrapped_sum m width
    refine ⟨rfl, ?_, ?_, ?_⟩
    · rintro ⟨unwrapped, -⟩
      -- the sum is the true one, so the bytes are there
      have enough : m.readOffset.toNat + width.toNat ≤ m.data.length := by
        unfold Unwrapped at unwrapped
        omega
      refine ⟨?_, ?_⟩
      · simp only [advance, decide_eq_false (Nat.not_lt.mpr enough), Bool.or_false]
      · simp only [advance, List.foldl_cons, List.foldl_nil, offsetAfter, if_pos enough]
        omega
    · intro wrapped
      have beyond : m.data.length < m.readOffset.toNat + width.toNat := by
        have wrapped : ¬ Unwrapped m.data.length m.readOffset.toNat width.toNat :=
          fun unwrapped => wrapped ⟨unwrapped, trivial⟩
        unfold Unwrapped at wrapped
        omega
      simp only [advance, decide_eq_true beyond, Bool.or_true]
    · intro fault
      simp only [advance, fault, Bool.true_or]

end Reads

/-! ### The decoder helpers -/

theorem bind_run {α β : Type} (x : Decoder α) (f : α → Decoder β) (m : NinePMessage) :
    (x >>= f) m = f (x m).1 (x m).2 := rfl

theorem pure_run {α : Type} (a : α) (m : NinePMessage) : (pure a : Decoder α) m = (a, m) := rfl

theorem map_run {α β : Type} (f : α → β) (x : Decoder α) (m : NinePMessage) :
    (f <$> x) m = (f (x m).1, (x m).2) := rfl

theorem getQid_state (m : NinePMessage) : (getQid m).2 = (getU64 (getU32 (getU8 m).2).2).2 := by
  unfold getQid
  simp only [bind_run, pure_run]

section Helpers

variable {m : NinePMessage} (small : m.data.length < 2 ^ 32)

include small

theorem reads_getU16 : Reads m [2] (getU16 m).2 := by
  have state : (getU16 m).2 = m.skip 2 (m.outside 2) := by
    unfold getU16 NinePMessage.skip
    split <;> rfl
  rw [state]
  change Reads m [(2 : UInt32).toNat] _
  exact Reads.skip small fun passed => outside_eq small passed

theorem reads_getU32 : Reads m [4] (getU32 m).2 := by
  have state : (getU32 m).2 = m.skip 4 (m.outside 4) := by
    unfold getU32 NinePMessage.skip
    split <;> rfl
  rw [state]
  change Reads m [(4 : UInt32).toNat] _
  exact Reads.skip small fun passed => outside_eq small passed

theorem reads_getU64 : Reads m [4, 4] (getU64 m).2 := by
  have first := reads_getU32 small
  unfold getU64
  simp only [bind_run, pure_run]
  exact first.append (reads_getU32 (by rw [first.data]; exact small))

theorem reads_getBytes (length : UInt32) : Reads m [length.toNat] (getBytes length m).2 := by
  have state : (getBytes length m).2 =
      m.skip length (decide (m.data.length < m.readOffset.toNat + length.toNat)) := by
    unfold getBytes NinePMessage.skip
    split <;> rfl
  rw [state]
  exact Reads.skip small fun _ => rfl

/-- `GetU8` compares the offset itself, so nothing can wrap. -/
theorem getU8_state : (getU8 m).2.data = m.data ∧ (getU8 m).2.fault = m.fault ∧
    (getU8 m).2.readOffset.toNat = offsetAfter m.data.length m.readOffset.toNat 1 := by
  unfold getU8 offsetAfter
  by_cases ended : m.data.length ≤ m.readOffset.toNat
  · rw [if_pos ended, if_neg (by omega)]
    exact ⟨rfl, rfl, rfl⟩
  · rw [if_neg ended, if_pos (by omega)]
    refine ⟨rfl, Bool.or_false _, ?_⟩
    have one : (1 : UInt32).toNat = 1 := rfl
    simp only [advance, UInt32.toNat_add, one]
    omega

end Helpers

end Virtio9p
