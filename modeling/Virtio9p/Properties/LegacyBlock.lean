import Virtio9p.Transport.RingAccess

/-!
# The block of a legacy queue

The descriptor table and the two rings lie apart in the block that is allocated, the used ring
where the device looks for it, and no access to one of them leaves it.
-/
namespace Virtio9p

open Extent

/-! ### The layout -/

/-- The bit trick of `AlignUp` for a power of two. -/
theorem alignUp_toNat {value alignment : UInt64} {k : Nat} (power : alignment.toNat = 2 ^ k)
    (small : value.toNat + alignment.toNat < 2 ^ 64) :
    (alignUp value alignment).toNat = alignedUp value.toNat alignment.toNat := by
  have positive := Nat.two_pow_pos k
  have le : k ≤ 64 := by
    by_contra large
    have := Nat.pow_le_pow_right (n := 2) (by decide) (Nat.le_of_not_le large)
    have := alignment.toNat_lt
    omega
  have sum : (value + alignment).toNat = value.toNat + alignment.toNat := by
    rw [UInt64.toNat_add]
    exact Nat.mod_eq_of_lt small
  have one : (1 : UInt64).toNat = 1 := rfl
  have upper : (value + alignment - 1).toNat = value.toNat + alignment.toNat - 1 := by
    rw [UInt64.toNat_sub_of_le _ _ (by rw [UInt64.le_iff_toNat_le, sum, one]; omega), sum, one]
  have mask : (alignment - 1).toNat = 2 ^ k - 1 := by
    rw [UInt64.toNat_sub_of_le _ _ (by rw [UInt64.le_iff_toNat_le, power, one]; exact positive),
      power, one]
  rw [alignUp, UInt64.toNat_and, UInt64.toNat_not, upper, mask, alignedUp, power]
  exact and_not_low _ k 64 (by omega) le

/-- What the layout should be: the three parts one behind the other, the used ring on the first
multiple of `align`. -/
structure LegacyLayout.Right (queueSize : UInt16) (align : UInt32) (l : LegacyLayout) : Prop where
  desc : l.part .desc = ⟨0, 16 * queueSize.toNat⟩
  avail : l.part .avail = ⟨16 * queueSize.toNat, 6 + 2 * queueSize.toNat⟩
  usedLength : (l.part .used).length = 6 + 8 * queueSize.toNat
  usedStart : IsLeast {m | align.toNat ∣ m ∧ (l.part .avail).stop ≤ m} (l.part .used).start
  block : l.block = ⟨0, (l.part .used).stop⟩

section Layout

variable {queueSize : UInt16} {align : UInt32} {k : Nat}

theorem descSize_toNat (queueSize : UInt16) (align : UInt32) :
    (legacyLayout queueSize align).descSize.toNat = 16 * queueSize.toNat := by
  have := queueSize.toNat_lt
  simp only [legacyLayout, UInt64.toNat_mul, UInt16.toNat_toUInt64, UInt64.toNat_ofNat]
  omega

theorem availSize_toNat (queueSize : UInt16) (align : UInt32) :
    (legacyLayout queueSize align).availSize.toNat = 6 + 2 * queueSize.toNat := by
  have := queueSize.toNat_lt
  simp only [legacyLayout, UInt64.toNat_add, UInt64.toNat_mul, UInt16.toNat_toUInt64,
    UInt64.toNat_ofNat]
  omega

theorem usedSize_toNat (queueSize : UInt16) (align : UInt32) :
    (legacyLayout queueSize align).usedSize.toNat = 6 + 8 * queueSize.toNat := by
  have := queueSize.toNat_lt
  simp only [legacyLayout, UInt64.toNat_add, UInt64.toNat_mul, UInt16.toNat_toUInt64,
    UInt64.toNat_ofNat]
  omega

/-- The end of the avail ring. -/
theorem availEnd_toNat (queueSize : UInt16) (align : UInt32) :
    ((legacyLayout queueSize align).descSize + (legacyLayout queueSize align).availSize).toNat =
      6 + 18 * queueSize.toNat := by
  have := queueSize.toNat_lt
  simp only [UInt64.toNat_add, descSize_toNat, availSize_toNat]
  omega

theorem usedOffset_toNat (power : align.toNat = 2 ^ k) :
    (legacyLayout queueSize align).usedOffset.toNat =
      alignedUp (6 + 18 * queueSize.toNat) align.toNat := by
  have := queueSize.toNat_lt
  have := align.toNat_lt
  have same : align.toUInt64.toNat = align.toNat := UInt32.toNat_toUInt64 align
  have ends := availEnd_toNat queueSize align
  have small : ((legacyLayout queueSize align).descSize +
      (legacyLayout queueSize align).availSize).toNat + align.toUInt64.toNat < 2 ^ 64 := by
    rw [ends, same]
    omega
  have up := alignUp_toNat (same.trans power) small
  rw [ends, same] at up
  exact up

theorem allocSize_toNat (power : align.toNat = 2 ^ k) :
    (legacyLayout queueSize align).allocSize.toNat =
      (legacyLayout queueSize align).usedOffset.toNat +
        (legacyLayout queueSize align).usedSize.toNat := by
  have := queueSize.toNat_lt
  have := align.toNat_lt
  have offset : (legacyLayout queueSize align).usedOffset.toNat = _ := usedOffset_toNat power
  have lt := alignedUp_lt (6 + 18 * queueSize.toNat) (power ▸ Nat.two_pow_pos k : 0 < align.toNat)
  have size := usedSize_toNat queueSize align
  change ((legacyLayout queueSize align).usedOffset +
    (legacyLayout queueSize align).usedSize).toNat = _
  rw [UInt64.toNat_add]
  exact Nat.mod_eq_of_lt (by omega)

/-- The layout is right for every power of two. -/
theorem legacyLayout_right (power : align.toNat = 2 ^ k) :
    (legacyLayout queueSize align).Right queueSize align := by
  have availSize := availSize_toNat queueSize align
  have descSize := descSize_toNat queueSize align
  refine ⟨?_, ?_, usedSize_toNat queueSize align, ?_, ?_⟩
  · rw [LegacyLayout.part, descSize]
  · rw [LegacyLayout.part, descSize, availSize]
  · have ends : ((legacyLayout queueSize align).part .avail).stop = 6 + 18 * queueSize.toNat := by
      simp only [stop, LegacyLayout.part, descSize, availSize]
      omega
    rw [ends]
    change IsLeast _ (legacyLayout queueSize align).usedOffset.toNat
    rw [usedOffset_toNat power]
    exact alignedUp_isLeast _ (power ▸ Nat.two_pow_pos k)
  · rw [LegacyLayout.block, allocSize_toNat power]
    rfl

end Layout

namespace LegacyLayout.Right

variable {queueSize : UInt16} {align : UInt32} {l : LegacyLayout}

/-- The avail ring ends before the used ring begins. -/
theorem avail_le_used (right : l.Right queueSize align) :
    (l.part .avail).stop ≤ (l.part .used).start := right.usedStart.1.2

theorem within (right : l.Right queueSize align) (part : RingPart) :
    (l.part part).Within l.block := by
  have le := right.avail_le_used
  rw [right.avail] at le
  rw [right.block]
  cases part with
  | desc =>
    rw [right.desc]
    exact ⟨Nat.zero_le _, by simp only [stop] at *; omega⟩
  | avail =>
    rw [right.avail]
    exact ⟨Nat.zero_le _, by simp only [stop] at *; omega⟩
  | used => exact ⟨Nat.zero_le _, (Nat.zero_add _).ge⟩

theorem disjoint (right : l.Right queueSize align) {part other : RingPart} (ne : part ≠ other) :
    Disjoint (l.part part).bytes (l.part other).bytes := by
  have availUsed := disjoint_of_le right.avail_le_used
  have descAvail : Disjoint (l.part .desc).bytes (l.part .avail).bytes := by
    refine disjoint_of_le ?_
    rw [right.desc, right.avail, stop, Nat.zero_add]
  have descUsed : Disjoint (l.part .desc).bytes (l.part .used).bytes := by
    refine disjoint_of_le (le_trans ?_ right.avail_le_used)
    rw [right.desc, right.avail]
    simp only [stop]
    omega
  cases part <;> cases other <;>
    first
      | exact absurd rfl ne
      | assumption
      | exact Disjoint.symm ‹_›

end LegacyLayout.Right

/-! ### The accesses -/

/-- An access stays in its part of the block. -/
def RingAccess.InPart (l : LegacyLayout) (a : RingAccess) : Prop :=
  (a.extent.shift (l.part a.part).start).Within (l.part a.part)

section Accesses

variable {queueSize : UInt16} {align : UInt32} {l : LegacyLayout}

theorem inPart_desc (right : l.Right queueSize align) {idx : UInt16} (proper : idx < queueSize)
    (field : DescField) : (RingAccess.desc idx field).InPart l := by
  have lt : idx.toNat < queueSize.toNat := proper
  refine shift_within ?_ rfl
  change _ ≤ (l.part .desc).length
  rw [right.desc]
  cases field <;> simp only [RingAccess.extent, DescField.extent, Extent.shift, stop] <;> omega

/-- A slot of the avail ring, behind the flags and the index. -/
theorem inPart_avail (right : l.Right queueSize align) {cell : UInt32}
    (proper : cell.toNat < 2 + queueSize.toNat) : (RingAccess.avail cell).InPart l := by
  refine shift_within ?_ rfl
  change _ ≤ (l.part .avail).length
  rw [right.avail]
  simp only [RingAccess.extent, stop]
  omega

theorem inPart_used (right : l.Right queueSize align) {offset : UInt64} {width : Nat}
    (proper : offset.toNat + width ≤ 6 + 8 * queueSize.toNat) :
    (RingAccess.used offset width).InPart l := by
  refine shift_within ?_ rfl
  change _ ≤ (l.part .used).length
  rw [right.usedLength]
  exact proper

/-- The accesses that are proper stay in their parts. -/
def LoggedQueue.InParts (l : LegacyLayout) (queueSize : UInt16) (q : LoggedQueue) : Prop :=
  q.vq.queueSize = queueSize ∧ ∀ a ∈ q.log, a.Proper queueSize → a.InPart l

namespace LoggedQueue.InParts

variable {q : LoggedQueue}

theorem access (inParts : q.InParts l queueSize) {accesses : List RingAccess}
    (proper : ∀ a ∈ accesses, a.Proper queueSize → a.InPart l) :
    (q.access accesses).InParts l queueSize := by
  refine ⟨inParts.1, fun a member => ?_⟩
  rcases List.mem_append.mp member with old | new
  · exact inParts.2 a old
  · exact proper a new

theorem on (inParts : q.InParts l queueSize) {f : Virtqueue → Virtqueue}
    (same : (f q.vq).queueSize = q.vq.queueSize) : (q.on f).InParts l queueSize :=
  ⟨same.trans inParts.1, inParts.2⟩

/-- Accesses to one descriptor. -/
theorem descs (right : l.Right queueSize align) (inParts : q.InParts l queueSize) (idx : UInt16)
    (fields : List DescField) :
    (q.access (fields.map (.desc idx))).InParts l queueSize := by
  refine inParts.access fun a member proper => ?_
  obtain ⟨field, -, rfl⟩ := List.mem_map.mp member
  exact inPart_desc right proper field

theorem fillDesc (right : l.Right queueSize align) (inParts : q.InParts l queueSize) (idx : UInt16)
    (addr : UInt64) (len : UInt32) (flags : UInt16) :
    (q.fillDesc idx addr len flags).InParts l queueSize :=
  (inParts.descs right idx [.addr, .len, .flags]).on rfl

theorem linkDesc (right : l.Right queueSize align) (inParts : q.InParts l queueSize)
    (idx next : UInt16) : (q.linkDesc idx next).InParts l queueSize :=
  (inParts.descs right idx [.next]).on rfl

theorem popFree (right : l.Right queueSize align) (inParts : q.InParts l queueSize)
    (idx : UInt16) : (q.popFree idx).InParts l queueSize :=
  (inParts.descs right idx [.next]).on rfl

theorem slot_lt (positive : 0 < queueSize) (inParts : q.InParts l queueSize) (idx : UInt16) :
    (q.vq.slot idx).toNat < queueSize.toNat := by
  rw [Virtqueue.slot, inParts.1, UInt16.toNat_mod]
  exact Nat.mod_lt _ positive

theorem pushAvail (right : l.Right queueSize align) (positive : 0 < queueSize)
    (inParts : q.InParts l queueSize) (head : UInt16) : (q.pushAvail head).InParts l queueSize := by
  have lt := inParts.slot_lt positive q.vq.availIdx
  have small := queueSize.toNat_lt
  have some : 0 < queueSize.toNat := positive
  have one : (RingAccess.avail 1).InPart l :=
    inPart_avail right (by rw [show (1 : UInt32).toNat = 1 from rfl]; omega)
  refine (inParts.access fun a member _ => ?_).on rfl
  simp only [List.mem_cons, List.not_mem_nil, or_false] at member
  rcases member with rfl | rfl | rfl
  · exact one
  · refine inPart_avail right ?_
    rw [UInt32.toNat_add, UInt16.toNat_toUInt32, show (2 : UInt32).toNat = 2 from rfl]
    omega
  · exact one

theorem addBuf (right : l.Right queueSize align) (positive : 0 < queueSize)
    (inParts : q.InParts l queueSize) (outPhys : UInt64) (outLen : UInt32) (inPhys : UInt64)
    (inLen : UInt32) :
    (q.addBuf outPhys outLen inPhys inLen).2.InParts l queueSize := by
  rw [LoggedQueue.addBuf]
  split
  · exact inParts
  · let head := q.vq.freeHead
    have first := (inParts.fillDesc right head outPhys outLen vringDescFlagNext).popFree right head
    let idx := ((q.fillDesc head outPhys outLen vringDescFlagNext).popFree head).vq.freeHead
    have second := ((first.fillDesc right idx inPhys inLen vringDescFlagWrite).linkDesc right head
      idx).popFree right idx
    exact second.pushAvail right positive head

theorem freeChain (right : l.Right queueSize align) (inParts : q.InParts l queueSize)
    (fuel : Nat) (i : UInt16) : (q.freeChain fuel i).2.InParts l queueSize := by
  induction fuel generalizing q i with
  | zero => exact inParts
  | succ fuel ih =>
    have freed : ((q.access [.desc i .flags, .desc i .next, .desc i .next]).on
        (·.freeDesc i)).InParts l queueSize :=
      (inParts.descs right i [.flags, .next, .next]).on rfl
    rw [LoggedQueue.freeChain]
    split
    · exact ih freed _
    · exact freed

theorem getBuf (right : l.Right queueSize align) (positive : 0 < queueSize)
    (inParts : q.InParts l queueSize) (fuel : Nat) (outLen : UInt32) :
    (q.getBuf fuel outLen).2.InParts l queueSize := by
  have some : 0 < queueSize.toNat := positive
  have small := queueSize.toNat_lt
  have lt := inParts.slot_lt positive q.vq.lastUsedIdx
  have index : (q.access [.used 2 2]).InParts l queueSize := by
    refine inParts.access fun a member _ => ?_
    rw [List.mem_singleton.mp member]
    exact inPart_used right (by rw [show (2 : UInt64).toNat = 2 from rfl]; omega)
  have offset : (elemOffset q.vq).toNat = 4 + 8 * (q.vq.slot q.vq.lastUsedIdx).toNat := by
    simp only [elemOffset, UInt64.toNat_add, UInt64.toNat_mul, UInt16.toNat_toUInt64,
      UInt64.toNat_ofNat]
    omega
  have element : ((q.access [.used 2 2]).access [.used (elemOffset q.vq + 4) 4,
      .used (elemOffset q.vq) 4, .used (elemOffset q.vq) 4]).InParts l queueSize := by
    refine index.access fun a member _ => ?_
    simp only [List.mem_cons, List.not_mem_nil, or_false, or_self] at member
    rcases member with rfl | rfl
    · refine inPart_used right ?_
      rw [UInt64.toNat_add, offset, show (4 : UInt64).toNat = 4 from rfl]
      omega
    · exact inPart_used right (by rw [offset]; omega)
  have freed := element.freeChain right fuel
    (q.vq.usedRing (q.vq.slot q.vq.lastUsedIdx)).id.toUInt16
  rw [LoggedQueue.getBuf]
  simp only
  split
  · exact index
  · split
    · exact freed.on rfl
    · exact freed

end LoggedQueue.InParts

end Accesses

/-! ### The whole -/

/-- None of the sums of the layout is too large for its type. -/
def LegacyLayout.SumsExact (l : LegacyLayout) (align : UInt32) (base : UInt64) : Prop :=
  (l.descSize + l.availSize).toNat = l.descSize.toNat + l.availSize.toNat ∧
    (l.descSize + l.availSize + align.toUInt64).toNat =
      l.descSize.toNat + l.availSize.toNat + align.toNat ∧
    l.allocSize.toNat = l.usedOffset.toNat + l.usedSize.toNat ∧
    (base + l.descSize).toNat = base.toNat + l.descSize.toNat ∧
    (base + l.usedOffset).toNat = base.toNat + l.usedOffset.toNat

theorem legacyLayout_sumsExact {queueSize : UInt16} {align : UInt32} {k : Nat}
    (power : align.toNat = 2 ^ k) {base : UInt64}
    (fits : base.toNat + (legacyLayout queueSize align).allocSize.toNat ≤ 2 ^ 64) :
    (legacyLayout queueSize align).SumsExact align base := by
  have small := queueSize.toNat_lt
  have alignSmall := align.toNat_lt
  have descSize := descSize_toNat queueSize align
  have availSize := availSize_toNat queueSize align
  have usedSize := usedSize_toNat queueSize align
  have alloc : (legacyLayout queueSize align).allocSize.toNat = _ := allocSize_toNat power
  have right : (legacyLayout queueSize align).Right queueSize align := legacyLayout_right power
  have after : 16 * queueSize.toNat + (6 + 2 * queueSize.toNat) ≤
      (legacyLayout queueSize align).usedOffset.toNat := by
    have le := right.avail_le_used
    rw [right.avail] at le
    exact le
  have ends := availEnd_toNat queueSize align
  refine ⟨?_, ?_, alloc, ?_, ?_⟩
  · rw [ends, descSize, availSize]
    omega
  · rw [UInt64.toNat_add, ends, UInt32.toNat_toUInt64, descSize, availSize]
    omega
  · rw [UInt64.toNat_add]
    exact Nat.mod_eq_of_lt (by omega)
  · rw [UInt64.toNat_add]
    exact Nat.mod_eq_of_lt (by omega)

/-- A legacy queue of any size with any power of two as its alignment: the layout of the block is
right, the addresses that the device gets are those of its parts, and the queue is used inside
them. -/
theorem legacy_queue_in_block {queueSize : UInt16} {align : UInt32} {k : Nat}
    (positive : 0 < queueSize) (power : align.toNat = 2 ^ k) {base : UInt64}
    (fits : base.toNat + (legacyLayout queueSize align).allocSize.toNat ≤ 2 ^ 64)
    (vq : Virtqueue) (same : vq.queueSize = queueSize) :
    let l := legacyLayout queueSize align
    let made := (vq.initializeLegacy align true base).2
    l.Right queueSize align ∧ l.SumsExact align base ∧
      (∀ part, (l.part part).Within l.block) ∧
      (∀ part other, part ≠ other → Disjoint (l.part part).bytes (l.part other).bytes) ∧
      made.descPhys.toNat = base.toNat + (l.part .desc).start ∧
      made.availPhys.toNat = base.toNat + (l.part .avail).start ∧
      made.usedPhys.toNat = base.toNat + (l.part .used).start ∧
      (∀ outPhys outLen inPhys inLen, ∀ a ∈ (LoggedQueue.addBuf outPhys outLen inPhys inLen
        ⟨vq, []⟩).2.log, a.Proper queueSize → a.InPart l) ∧
      ∀ fuel outLen, ∀ a ∈ (LoggedQueue.getBuf fuel outLen ⟨vq, []⟩).2.log,
        a.Proper queueSize → a.InPart l := by
  intro l made
  have right : l.Right queueSize align := legacyLayout_right power
  have sums : l.SumsExact align base := legacyLayout_sumsExact power fits
  have ⟨_, _, _, avail, used⟩ := sums
  have start : LoggedQueue.InParts l queueSize ⟨vq, []⟩ := ⟨same, nofun⟩
  subst same
  exact ⟨right, sums, right.within, fun _ _ => right.disjoint, rfl, avail, used,
    fun outPhys outLen inPhys inLen => (start.addBuf right positive outPhys outLen inPhys inLen).2,
    fun fuel outLen => (start.getBuf right positive fuel outLen).2⟩

theorem legacy_queue_in_block_default :
    let l := legacyLayout 128 4096
    let vq := Virtqueue.new 128
    let made := (vq.initializeLegacy 4096 true 0x40000000).2
    l.Right 128 4096 ∧ l.SumsExact 4096 0x40000000 ∧
      (∀ part, (l.part part).Within l.block) ∧
      (∀ part other, part ≠ other → Disjoint (l.part part).bytes (l.part other).bytes) ∧
      made.descPhys.toNat = 0x40000000 + (l.part .desc).start ∧
      made.availPhys.toNat = 0x40000000 + (l.part .avail).start ∧
      made.usedPhys.toNat = 0x40000000 + (l.part .used).start ∧
      (∀ outPhys outLen inPhys inLen, ∀ a ∈ (LoggedQueue.addBuf outPhys outLen inPhys inLen
        ⟨vq, []⟩).2.log, a.Proper 128 → a.InPart l) ∧
      ∀ fuel outLen, ∀ a ∈ (LoggedQueue.getBuf fuel outLen ⟨vq, []⟩).2.log,
        a.Proper 128 → a.InPart l :=
  legacy_queue_in_block (k := 12) (by decide) (by decide) (by decide) (Virtqueue.new 128) rfl

end Virtio9p
