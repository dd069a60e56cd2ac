import Virtio9p.Transport.DiscoverySteps

/-!
# Pointers into the BARs

Where the pointers lie that `DiscoverDevice` makes of what the device says about itself. The
offsets, the lengths and most of the BAR numbers are used as they are read.
-/
namespace Virtio9p

namespace PciFunction

variable {f : PciFunction} {m : PciMembers}

/-! ### Regions -/

/-- A region behind a pointer lies in a mapped BAR. -/
def InBar (bars : UInt8 → Option UInt64) (pointer : BarPointer) (region : Extent) : Prop :=
  pointer.bar < 6 ∧ ∃ size, bars pointer.bar = some size ∧
    (region.shift pointer.offset.toNat).Within ⟨0, size.toNat⟩

variable (f m)

/-- What `DiscoverDevice` leaves, with `GetMountTag` called after it. -/
structure DiscoversInside (tagLen : UInt16) (tag : Nat → UInt8) (d : Discovery) : Prop where
  indices : ∀ bar ∈ d.indices, bar < 6
  common : ∀ c, (f.capabilities m).common = some c → ∀ p, d.members.commonCfg = some p →
    InBar d.members.bars p ⟨0, c.length.toNat⟩
  notify : ∀ c, (f.capabilities m).notify = some c → ∀ p, d.members.notifyBase = some p →
    InBar d.members.bars p ⟨0, c.length.toNat⟩
  device : ∀ c, (f.capabilities m).device = some c → ∀ p, d.members.deviceCfg = some p →
    InBar d.members.bars p ⟨0, c.length.toNat⟩
  isr : ∀ c, (f.capabilities m).isr = some c → ∀ p, d.members.isrCfg = some p →
    InBar d.members.bars p ⟨0, c.length.toNat⟩
  table : d.members.useMsix = true → ∀ p, d.members.msixTable = some p →
    InBar d.members.bars p ⟨0, 16⟩
  tag : ∀ p, d.members.deviceCfg = some p → ∀ region ∈ (d.members.getMountTag tagLen tag).2,
    InBar d.members.bars p region

/-- `bytes` bytes at a pointer end before the BAR does. -/
def Fits (pointer : BarPointer) (bytes : Nat) : Prop :=
  pointer.bar < 6 ∧ ∃ size, f.mappedSize m pointer.bar = some size ∧
    pointer.offset.toNat + bytes ≤ size.toNat

/-- The bytes of the length and of a tag that is taken. -/
def tagBytes (tagLen : UInt16) : Nat := if tagLen = 0 ∨ tagLen > 256 then 2 else 2 + tagLen.toNat

/-- A device that names BARs that exist, and offsets and lengths within them. -/
structure WellFormed (tagLen : UInt16) : Prop where
  bars : ∀ bar ∈ f.usedBars m, bar < 6
  common : ∀ c, (f.capabilities m).common = some c → f.Fits m c.pointer c.length.toNat
  notify : ∀ c, (f.capabilities m).notify = some c → f.Fits m c.pointer c.length.toNat
  device : ∀ c, (f.capabilities m).device = some c →
    ∀ p, chosen (f.mappedSize m) (f.capabilities m).device m.deviceCfg = some p →
      f.Fits m p c.length.toNat
  isr : ∀ c, (f.capabilities m).isr = some c →
    ∀ p, chosen (f.mappedSize m) (f.capabilities m).isr m.isrCfg = some p →
      f.Fits m p c.length.toNat
  table : f.usesMsix m = true → (f.mappedSize m (f.tableEntry m).bar).isSome →
    f.Fits m (f.tableEntry m) 16
  tag : ∀ p, chosen (f.mappedSize m) (f.capabilities m).device m.deviceCfg = some p →
    f.Fits m p (tagBytes tagLen)

variable {f m}

theorem inBar_iff (p : BarPointer) (bytes : Nat) :
    InBar (f.mappedSize m) p ⟨0, bytes⟩ ↔ f.Fits m p bytes := by
  simp [InBar, Fits, Extent.Within, Extent.shift, Extent.stop]

/-- The bytes of the tag reach furthest. -/
theorem getMountTag_inBar {d : Discovery} (bars : d.members.bars = f.mappedSize m)
    {p : BarPointer} (set : d.members.deviceCfg = some p) (tagLen : UInt16) (tag : Nat → UInt8) :
    (∀ region ∈ (d.members.getMountTag tagLen tag).2, InBar d.members.bars p region) ↔
      f.Fits m p (tagBytes tagLen) := by
  rw [bars]
  unfold PciMembers.getMountTag tagBytes
  rw [if_neg (by rw [set]; exact Option.some_ne_none p)]
  split
  · simp [inBar_iff]
  · rename_i taken
    have long : 0 < tagLen.toNat := by
      rw [not_or] at taken
      exact Nat.pos_of_ne_zero fun zero => taken.1 (UInt16.toNat_inj.mp zero)
    rw [List.forall_mem_cons, inBar_iff, List.forall_mem_map]
    constructor
    · rintro ⟨⟨low, size, mapped, -⟩, rest⟩
      -- the last byte
      obtain ⟨-, size', mapped', within⟩ := rest (tagLen.toNat - 1)
        (List.mem_range.mpr (by omega))
      have same : size' = size := Option.some.inj (mapped'.symm.trans mapped)
      have stop := within.2
      simp only [Extent.stop, Extent.shift, same] at stop
      exact ⟨low, size, mapped, by omega⟩
    · rintro ⟨low, size, mapped, stop⟩
      refine ⟨⟨low, size, mapped, by omega⟩, fun i mem => ⟨low, size, mapped, ?_⟩⟩
      have less := List.mem_range.mp mem
      constructor
      · exact Nat.zero_le _
      · simp only [Extent.stop, Extent.shift]
        omega

/-- Nothing but the device's own numbers decides where the pointers lie. -/
theorem discoversInside_iff (ok : (f.discoverDevice m).1 = 0) (tagLen : UInt16)
    (tag : Nat → UInt8) :
    f.DiscoversInside m tagLen tag (f.discoverDevice m).2 ↔ f.WellFormed m tagLen := by
  have found := discovered ok
  obtain ⟨common, hasCommon, -, commonCfg⟩ := found.common
  obtain ⟨notify, hasNotify, -, notifyBase⟩ := found.notify
  obtain ⟨checked, indices, low⟩ := found.indices
  constructor
  · intro inside
    exact {
      bars := fun bar used => inside.indices bar
        (by rw [indices]; exact List.mem_append_right _ used)
      common := fun c has => by
        cases hasCommon.symm.trans has
        rw [← inBar_iff, ← found.bars]
        exact inside.common _ has _ commonCfg
      notify := fun c has => by
        cases hasNotify.symm.trans has
        rw [← inBar_iff, ← found.bars]
        exact inside.notify _ has _ notifyBase
      device := fun c has p set => by
        rw [← inBar_iff, ← found.bars]
        exact inside.device c has p (found.device.trans set)
      isr := fun c has p set => by
        rw [← inBar_iff, ← found.bars]
        exact inside.isr c has p (found.isr.trans set)
      table := fun used mapped => by
        have msix : (f.discoverDevice m).2.members.useMsix = true := by
          rw [found.msix, used, mapped]
          rfl
        rw [← inBar_iff, ← found.bars]
        exact inside.table msix _ (found.table msix)
      tag := fun p set => by
        have device := found.device.trans set
        exact (getMountTag_inBar found.bars device tagLen tag).mp (inside.tag p device) }
  · intro formed
    exact {
      indices := by
        rw [indices]
        exact fun bar mem => (List.mem_append.mp mem).elim (low bar) (formed.bars bar)
      common := fun c has p set => by
        cases hasCommon.symm.trans has
        cases commonCfg.symm.trans set
        rw [found.bars, inBar_iff]
        exact formed.common _ has
      notify := fun c has p set => by
        cases hasNotify.symm.trans has
        cases notifyBase.symm.trans set
        rw [found.bars, inBar_iff]
        exact formed.notify _ has
      device := fun c has p set => by
        rw [found.bars, inBar_iff]
        exact formed.device c has p (found.device.symm.trans set)
      isr := fun c has p set => by
        rw [found.bars, inBar_iff]
        exact formed.isr c has p (found.isr.symm.trans set)
      table := fun msix p set => by
        cases (found.table msix).symm.trans set
        rw [found.msix, Bool.and_eq_true] at msix
        rw [found.bars, inBar_iff]
        exact formed.table msix.1 msix.2
      tag := fun p set =>
        (getMountTag_inBar found.bars set tagLen tag).mpr
          (formed.tag p (found.device.symm.trans set)) }

/-- A function with the capabilities common, at `offset`, and notify in BAR 4 of one page. -/
def modernFunction (offset : UInt32) : PciFunction where
  found := true
  config
    | 0x40 => some 0x01100009
    | 0x44 => some 4
    | 0x48 => some offset
    | 0x4c => some 0x38
    | 0x50 => some 0x02140009
    | 0x54 => some 4
    | 0x58 => some 0x100
    | 0x5c => some 4
    | _ => some 0
  attached := true
  command := some 6
  commandWritten := true
  claimed := true
  readIrq := some 11
  msixWritten := true
  readBa := some [⟨4, 0x1000⟩]
  unmapped := fun _ => none

/-- It also has the capabilities device and ISR, and an MSI-X table, all in the same BAR. -/
def completeFunction : PciFunction :=
  { modernFunction 0 with
    config := fun offset =>
      if offset = 0x64 then some 0x04100009
      else if offset = 0x6c then some 0x200
      else if offset = 0x70 then some 0x10
      else if offset = 0x74 then some 0x03100009
      else if offset = 0x7c then some 0x300
      else if offset = 0x80 then some 1
      else if offset = 0x84 then some 0x11
      else if offset = 0x88 then some 0x804
      -- the BAR of both
      else if offset = 0x68 ∨ offset = 0x78 then some 4
      else (modernFunction 0).config offset }

/-- All regions are chosen, and all of them lie in the BAR. -/
theorem discoversInside_iff_complete :
    let found := (completeFunction.discoverDevice (.fresh false)).2
    found.members.deviceCfg = some ⟨4, 0x200⟩ ∧ found.members.isrCfg = some ⟨4, 0x300⟩ ∧
      found.members.useMsix = true ∧ found.members.msixTable = some ⟨4, 0x800⟩ ∧
      completeFunction.DiscoversInside (.fresh false) 4 (fun _ => 0) found := by
  refine ⟨by decide, by decide, by decide, by decide, ?_⟩
  have page : completeFunction.mappedSize (.fresh false) 4 = some 0x1000 := by decide
  have caps : completeFunction.capabilities (.fresh false) =
      ⟨some ⟨4, 0, 0x38⟩, some ⟨4, 0x100, 4⟩, some ⟨4, 0x200, 0x10⟩, some ⟨4, 0x300, 1⟩,
        0x84, 0⟩ := by
    decide
  refine (discoversInside_iff (by decide) 4 fun _ => 0).mpr
    { bars := by decide +kernel
      common := ?_
      notify := ?_
      device := ?_
      isr := ?_
      table := fun _ _ => ⟨by decide, 0x1000, by decide, by decide⟩
      tag := ?_ }
  · rw [caps]
    rintro c ⟨⟩
    exact ⟨by decide, 0x1000, page, by decide⟩
  · rw [caps]
    rintro c ⟨⟩
    exact ⟨by decide, 0x1000, page, by decide⟩
  · have chosen : chosen (completeFunction.mappedSize (.fresh false))
        (completeFunction.capabilities (.fresh false)).device none = some ⟨4, 0x200⟩ := by decide
    intro c has p set
    rw [caps] at has
    cases has
    cases chosen.symm.trans set
    exact ⟨by decide, 0x1000, page, by decide⟩
  · have chosen : chosen (completeFunction.mappedSize (.fresh false))
        (completeFunction.capabilities (.fresh false)).isr none = some ⟨4, 0x300⟩ := by decide
    intro c has p set
    rw [caps] at has
    cases has
    cases chosen.symm.trans set
    exact ⟨by decide, 0x1000, page, by decide⟩
  · have chosen : chosen (completeFunction.mappedSize (.fresh false))
        (completeFunction.capabilities (.fresh false)).device none = some ⟨4, 0x200⟩ := by decide
    intro p set
    cases chosen.symm.trans set
    exact ⟨by decide, 0x1000, page, by decide⟩

/-- A capability behind the end of its BAR is taken. -/
theorem region_behind_bar :
    ¬ ∀ (f : PciFunction) (m : PciMembers) (tagLen : UInt16) (tag : Nat → UInt8),
      (f.discoverDevice m).1 = 0 → f.DiscoversInside m tagLen tag (f.discoverDevice m).2 := by
  intro claim
  have inside := claim (modernFunction 0x2000) (.fresh false) 0 (fun _ => 0) (by decide)
  obtain ⟨-, size, mapped, -, stop⟩ := inside.common ⟨4, 0x2000, 0x38⟩ (by decide) ⟨4, 0x2000⟩
    (by decide)
  have page : size = 0x1000 := Option.some.inj (mapped.symm.trans (by decide))
  rw [page] at stop
  exact absurd stop (by decide)

end PciFunction

end Virtio9p
