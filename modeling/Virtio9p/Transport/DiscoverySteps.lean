import Virtio9p.Transport.PciDiscovery
import Virtio9p.Transport.Exchanges

/-!
# The steps of DiscoverDevice

What each step leaves when it succeeds, and from that what a discovery that succeeds leaves.
-/
namespace Virtio9p

namespace PciFunction

variable (f : PciFunction)

/-! ### The scan ends -/

/-- With dwords for the rest of the region more of them change nothing. -/
theorem scan_enough {dwords offset : Nat} (enough : 0xFC < offset + 4 * dwords) (more : Nat)
    (c : Capabilities) : f.scan (dwords + more) offset c = f.scan dwords offset c := by
  induction dwords generalizing offset c with
  | zero =>
    cases more with
    | zero => rfl
    | succ more =>
      rw [Nat.zero_add]
      exact if_pos (by omega)
  | succ dwords ih =>
    rw [Nat.succ_add, scan, scan]
    have one : 0xFC < (offset + 4) + 4 * dwords := by omega
    by_cases done : 0xFC < offset
    · rw [if_pos done, if_pos done]
    · rw [if_neg done, if_neg done]
      cases f.config offset with
      | none => exact ih one c
      | some hdr0 =>
        simp only
        split
        · exact ih one _
        · split
          · exact ih one c
          · split
            · exact ih one c
            · -- a capability has four dwords at least
              rename_i valid
              have long : 16 ≤ (hdr0 >>> 16).toUInt8.toNat := by
                simp only [not_or] at valid
                exact UInt8.not_lt.mp valid.2.2
              exact ih (by omega) _

/-! ### The steps that succeed -/

variable {f}

theorem next_of_ok {result : Int32 × Discovery} {rest : Discovery → Int32 × Discovery}
    (ok : result.1 = 0) : Discovery.next result rest = rest result.2 :=
  if_neg (not_not.mpr ok)

theorem next_of_failed {result : Int32 × Discovery} {rest : Discovery → Int32 × Discovery}
    (failed : result.1 ≠ 0) : Discovery.next result rest = result :=
  if_pos failed

theorem next_ok {result : Int32 × Discovery} {rest : Discovery → Int32 × Discovery}
    (ok : (Discovery.next result rest).1 = 0) :
    result.1 = 0 ∧ Discovery.next result rest = rest result.2 := by
  by_cases failed : result.1 ≠ 0
  · rw [next_of_failed failed] at ok
    exact absurd ok failed
  · exact ⟨not_not.mp failed, next_of_ok (not_not.mp failed)⟩

/-- The size that the first entry for a BAR gives it. -/
def firstSize (bas : List PciBa) (bar : UInt8) : Option UInt64 :=
  (bas.find? fun ba => ba.barNum.toUInt8 = bar).map PciBa.mapSize

/-- What is mapped behind the loop. -/
def mappedBars (need : UInt8 → Bool) (bas : List PciBa) (bars : UInt8 → Option UInt64)
    (bar : UInt8) : Option UInt64 :=
  (bars bar).or (if bar < 6 ∧ need bar then firstSize bas bar else none)

/-- The entry makes the loop map a BAR. -/
def Wanted (need : UInt8 → Bool) (bars : UInt8 → Option UInt64) (ba : PciBa) : Prop :=
  ba.barNum.toUInt8 < 6 ∧ need ba.barNum.toUInt8 = true ∧ bars ba.barNum.toUInt8 = none

instance (need : UInt8 → Bool) (bars : UInt8 → Option UInt64) (ba : PciBa) :
    Decidable (Wanted need bars ba) := inferInstanceAs (Decidable (_ ∧ _ ∧ _))

/-- An entry that is not mapped, or is mapped now, leaves the loop to the entries behind it. -/
theorem mappedBars_cons (need : UInt8 → Bool) (ba : PciBa) (bas : List PciBa)
    (bars : UInt8 → Option UInt64) :
    mappedBars need (ba :: bas) bars = mappedBars need bas
      (if Wanted need bars ba then Function.update bars ba.barNum.toUInt8 (some ba.mapSize)
      else bars) := by
  funext bar
  by_cases same : ba.barNum.toUInt8 = bar
  · subst same
    have first : firstSize (ba :: bas) ba.barNum.toUInt8 = some ba.mapSize := by simp [firstSize]
    simp only [mappedBars, first]
    cases held : bars ba.barNum.toUInt8 with
    | some size => simp [Wanted, held]
    | none =>
      by_cases taken : ba.barNum.toUInt8 < 6 ∧ need ba.barNum.toUInt8 = true
      · simp [Wanted, held, taken]
      · rw [if_neg taken, if_neg fun all : Wanted need bars ba => taken ⟨all.1, all.2.1⟩,
          if_neg taken, held]
  · have later : firstSize (ba :: bas) bar = firstSize bas bar := by
      simp [firstSize, same]
    have other : (if Wanted need bars ba then Function.update bars ba.barNum.toUInt8
        (some ba.mapSize) else bars) bar = bars bar := by
      split
      · exact Function.update_of_ne (fun wrong => same wrong.symm) _ _
      · rfl
    rw [mappedBars, later, mappedBars, other]

/-! ### One entry of the mapping loop -/

/-- A look at a BAR uses an index that is checked, and changes nothing. -/
structure Looked (d looked : Discovery) : Prop where
  members : looked.members = d.members
  ledger : looked.ledger = d.ledger
  indices : ∃ new, looked.indices = d.indices ++ new ∧ ∀ bar ∈ new, bar < 6

theorem looked_hasBar {bar : UInt8} (low : bar < 6) (d : Discovery) :
    Looked d (d.hasBar bar).2 where
  members := rfl
  ledger := rfl
  indices := ⟨[bar], rfl, fun _ mem => by rw [List.mem_singleton.mp mem]; exact low⟩

/-- The indices that come behind those of a look. -/
theorem Looked.indexed {d looked after : Discovery} (same : Looked d looked)
    (rest : ∃ new, after.indices = looked.indices ++ new ∧ ∀ bar ∈ new, bar < 6) :
    ∃ new, after.indices = d.indices ++ new ∧ ∀ bar ∈ new, bar < 6 := by
  obtain ⟨first, looks, lows⟩ := same.indices
  obtain ⟨new, appended, lows'⟩ := rest
  refine ⟨first ++ new, by rw [appended, looks, List.append_assoc], fun bar mem => ?_⟩
  exact (List.mem_append.mp mem).elim (lows bar) (lows' bar)

/-- The BAR of an entry is mapped. -/
def mapBar (ba : PciBa) (d : Discovery) : Discovery :=
  (d.on fun m => { m with bars := Function.update m.bars ba.barNum.toUInt8 (some ba.mapSize) })
    |>.enter (.acquire (.bar ba.barNum.toUInt8))

/-- An entry is skipped, stops the loop or has its BAR mapped. -/
theorem mapBars_cons (f : PciFunction) (need : UInt8 → Bool) (ba : PciBa) (bas : List PciBa)
    (d : Discovery) :
    ∃ looked, Looked d looked ∧
      (¬ Wanted need d.members.bars ba ∧
          f.mapBars need (ba :: bas) d = f.mapBars need bas looked ∨
        Wanted need d.members.bars ba ∧ (∃ errno, f.unmapped ba.barNum.toUInt8 = some errno ∧
          f.mapBars need (ba :: bas) d = (-errno.val, looked)) ∨
        Wanted need d.members.bars ba ∧ f.unmapped ba.barNum.toUInt8 = none ∧
          f.mapBars need (ba :: bas) d = f.mapBars need bas (mapBar ba looked)) := by
  rw [mapBars]
  by_cases high : 6 ≤ ba.barNum.toUInt8
  · refine ⟨d, ⟨rfl, rfl, [], (List.append_nil _).symm, nofun⟩, .inl ⟨fun taken => ?_, if_pos high⟩⟩
    exact absurd taken.1 (UInt8.not_lt.mpr high)
  · have low : ba.barNum.toUInt8 < 6 := UInt8.not_le.mp high
    simp only
    rw [if_neg high]
    refine ⟨(d.hasBar ba.barNum.toUInt8).2, looked_hasBar low d, ?_⟩
    by_cases held : (d.hasBar ba.barNum.toUInt8).1 = true
    · have mapped : d.members.bars ba.barNum.toUInt8 ≠ none := Option.isSome_iff_ne_none.mp held
      exact .inl ⟨fun taken => mapped taken.2.2, if_pos held⟩
    · have absent : d.members.bars ba.barNum.toUInt8 = none :=
        Option.not_isSome_iff_eq_none.mp held
      rw [if_neg held]
      by_cases spare : need ba.barNum.toUInt8 = false
      · exact .inl ⟨fun taken => absurd (taken.2.1.symm.trans spare) (by decide), if_pos spare⟩
      · have taken : Wanted need d.members.bars ba :=
          ⟨low, Bool.eq_true_of_not_eq_false spare, absent⟩
        rw [if_neg spare]
        cases maps : f.unmapped ba.barNum.toUInt8 with
        | some errno => exact .inr (.inl ⟨taken, errno, rfl, rfl⟩)
        | none => exact .inr (.inr ⟨taken, rfl, rfl⟩)

/-- The loop maps what is needed, and its own indices are checked. -/
theorem mapBars_ok {need : UInt8 → Bool} {bas : List PciBa} {d : Discovery}
    (ok : (f.mapBars need bas d).1 = 0) :
    (f.mapBars need bas d).2.members =
        { d.members with bars := mappedBars need bas d.members.bars } ∧
      ∃ new, (f.mapBars need bas d).2.indices = d.indices ++ new ∧ ∀ bar ∈ new, bar < 6 := by
  induction bas generalizing d with
  | nil =>
    have same : mappedBars need [] d.members.bars = d.members.bars := by
      funext bar
      simp [mappedBars, firstSize]
    exact ⟨by rw [same]; rfl, [], (List.append_nil _).symm, nofun⟩
  | cons ba bas ih =>
    rw [mappedBars_cons]
    obtain ⟨looked, same, ⟨spare, next⟩ | ⟨-, errno, -, stops⟩ | ⟨taken, -, next⟩⟩ :=
      f.mapBars_cons need ba bas d
    · rw [next] at ok ⊢
      obtain ⟨members, indices⟩ := ih ok
      rw [if_neg spare, ← same.members]
      exact ⟨members, same.indexed indices⟩
    · rw [stops] at ok
      exact absurd ok (negated_errno errno)
    · rw [next] at ok ⊢
      obtain ⟨members, indices⟩ := ih ok
      rw [if_pos taken, ← same.members]
      exact ⟨members, same.indexed indices⟩

/-- Whatever comes of it, the loop leaves all but the BARs alone. -/
theorem mapBars_members (need : UInt8 → Bool) (bas : List PciBa) (d : Discovery) :
    (f.mapBars need bas d).2.members =
      { d.members with bars := (f.mapBars need bas d).2.members.bars } := by
  induction bas generalizing d with
  | nil => rfl
  | cons ba bas ih =>
    obtain ⟨looked, same, ⟨-, next⟩ | ⟨-, errno, -, stops⟩ | ⟨-, -, next⟩⟩ :=
      f.mapBars_cons need ba bas d
    · rw [next, ← same.members]
      exact ih looked
    · rw [stops, ← same.members]
    · rw [next, ← same.members]
      exact ih (mapBar ba looked)

/-! ### The pointers and the table -/

/-- The two BARs are looked at one after the other; the first that is not mapped is the end. -/
theorem setPointers_cases (common notify : CapInfo) (d : Discovery) :
    (d.members.bars common.bar = none ∧ setPointers common notify d =
        (-enodev, ⟨d.members, d.indices ++ [common.bar], d.ledger⟩)) ∨
      (d.members.bars notify.bar = none ∧ setPointers common notify d =
        (-enodev, ⟨{ d.members with commonCfg := some common.pointer },
          d.indices ++ [common.bar, notify.bar], d.ledger⟩)) ∨
      ((d.members.bars common.bar).isSome ∧ (d.members.bars notify.bar).isSome ∧
        setPointers common notify d =
          (0, ⟨{ d.members with
            commonCfg := some common.pointer, notifyBase := some notify.pointer },
            d.indices ++ [common.bar, notify.bar], d.ledger⟩)) := by
  cases first : d.members.bars common.bar with
  | none => exact .inl ⟨rfl, by simp [setPointers, Discovery.hasBar, first]⟩
  | some size =>
    cases second : d.members.bars notify.bar with
    | none =>
      exact .inr (.inl ⟨rfl, by simp [setPointers, Discovery.hasBar, Discovery.on, first, second]⟩)
    | some size' =>
      refine .inr (.inr ⟨rfl, rfl, ?_⟩)
      simp [setPointers, Discovery.hasBar, Discovery.on, first, second]

theorem setPointers_ok {common notify : CapInfo} {d : Discovery}
    (ok : (setPointers common notify d).1 = 0) :
    (d.members.bars common.bar).isSome ∧ (d.members.bars notify.bar).isSome ∧
      (setPointers common notify d).2 =
        ⟨{ d.members with commonCfg := some common.pointer, notifyBase := some notify.pointer },
          d.indices ++ [common.bar, notify.bar], d.ledger⟩ := by
  have missing : (-enodev : Int32) ≠ 0 := by decide
  obtain ⟨-, stops⟩ | ⟨-, stops⟩ | ⟨first, second, sets⟩ := setPointers_cases common notify d
  · rw [stops] at ok
    exact absurd ok missing
  · rw [stops] at ok
    exact absurd ok missing
  · rw [sets]
    exact ⟨first, second, rfl⟩

/-- The pointer to a capability that may be missing: the one before unless its BAR is mapped. -/
def chosen (bars : UInt8 → Option UInt64) (info : Option CapInfo) (before : Option BarPointer) :
    Option BarPointer :=
  match info with
  | none => before
  | some c => if (bars c.bar).isSome then some c.pointer else before

theorem setOptional_device (info : Option CapInfo) (d : Discovery) :
    setOptional info (fun p m => { m with deviceCfg := some p }) d =
      ⟨{ d.members with deviceCfg := chosen d.members.bars info d.members.deviceCfg },
        d.indices ++ info.toList.map CapInfo.bar, d.ledger⟩ := by
  cases info with
  | none => simp [setOptional, chosen]
  | some c => by_cases mapped : (d.members.bars c.bar).isSome <;>
      simp [setOptional, chosen, Discovery.hasBar, Discovery.on, mapped]

theorem setOptional_isr (info : Option CapInfo) (d : Discovery) :
    setOptional info (fun p m => { m with isrCfg := some p }) d =
      ⟨{ d.members with isrCfg := chosen d.members.bars info d.members.isrCfg },
        d.indices ++ info.toList.map CapInfo.bar, d.ledger⟩ := by
  cases info with
  | none => simp [setOptional, chosen]
  | some c => by_cases mapped : (d.members.bars c.bar).isSome <;>
      simp [setOptional, chosen, Discovery.hasBar, Discovery.on, mapped]

/-- MSI-X is not in use, or the BAR of its table is mapped, or the interrupt is given back and the
legacy one is read. -/
theorem programMsix_cases (f : PciFunction) (d : Discovery) :
    let entry := f.msixTableEntry d.members.msixCapOffset
    (d.members.useMsix = false ∧ f.programMsix d = (0, d)) ∨
      (d.members.useMsix = true ∧ (d.members.bars entry.bar).isSome ∧ f.programMsix d =
        (0, ⟨{ d.members with
            msixTable := some entry, msixEnable := d.members.msixEnable || f.msixWritten },
          d.indices ++ [entry.bar], d.ledger⟩)) ∨
      (d.members.useMsix = true ∧ d.members.bars entry.bar = none ∧ f.programMsix d =
        (if f.readIrq = none then -eio else 0,
          ⟨{ d.members with useMsix := false, irqNum := f.readIrq.getD d.members.irqNum },
            d.indices ++ [entry.bar], d.ledger ++ [.release (.irq d.members.irqNum)]⟩)) := by
  simp only
  cases used : d.members.useMsix with
  | false => exact .inl ⟨rfl, if_pos used⟩
  | true =>
    cases mapped : d.members.bars (f.msixTableEntry d.members.msixCapOffset).bar with
    | some size =>
      refine .inr (.inl ⟨rfl, rfl, ?_⟩)
      simp [programMsix, used, mapped, Discovery.hasBar, Discovery.on]
    | none =>
      refine .inr (.inr ⟨rfl, rfl, ?_⟩)
      cases irq : f.readIrq <;>
        simp [programMsix, readIntx, used, mapped, irq, Discovery.hasBar, Discovery.on,
          Discovery.enter]

/-- MSI-X stays in use if the BAR of its table is mapped. -/
theorem programMsix_ok (d : Discovery) :
    let entry := f.msixTableEntry d.members.msixCapOffset
    let after := (f.programMsix d).2
    (after.members.useMsix = (d.members.useMsix && (d.members.bars entry.bar).isSome)) ∧
      (after.members.useMsix = true → after.members.msixTable = some entry) ∧
      after.indices = d.indices ++ (if d.members.useMsix then [entry.bar] else []) ∧
      after.members = { d.members with
        useMsix := after.members.useMsix
        irqNum := after.members.irqNum
        msixTable := after.members.msixTable
        msixEnable := after.members.msixEnable } := by
  simp only
  obtain ⟨used, skips⟩ | ⟨used, mapped, programs⟩ | ⟨used, mapped, falls⟩ := f.programMsix_cases d
  · rw [skips]
    exact ⟨by simp [used], by simp [used], by simp [used], rfl⟩
  · rw [programs]
    simp [used, mapped]
  · rw [falls]
    simp [used, mapped]

/-- The interrupt is the one before, or the legacy one that is read for want of the table. -/
theorem programMsix_interrupt {d : Discovery} (ok : (f.programMsix d).1 = 0) :
    let after := (f.programMsix d).2.members
    if after.useMsix then after.irqNum = d.members.irqNum ∧
      after.msixEnable = (d.members.msixEnable || f.msixWritten)
    else after.msixEnable = d.members.msixEnable ∧
      if d.members.useMsix then f.readIrq = some after.irqNum
      else after.irqNum = d.members.irqNum := by
  simp only
  obtain ⟨used, skips⟩ | ⟨used, -, programs⟩ | ⟨used, -, falls⟩ := f.programMsix_cases d
  · rw [skips]
    simp [used]
  · rw [programs]
    simp [used]
  · rw [falls] at ok ⊢
    cases irq : f.readIrq with
    | none =>
      rw [irq] at ok
      exact absurd ok (by decide : (-eio : Int32) ≠ 0)
    | some n => simp [used]

/-! ### A discovery that succeeds -/

variable (f) (m : PciMembers)

/-- MSI-X is asked for: already in use, or claimed now. -/
def usesMsix : Bool := m.useMsix || ((f.capabilities m).msixCapOffset ≠ 0 && f.claimed)

variable {f m} in
theorem usesMsix_iff (unused : m.useMsix = false) :
    f.usesMsix m = true ↔ (f.capabilities m).msixCapOffset ≠ 0 ∧ f.claimed = true := by
  simp [usesMsix, unused]

def tableEntry : BarPointer := f.msixTableEntry (f.capabilities m).msixCapOffset

/-- The sizes of the BARs that are mapped: those before, and those of the table that are
needed. -/
def mappedSize : UInt8 → Option UInt64 :=
  mappedBars (needBar (f.capabilities m) (f.usesMsix m) (f.tableEntry m).bar)
    (f.readBa.getD []) m.bars

/-- The BAR numbers that come from the device. -/
def usedBars : List UInt8 :=
  let caps := f.capabilities m
  [caps.common, caps.notify, caps.device, caps.isr].flatMap
    (fun info => info.toList.map CapInfo.bar)
    ++ if f.usesMsix m then [(f.tableEntry m).bar] else []

structure Discovered (d : Discovery) : Prop where
  bars : d.members.bars = f.mappedSize m
  common : ∃ c, (f.capabilities m).common = some c ∧ (f.mappedSize m c.bar).isSome ∧
    d.members.commonCfg = some c.pointer
  notify : ∃ c, (f.capabilities m).notify = some c ∧ (f.mappedSize m c.bar).isSome ∧
    d.members.notifyBase = some c.pointer
  device : d.members.deviceCfg = chosen (f.mappedSize m) (f.capabilities m).device m.deviceCfg
  isr : d.members.isrCfg = chosen (f.mappedSize m) (f.capabilities m).isr m.isrCfg
  msix : d.members.useMsix = (f.usesMsix m && (f.mappedSize m (f.tableEntry m).bar).isSome)
  table : d.members.useMsix = true → d.members.msixTable = some (f.tableEntry m)
  indices : ∃ checked, d.indices = checked ++ f.usedBars m ∧ ∀ bar ∈ checked, bar < 6
  /-- With MSI-X not in use before. -/
  interrupt : m.useMsix = false →
    if d.members.useMsix then d.members.irqNum = msiIrq ∧
      d.members.msixEnable = (m.msixEnable || f.msixWritten)
    else d.members.msixEnable = m.msixEnable ∧ f.readIrq = some d.members.irqNum

variable {f m}

/-- Memory space and bus master are on, or can be switched on. -/
def enables (f : PciFunction) : Bool :=
  match f.command with
  | none => true
  | some cmd => cmd &&& 0x06 = 0x06 || f.commandWritten

variable (f m) in
/-- The device is found, described, attached and switched on. -/
def reaches : Bool :=
  f.found && (f.capabilities m).common.isSome && (f.capabilities m).notify.isSome &&
    f.attached && f.enables

variable (f m) in
/-- What `attachDevice` leaves. -/
def attachedTo : Discovery where
  members := { m with
    pciHandle := true
    msixCapOffset := (f.capabilities m).msixCapOffset
    notifyMultiplier := (f.capabilities m).notifyMultiplier }
  indices := []
  ledger := [.acquire .pciHandle]

theorem enableCommand_eq (d : Discovery) :
    f.enableCommand d = (if f.enables then 0 else -eio, d) := by
  unfold enableCommand enables
  cases f.command with
  | none => rfl
  | some cmd =>
    by_cases set : cmd &&& 0x06 = 0x06 <;> cases f.commandWritten <;> simp [set]

/-- A discovery stops before the claim of an interrupt, or goes on to it. -/
theorem discoverDevice_cases (f : PciFunction) (m : PciMembers) :
    (f.reaches m = false ∧ (f.discoverDevice m).1 ≠ 0 ∧
      (f.discoverDevice m).2.members = { m with
        pciHandle := (f.discoverDevice m).2.members.pciHandle
        msixCapOffset := (f.discoverDevice m).2.members.msixCapOffset
        notifyMultiplier := (f.discoverDevice m).2.members.notifyMultiplier } ∧
      (m.pciHandle = false →
        (f.discoverDevice m).2.members.pciHandle = false ∧ (f.discoverDevice m).2.ledger = [] ∨
        (f.discoverDevice m).2.members.pciHandle = true ∧
          (f.discoverDevice m).2.ledger = [.acquire .pciHandle])) ∨
    ∃ common notify, (f.capabilities m).common = some common ∧
      (f.capabilities m).notify = some notify ∧ f.reaches m = true ∧
      f.discoverDevice m = Discovery.next (f.claimInterrupt (f.attachedTo m))
        (f.mapDevice common notify (f.capabilities m)) := by
  have missing : (-enodev : Int32) ≠ 0 := by decide
  have failed : (-eio : Int32) ≠ 0 := by decide
  unfold discoverDevice reaches
  cases f.found with
  | false => exact .inl ⟨rfl, missing, rfl, fun free => .inl ⟨free, rfl⟩⟩
  | true =>
    rw [if_neg (by decide)]
    simp only [Bool.true_and]
    cases hasCommon : (f.capabilities m).common with
    | none => exact .inl ⟨rfl, missing, rfl, fun free => .inl ⟨free, rfl⟩⟩
    | some common =>
      cases hasNotify : (f.capabilities m).notify with
      | none => exact .inl ⟨rfl, missing, rfl, fun free => .inl ⟨free, rfl⟩⟩
      | some notify =>
        simp only [Option.isSome_some, Bool.true_and]
        unfold attachDevice
        cases f.attached with
        | false =>
          rw [if_neg (by decide), next_of_failed failed]
          exact .inl ⟨rfl, failed, rfl, fun _ => .inl ⟨rfl, rfl⟩⟩
        | true =>
          rw [if_pos rfl, next_of_ok rfl, enableCommand_eq]
          cases f.enables with
          | false =>
            rw [if_neg (by decide), next_of_failed failed]
            exact .inl ⟨rfl, failed, rfl, fun _ => .inr ⟨rfl, rfl⟩⟩
          | true =>
            rw [if_pos rfl, next_of_ok rfl]
            exact .inr ⟨common, notify, rfl, rfl, rfl, rfl⟩

/-- The claimed interrupt, or else the legacy one if it can be read. -/
theorem claimInterrupt_cases {d : Discovery} (unused : d.members.useMsix = false) :
    if d.members.msixCapOffset ≠ 0 ∧ f.claimed then
      f.claimInterrupt d =
        (0, ⟨{ d.members with irqNum := msiIrq, useMsix := true }, d.indices,
          d.ledger ++ [.acquire (.irq msiIrq)]⟩)
    else f.claimInterrupt d = f.readIntx d := by
  unfold claimInterrupt claimMsix
  split
  · rfl
  · rw [if_neg (by rw [unused]; decide)]

theorem readIntx_eq (d : Discovery) :
    f.readIntx d = match f.readIrq with
      | none => (-eio, d)
      | some n => (0, d.on fun m => { m with irqNum := n }) := rfl

theorem claimInterrupt_members (d : Discovery) :
    (f.claimInterrupt d).2.indices = d.indices ∧
      (f.claimInterrupt d).2.members = { d.members with
        irqNum := (f.claimInterrupt d).2.members.irqNum
        useMsix := d.members.useMsix || (d.members.msixCapOffset ≠ 0 && f.claimed) } := by
  unfold claimInterrupt claimMsix
  by_cases claimed : d.members.msixCapOffset ≠ 0 ∧ f.claimed = true
  · simp [Discovery.on, Discovery.enter, claimed]
  · have refused : (decide (d.members.msixCapOffset ≠ 0) && f.claimed) = false := by
      simpa using claimed
    simp only [if_neg claimed, refused, Bool.or_false]
    split
    · exact ⟨rfl, rfl⟩
    · rw [readIntx_eq]
      cases f.readIrq <;> exact ⟨rfl, rfl⟩

theorem claimInterrupt_ok (unused : m.useMsix = false)
    (ok : (f.claimInterrupt (f.attachedTo m)).1 = 0) :
    if f.usesMsix m then (f.claimInterrupt (f.attachedTo m)).2.members.irqNum = msiIrq
    else f.readIrq = some (f.claimInterrupt (f.attachedTo m)).2.members.irqNum := by
  have cases : if (f.capabilities m).msixCapOffset ≠ 0 ∧ f.claimed then _ else _ :=
    f.claimInterrupt_cases (d := f.attachedTo m) unused
  have uses := usesMsix_iff (f := f) unused
  by_cases claimed : (f.capabilities m).msixCapOffset ≠ 0 ∧ f.claimed = true
  · rw [if_pos claimed] at cases
    rw [if_pos (uses.mpr claimed), cases]
  · rw [if_neg claimed] at cases
    rw [if_neg fun used => claimed (uses.mp used)]
    rw [cases, readIntx_eq] at ok ⊢
    cases irq : f.readIrq with
    | none =>
      rw [irq] at ok
      exact absurd ok (by decide : (-eio : Int32) ≠ 0)
    | some n => rfl

/-- The last step gets the members that it leaves alone as they are in the end. -/
theorem programMsix_discovered (checked : List UInt8) {d : Discovery}
    (bars : d.members.bars = f.mappedSize m)
    (used : d.members.useMsix = f.usesMsix m)
    (offset : d.members.msixCapOffset = (f.capabilities m).msixCapOffset)
    (common : ∃ c, (f.capabilities m).common = some c ∧ (f.mappedSize m c.bar).isSome ∧
      d.members.commonCfg = some c.pointer)
    (notify : ∃ c, (f.capabilities m).notify = some c ∧ (f.mappedSize m c.bar).isSome ∧
      d.members.notifyBase = some c.pointer)
    (device : d.members.deviceCfg =
      chosen (f.mappedSize m) (f.capabilities m).device m.deviceCfg)
    (isr : d.members.isrCfg = chosen (f.mappedSize m) (f.capabilities m).isr m.isrCfg)
    (low : ∀ bar ∈ checked, bar < 6)
    (indices : d.indices ++ (if f.usesMsix m then [(f.tableEntry m).bar] else []) =
      checked ++ f.usedBars m)
    (enable : d.members.msixEnable = m.msixEnable)
    (irq : m.useMsix = false →
      if f.usesMsix m then d.members.irqNum = msiIrq else f.readIrq = some d.members.irqNum)
    (ok : (f.programMsix d).1 = 0) :
    f.Discovered m (f.programMsix d).2 := by
  obtain ⟨msix, table, appended, members⟩ := f.programMsix_ok d
  rw [offset, used, bars] at msix
  rw [offset] at table
  rw [offset, used] at appended
  exact {
    bars := by rw [members, bars]
    common := by rw [members]; exact common
    notify := by rw [members]; exact notify
    device := by rw [members, device]
    isr := by rw [members, isr]
    msix := msix
    table := table
    indices := ⟨checked, appended.trans indices, low⟩
    interrupt := fun unused => by
      have last := programMsix_interrupt ok
      have first := irq unused
      simp only [used, enable] at last
      cases stays : (f.programMsix d).2.members.useMsix with
      | true =>
        have uses : f.usesMsix m = true := by
          rw [stays] at msix
          exact (Bool.and_eq_true_iff.mp msix.symm).1
        rw [if_pos uses] at first
        simpa [stays, first] using last
      | false =>
        rw [stays, if_neg Bool.false_ne_true] at last
        refine ⟨last.1, ?_⟩
        by_cases uses : f.usesMsix m = true
        · exact (if_pos uses).mp last.2
        · rw [if_neg uses] at first
          rw [(if_neg uses).mp last.2]
          exact first }

/-- One step after the other, with the induction in that of the mapping loop. -/
theorem discovered (ok : (f.discoverDevice m).1 = 0) : f.Discovered m (f.discoverDevice m).2 := by
  obtain ⟨-, failed, -⟩ | ⟨common, notify, hasCommon, hasNotify, -, claims⟩ :=
    f.discoverDevice_cases m
  · exact absurd ok failed
  · rw [claims] at ok ⊢
    obtain ⟨claimed, maps⟩ := next_ok ok
    rw [maps] at ok ⊢
    have irq (unused : m.useMsix = false) := claimInterrupt_ok unused claimed
    obtain ⟨fresh, members⟩ := f.claimInterrupt_members (f.attachedTo m)
    generalize (f.claimInterrupt (f.attachedTo m)).2 = d at ok irq fresh members ⊢
    have used : d.members.useMsix = f.usesMsix m := by rw [members]; rfl
    have entry : f.msixTableEntry d.members.msixCapOffset = f.tableEntry m := by
      rw [members]; rfl
    have before : d.members.bars = m.bars := by rw [members]; rfl
    unfold mapDevice at ok ⊢
    cases table : f.readBa with
    | none =>
      rw [table] at ok
      exact absurd ok (by decide : (-eio : Int32) ≠ 0)
    | some bas =>
      rw [table] at ok
      simp only [used, entry] at ok ⊢
      obtain ⟨looped, next⟩ := next_ok ok
      rw [next] at ok ⊢
      obtain ⟨mapped, checked, indices, low⟩ := mapBars_ok looped
      have bars : (f.mapBars (needBar (f.capabilities m) (f.usesMsix m) (f.tableEntry m).bar) bas
          d).2.members.bars = f.mappedSize m := by
        rw [mapped, before, mappedSize, table]
        rfl
      unfold placePointers at ok ⊢
      obtain ⟨pointed, next'⟩ := next_ok ok
      rw [next'] at ok ⊢
      obtain ⟨commonBar, notifyBar, set⟩ := setPointers_ok pointed
      rw [bars] at commonBar notifyBar
      rw [set] at ok ⊢
      simp only [setOptional_device, setOptional_isr] at ok ⊢
      apply programMsix_discovered checked
      · exact bars
      · rw [mapped]; exact used
      · rw [mapped, members]; rfl
      · exact ⟨common, hasCommon, commonBar, rfl⟩
      · exact ⟨notify, hasNotify, notifyBar, rfl⟩
      · rw [bars, mapped, members]; rfl
      · rw [bars, mapped, members]; rfl
      · exact low
      · rw [indices, fresh]
        simp [usedBars, hasCommon, hasNotify, attachedTo]
      · rw [mapped, members]; rfl
      · rw [mapped]; exact irq
      · exact ok

/-! ### A discovery that fails -/

theorem setPointers_failed {common notify : CapInfo} {d : Discovery}
    (failed : (setPointers common notify d).1 ≠ 0) :
    (setPointers common notify d).2.members = d.members ∨
      d.members.bars notify.bar = none ∧ (setPointers common notify d).2.members =
        { d.members with commonCfg := some common.pointer } := by
  obtain ⟨-, stops⟩ | ⟨missing, stops⟩ | ⟨-, -, sets⟩ := setPointers_cases common notify d
  · exact .inl (by rw [stops])
  · exact .inr ⟨missing, by rw [stops]⟩
  · rw [sets] at failed
    exact absurd rfl failed

theorem programMsix_failed {d : Discovery} (failed : (f.programMsix d).1 ≠ 0) :
    d.members.useMsix = true ∧
      d.members.bars (f.msixTableEntry d.members.msixCapOffset).bar = none ∧ f.readIrq = none := by
  obtain ⟨-, skips⟩ | ⟨-, -, programs⟩ | ⟨used, mapped, falls⟩ := f.programMsix_cases d
  · rw [skips] at failed
    exact absurd rfl failed
  · rw [programs] at failed
    exact absurd rfl failed
  · rw [falls] at failed
    exact ⟨used, mapped, by_contra fun read => failed (if_neg read)⟩

/-- A mapping that fails sets no pointer, or not `notify_base_`, or finds neither the table nor
the legacy interrupt. -/
theorem placePointers_failed {common notify : CapInfo} {caps : Capabilities} {d : Discovery}
    (failed : (f.placePointers common notify caps d).1 ≠ 0) :
    let after := (f.placePointers common notify caps d).2.members
    after = d.members ∨
      (d.members.bars notify.bar = none ∧
        after = { d.members with commonCfg := some common.pointer }) ∨
      (d.members.useMsix = true ∧
        d.members.bars (f.msixTableEntry d.members.msixCapOffset).bar = none ∧
          f.readIrq = none) := by
  unfold placePointers at failed ⊢
  by_cases stopped : (setPointers common notify d).1 ≠ 0
  · rw [next_of_failed stopped]
    exact (setPointers_failed stopped).elim .inl fun missing => .inr (.inl missing)
  · have pointed := not_not.mp stopped
    rw [next_of_ok pointed] at failed
    obtain ⟨-, -, set⟩ := setPointers_ok pointed
    rw [set] at failed
    simp only [setOptional_device, setOptional_isr] at failed
    have last := programMsix_failed failed
    exact .inr (.inr last)

end PciFunction

end Virtio9p
