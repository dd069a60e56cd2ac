import Virtio9p.Transport.AccountedRuns
import Virtio9p.Transport.DiscoverySteps

/-!
# What a discovery acquires

The BARs and the handle are held by members, whatever comes of the discovery. The claimed
interrupt is not: which entries there are about it depends on how far the discovery gets.
-/
namespace Virtio9p

open Ledger (Entry account account_other account_trans)

theorem Accounts.pciOwn_congr {m m' : PciMembers} (bars : m'.bars = m.bars)
    (handle : m'.pciHandle = m.pciHandle) (r : Resource) :
    Accounts.pciOwn m' r = Accounts.pciOwn m r := by
  cases r with
  | bar n => rw [Accounts.pciOwn_bar, Accounts.pciOwn_bar, bars]
  | pciHandle => exact handle
  | _ => rfl

namespace Discovery

/-- The ledger says of the BARs and the handle what the members say. -/
def Counted (d : Discovery) : Prop :=
  ∀ r, r.isIrq = false → account r d.ledger false = some (Accounts.pciOwn d.members r)

/-- The entries about claimed interrupts. -/
def irqs (d : Discovery) : List (Entry Resource) := d.ledger.filter (·.resource.isIrq)

/-- Entries about claimed interrupts only. -/
theorem Counted.irq {d d' : Discovery} (counted : d.Counted) {new : List (Entry Resource)}
    (ledger : d'.ledger = d.ledger ++ new) (claims : ∀ e ∈ new, e.resource.isIrq = true)
    (same : ∀ r, Accounts.pciOwn d'.members r = Accounts.pciOwn d.members r) : d'.Counted := by
  intro r plain
  rw [ledger, same]
  exact account_trans (counted r plain) (account_claims claims plain _)

/-- The handle is all that may be held. -/
theorem Counted.of_handle {m : PciMembers} (free : ∀ r, Accounts.pciOwn m r = false)
    {d : Discovery} (bars : d.members.bars = m.bars)
    (handle : d.members.pciHandle = false ∧ d.ledger = [] ∨
      d.members.pciHandle = true ∧ d.ledger = [.acquire .pciHandle]) : d.Counted := by
  intro r _
  cases r with
  | bar n =>
    have absent : Accounts.pciOwn d.members (.bar n) = false := by
      rw [← free (.bar n), Accounts.pciOwn_bar, Accounts.pciOwn_bar, bars]
    rw [absent]
    obtain ⟨-, ledger⟩ | ⟨-, ledger⟩ := handle <;> rw [ledger] <;> rfl
  | pciHandle =>
    obtain ⟨held, ledger⟩ | ⟨held, ledger⟩ := handle <;> rw [ledger] <;>
      exact congrArg some held.symm
  | _ => obtain ⟨-, ledger⟩ | ⟨-, ledger⟩ := handle <;> rw [ledger] <;> rfl

theorem Counted.bar {d : Discovery} (counted : d.Counted) {bar : UInt8} (low : bar < 6)
    (absent : d.members.bars bar = none) (size : UInt64) :
    ((d.on fun m => { m with bars := Function.update m.bars bar (some size) }).enter
      (.acquire (.bar bar))).Counted := by
  intro r plain
  refine account_trans (counted r plain) ?_
  by_cases same : Resource.bar bar = r
  · subst same
    simp [Discovery.on, Discovery.enter, Ledger.enter, low, absent]
  · have kept : Accounts.pciOwn { d.members with
        bars := Function.update d.members.bars bar (some size) } r =
          Accounts.pciOwn d.members r := by
      cases r with
      | bar n =>
        have other : n ≠ bar := fun wrong => same (congrArg Resource.bar wrong.symm)
        simp [Function.update_of_ne other]
      | _ => rfl
    rw [account_other fun e mem => by rw [List.mem_singleton.mp mem]; exact same]
    exact congrArg some kept.symm

theorem irqs_append {d d' : Discovery} {new : List (Entry Resource)}
    (ledger : d'.ledger = d.ledger ++ new) (claims : ∀ e ∈ new, e.resource.isIrq = true) :
    d'.irqs = d.irqs ++ new := by
  rw [irqs, irqs, ledger, List.filter_append, List.filter_eq_self.mpr claims]

end Discovery

namespace PciFunction

variable {f : PciFunction} {m : PciMembers}

/-! ### The mapping loop -/

/-- A BAR is acquired when it is mapped, and only then. -/
theorem mapBars_counted {need : UInt8 → Bool} {bas : List PciBa} {d : Discovery}
    (counted : d.Counted) :
    (f.mapBars need bas d).2.Counted ∧ (f.mapBars need bas d).2.irqs = d.irqs := by
  induction bas generalizing d with
  | nil => exact ⟨counted, rfl⟩
  | cons ba bas ih =>
    obtain ⟨looked, same, step⟩ := f.mapBars_cons need ba bas d
    have looks : looked.Counted := by
      intro r plain
      rw [same.ledger, same.members]
      exact counted r plain
    have kept : looked.irqs = d.irqs := congrArg (List.filter _) same.ledger
    obtain ⟨-, next⟩ | ⟨-, errno, -, stops⟩ | ⟨⟨low, -, absent⟩, -, next⟩ := step
    · rw [next, ← kept]
      exact ih looks
    · rw [stops]
      exact ⟨looks, kept⟩
    · rw [next]
      rw [← same.members] at absent
      obtain ⟨later, claims⟩ := ih (Discovery.Counted.bar looks low absent ba.mapSize)
      refine ⟨later, claims.trans (Eq.trans ?_ kept)⟩
      exact (List.filter_append _ _).trans (List.append_nil _)

variable (f) in
/-- The entry for a BAR is skipped, or the BAR can be mapped. -/
def Maps (need : UInt8 → Bool) (bars : UInt8 → Option UInt64) (ba : PciBa) : Prop :=
  ba.barNum.toUInt8 < 6 → need ba.barNum.toUInt8 = true → bars ba.barNum.toUInt8 = none →
    f.unmapped ba.barNum.toUInt8 = none

/-- Once a BAR is mapped, the further entries for it are skipped. -/
theorem maps_update {need : UInt8 → Bool} {bars : UInt8 → Option UInt64} {bar : UInt8}
    (maps : f.unmapped bar = none) (size : UInt64) (ba : PciBa) :
    f.Maps need (Function.update bars bar (some size)) ba ↔ f.Maps need bars ba := by
  unfold Maps
  by_cases same : ba.barNum.toUInt8 = bar
  · rw [same]
    exact ⟨fun _ _ _ _ => maps, fun _ _ _ _ => maps⟩
  · rw [Function.update_of_ne same]

/-- The loop goes through if no entry stops it. -/
theorem mapBars_zero {need : UInt8 → Bool} {bas : List PciBa} {d : Discovery} :
    (f.mapBars need bas d).1 = 0 ↔ ∀ ba ∈ bas, f.Maps need d.members.bars ba := by
  induction bas generalizing d with
  | nil => exact ⟨fun _ => nofun, fun _ => rfl⟩
  | cons ba bas ih =>
    rw [List.forall_mem_cons]
    obtain ⟨looked, same, ⟨spare, next⟩ | ⟨taken, errno, fails, stops⟩ | ⟨-, maps, next⟩⟩ :=
      f.mapBars_cons need ba bas d
    · have skipped : f.Maps need d.members.bars ba :=
        fun low needed absent => absurd ⟨low, needed, absent⟩ spare
      rw [next, ih, same.members, and_iff_right skipped]
    · rw [stops]
      refine ⟨fun zero => absurd zero (negated_errno errno), fun all => ?_⟩
      have maps := all.1 taken.1 taken.2.1 taken.2.2
      rw [fails] at maps
      cases maps
    · have mapped : f.Maps need d.members.bars ba := fun _ _ _ => maps
      rw [next, ih, and_iff_right mapped, ← same.members]
      exact forall₂_congr fun other _ => maps_update maps ba.mapSize other

/-! ### The mapping -/

variable (f m) in
/-- The table of BARs can be read, each that is needed can be mapped, and those with the two
capabilities that the transport cannot do without are among them. -/
structure MapsAll : Prop where
  bars : ∃ bas, f.readBa = some bas ∧ ∀ ba ∈ bas,
    f.Maps (needBar (f.capabilities m) (f.usesMsix m) (f.tableEntry m).bar) m.bars ba
  common : ∀ c, (f.capabilities m).common = some c → f.mappedSize m c.bar ≠ none
  notify : ∀ c, (f.capabilities m).notify = some c → f.mappedSize m c.bar ≠ none

variable (f m) in
/-- MSI-X is claimed and then given up, for want of the BAR of its table. -/
structure FallsBack : Prop where
  used : f.usesMsix m = true
  maps : f.MapsAll m
  table : f.mappedSize m (f.tableEntry m).bar = none

variable (f m) in
/-- What the mapping does about the interrupt that was there before. -/
structure Mapped (d : Discovery) (result : Int32 × Discovery) : Prop where
  counted : result.2.Counted
  offset : result.2.members.msixCapOffset = d.members.msixCapOffset
  given : f.FallsBack m →
    result.2.irqs = d.irqs ++ [.release (.irq d.members.irqNum)] ∧
      result.2.members.irqNum = f.readIrq.getD d.members.irqNum
  kept : ¬ f.FallsBack m →
    result.2.irqs = d.irqs ∧ result.2.members.irqNum = d.members.irqNum ∧
      (result.1 = 0 ↔ f.MapsAll m)

/-- A mapping that stops early has nothing to do with the interrupt. -/
theorem Mapped.stopped {d : Discovery} {result : Int32 × Discovery} (counted : result.2.Counted)
    (irqs : result.2.irqs = d.irqs)
    (offset : result.2.members.msixCapOffset = d.members.msixCapOffset)
    (irqNum : result.2.members.irqNum = d.members.irqNum) (failed : result.1 ≠ 0)
    (missing : ¬ f.MapsAll m) : f.Mapped m d result where
  counted := counted
  offset := offset
  given falls := absurd falls.maps missing
  kept _ := ⟨irqs, irqNum, fun zero => absurd zero failed, fun maps => absurd maps missing⟩

/-- Only the BARs and the pointers into them are set. -/
def BarsSet (f : PciFunction) (m : PciMembers) (d d' : Discovery) : Prop :=
  d'.members = { d.members with
    bars := f.mappedSize m
    commonCfg := d'.members.commonCfg
    notifyBase := d'.members.notifyBase
    deviceCfg := d'.members.deviceCfg
    isrCfg := d'.members.isrCfg }

section Steps

variable {d d' : Discovery} (used : d.members.useMsix = f.usesMsix m)
  (offset : d.members.msixCapOffset = (f.capabilities m).msixCapOffset)

include used offset

/-- The last step, with the BARs mapped. -/
theorem programMsix_mapped (counted : d'.Counted) (irqs : d'.irqs = d.irqs)
    (members : f.BarsSet m d d') (maps : f.MapsAll m) : f.Mapped m d (f.programMsix d') := by
  have bars : d'.members.bars = f.mappedSize m := by rw [members]
  have number : d'.members.irqNum = d.members.irqNum := by rw [members]
  have uses : d'.members.useMsix = f.usesMsix m := by rw [members]; exact used
  have same : d'.members.msixCapOffset = d.members.msixCapOffset := by rw [members]
  have table : f.msixTableEntry d'.members.msixCapOffset = f.tableEntry m := by
    rw [same, offset]
    rfl
  -- in the first two cases nothing happens to the interrupt
  have stays (members' : PciMembers) (indices : List UInt8) (missing : ¬ f.FallsBack m)
      (bars' : members'.bars = d'.members.bars) (handle : members'.pciHandle = d'.members.pciHandle)
      (offset' : members'.msixCapOffset = d'.members.msixCapOffset)
      (number' : members'.irqNum = d'.members.irqNum) :
      f.Mapped m d (0, ⟨members', indices, d'.ledger⟩) := {
    counted := counted.irq (List.append_nil _).symm nofun (Accounts.pciOwn_congr bars' handle)
    offset := offset'.trans same
    given := fun falls => absurd falls missing
    kept := fun _ => ⟨irqs, number'.trans number, fun _ => maps, fun _ => rfl⟩ }
  obtain ⟨unused, skips⟩ | ⟨-, mapped, programs⟩ | ⟨takes, missing, falls⟩ :=
    f.programMsix_cases d'
  · rw [skips]
    refine stays d'.members d'.indices (fun falls => ?_) rfl rfl rfl rfl
    rw [uses, falls.used] at unused
    cases unused
  · rw [programs]
    refine stays _ _ (fun falls => ?_) rfl rfl rfl rfl
    rw [table, bars, falls.table] at mapped
    cases mapped
  · rw [falls]
    have claim : ∀ e ∈ [Entry.release (Resource.irq d'.members.irqNum)],
        e.resource.isIrq = true := by simp [Entry.resource, Resource.isIrq]
    rw [table, bars] at missing
    exact {
      counted := counted.irq rfl claim (Accounts.pciOwn_congr rfl rfl)
      offset := same
      given := fun _ => by
        rw [← irqs, ← number]
        exact ⟨Discovery.irqs_append rfl claim, rfl⟩
      kept := fun stays => absurd ⟨uses.symm.trans takes, maps, missing⟩ stays }

theorem placePointers_mapped {common notify : CapInfo}
    (hasCommon : (f.capabilities m).common = some common)
    (hasNotify : (f.capabilities m).notify = some notify) (counted : d'.Counted)
    (irqs : d'.irqs = d.irqs) (members : f.BarsSet m d d')
    (loops : ∃ bas, f.readBa = some bas ∧ ∀ ba ∈ bas,
      f.Maps (needBar (f.capabilities m) (f.usesMsix m) (f.tableEntry m).bar) m.bars ba) :
    f.Mapped m d (f.placePointers common notify (f.capabilities m) d') := by
  have bars : d'.members.bars = f.mappedSize m := by rw [members]
  have number : d'.members.irqNum = d.members.irqNum := by rw [members]
  have same : d'.members.msixCapOffset = d.members.msixCapOffset := by rw [members]
  have missing : (-enodev : Int32) ≠ 0 := by decide
  rw [placePointers]
  obtain ⟨unmapped, stops⟩ | ⟨unmapped, stops⟩ | ⟨commonBar, notifyBar, sets⟩ :=
    setPointers_cases common notify d'
  · rw [stops, next_of_failed missing]
    rw [bars] at unmapped
    exact .stopped counted irqs same number missing fun maps => maps.common _ hasCommon unmapped
  · rw [stops, next_of_failed missing]
    rw [bars] at unmapped
    exact .stopped counted irqs same number missing fun maps => maps.notify _ hasNotify unmapped
  · rw [bars] at commonBar notifyBar
    have maps : f.MapsAll m := {
      bars := loops
      common := fun c found => by
        cases hasCommon.symm.trans found
        exact Option.isSome_iff_ne_none.mp commonBar
      notify := fun c found => by
        cases hasNotify.symm.trans found
        exact Option.isSome_iff_ne_none.mp notifyBar }
    rw [sets, next_of_ok rfl]
    simp only [setOptional_device, setOptional_isr]
    apply programMsix_mapped used offset _ _ _ maps
    · exact counted
    · exact irqs
    · rw [BarsSet, members]

/-- One step after the other. -/
theorem mapDevice_mapped {common notify : CapInfo}
    (hasCommon : (f.capabilities m).common = some common)
    (hasNotify : (f.capabilities m).notify = some notify) (counted : d.Counted)
    (bars : d.members.bars = m.bars) :
    f.Mapped m d (f.mapDevice common notify (f.capabilities m) d) := by
  have table : f.msixTableEntry d.members.msixCapOffset = f.tableEntry m := by
    rw [offset]
    rfl
  unfold mapDevice
  cases read : f.readBa with
  | none =>
    refine .stopped counted rfl rfl rfl (by decide : (-eio : Int32) ≠ 0) fun maps => ?_
    obtain ⟨bas, reads, -⟩ := maps.bars
    rw [read] at reads
    cases reads
  | some bas =>
    simp only [used, table]
    let need := needBar (f.capabilities m) (f.usesMsix m) (f.tableEntry m).bar
    obtain ⟨counted', irqs⟩ : (f.mapBars need bas d).2.Counted ∧
        (f.mapBars need bas d).2.irqs = d.irqs := mapBars_counted counted
    have members := f.mapBars_members need bas d
    by_cases stopped : (f.mapBars need bas d).1 ≠ 0
    · rw [next_of_failed stopped]
      refine .stopped counted' irqs (by rw [members]) (by rw [members]) stopped fun maps => ?_
      obtain ⟨bas', reads, all⟩ := maps.bars
      cases read.symm.trans reads
      rw [← bars] at all
      exact stopped (mapBars_zero.mpr all)
    · have ok := not_not.mp stopped
      have loops := mapBars_zero.mp ok
      rw [bars] at loops
      have mapped : (f.mapBars need bas d).2.members =
        { d.members with bars := f.mappedSize m } := by
        rw [(mapBars_ok ok).1, bars, mappedSize, read]
        rfl
      rw [next_of_ok ok]
      apply placePointers_mapped used offset hasCommon hasNotify counted' irqs
      · rw [BarsSet, mapped]
      · exact ⟨bas, read, loops⟩

end Steps

/-! ### A whole discovery -/

variable (f m) in
/-- What becomes of the interrupt in a discovery. -/
inductive Claim (result : Int32 × Discovery) : Prop where
  | unreached (reaches : f.reaches m = false) (failed : result.1 ≠ 0)
    (irqs : result.2.irqs = []) (irqNum : result.2.members.irqNum = m.irqNum)
  | legacy (reaches : f.reaches m = true) (refused : f.usesMsix m = false)
    (irqs : result.2.irqs = []) (irqNum : result.2.members.irqNum = f.readIrq.getD m.irqNum)
    (offset : result.2.members.msixCapOffset = (f.capabilities m).msixCapOffset)
  | fallback (reaches : f.reaches m = true) (falls : f.FallsBack m)
    (irqs : result.2.irqs = [.acquire (.irq msiIrq), .release (.irq msiIrq)])
    (irqNum : result.2.members.irqNum = f.readIrq.getD msiIrq)
    (offset : result.2.members.msixCapOffset = (f.capabilities m).msixCapOffset)
  | held (reaches : f.reaches m = true) (used : f.usesMsix m = true) (stays : ¬ f.FallsBack m)
    (irqs : result.2.irqs = [.acquire (.irq msiIrq)])
    (irqNum : result.2.members.irqNum = msiIrq)
    (offset : result.2.members.msixCapOffset = (f.capabilities m).msixCapOffset)
    (zero : result.1 = 0 ↔ f.MapsAll m)

/-- A discovery with members that hold nothing. -/
theorem discoverDevice_claim (unused : m.useMsix = false)
    (free : ∀ r, Accounts.pciOwn m r = false) :
    (f.discoverDevice m).2.Counted ∧ f.Claim m (f.discoverDevice m) := by
  have detached : m.pciHandle = false := free .pciHandle
  obtain ⟨stops, failed, members, handle⟩ | ⟨common, notify, hasCommon, hasNotify,
    reaches, claims⟩ :=
    f.discoverDevice_cases m
  · constructor
    · exact .of_handle free (by rw [members]) (handle detached)
    · apply Claim.unreached stops failed
      · obtain ⟨-, ledger⟩ | ⟨-, ledger⟩ := handle detached <;> rw [Discovery.irqs, ledger] <;> rfl
      · rw [members]
  · have attached : (f.attachedTo m).Counted := .of_handle free rfl (.inr ⟨rfl, rfl⟩)
    have uses := usesMsix_iff (f := f) unused
    have taken := f.claimInterrupt_cases (d := f.attachedTo m) unused
    rw [claims]
    by_cases claimed : (f.capabilities m).msixCapOffset ≠ 0 ∧ f.claimed = true
    · let d : Discovery := ⟨{ (f.attachedTo m).members with irqNum := msiIrq, useMsix := true },
        [], [.acquire .pciHandle, .acquire (.irq msiIrq)]⟩
      have claims' : f.claimInterrupt (f.attachedTo m) = (0, d) := (if_pos claimed).mp taken
      have ledger : d.ledger = (f.attachedTo m).ledger ++ [.acquire (.irq msiIrq)] := rfl
      have counted : d.Counted :=
        attached.irq ledger (by simp [Entry.resource, Resource.isIrq]) fun _ => rfl
      have used := uses.mpr claimed
      rw [claims', next_of_ok rfl]
      have mapped := mapDevice_mapped (d := d) used.symm rfl hasCommon hasNotify counted rfl
      refine ⟨mapped.counted, ?_⟩
      by_cases falls : f.FallsBack m
      · obtain ⟨irqs, irqNum⟩ := mapped.given falls
        exact .fallback reaches falls irqs irqNum mapped.offset
      · obtain ⟨irqs, irqNum, zero⟩ := mapped.kept falls
        exact .held reaches used falls irqs irqNum mapped.offset zero
    · have refused : f.usesMsix m = false := Bool.eq_false_iff.mpr fun used =>
        claimed (uses.mp used)
      rw [show f.claimInterrupt (f.attachedTo m) = _ from (if_neg claimed).mp taken, readIntx_eq]
      cases read : f.readIrq with
      | none =>
        rw [next_of_failed (by decide : (-eio : Int32) ≠ 0)]
        exact ⟨attached, .legacy reaches refused rfl (by rw [read]; rfl) rfl⟩
      | some n =>
        let d := (f.attachedTo m).on fun m => { m with irqNum := n }
        rw [next_of_ok rfl]
        have mapped := mapDevice_mapped (d := d) (unused.trans refused.symm) rfl hasCommon hasNotify
          attached rfl
        obtain ⟨irqs, irqNum, -⟩ := mapped.kept fun falls =>
          absurd (falls.used.symm.trans refused) (by decide)
        refine ⟨mapped.counted, .legacy reaches refused irqs ?_ mapped.offset⟩
        rw [read]
        exact irqNum

end PciFunction

end Virtio9p
