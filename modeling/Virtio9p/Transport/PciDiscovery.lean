import Virtio9p.Foundation.Extent
import Virtio9p.Foundation.Ledger
import Virtio9p.Transport.Setup

/-!
# PciTransportImpl::DiscoverDevice

The scan of the configuration space for capabilities, the MSI-X interrupt, the mapping of the
BARs and the pointers into them. What the PCI server and the resource database answer comes in as
a `PciFunction`. A pointer into a BAR is the index into `bar_virt_` it was made with, and an
offset.
-/
namespace Virtio9p

/-! ### Resources -/

/-- What the operating system hands out to a transport. -/
inductive Resource where
  | registers
  | bar (n : UInt8)
  | pciHandle
  /-- An interrupt claimed from the resource database. -/
  | irq (n : UInt32)
  /-- The block of a legacy queue, and the parts of a modern one. -/
  | ringBlock
  | ringDesc
  | ringAvail
  | ringUsed
  | request
  | response
  | channel
  | connection
  | interrupt
  deriving DecidableEq, Repr

/-! ### What is found -/

/-- A base address register. -/
structure PciBa where
  barNum : UInt32
  size : UInt64
  deriving DecidableEq, Repr

/-- `map_size`: a BAR that was not sized has one page. -/
def PciBa.mapSize (ba : PciBa) : UInt64 := if ba.size = 0 then 4096 else ba.size

structure PciFunction where
  /-- `pci_device_find` -/
  found : Bool
  /-- `pci_device_cfg_rd32`; a read that fails leaves the 0 that the variable was set to. -/
  config : Nat → Option UInt32
  attached : Bool
  command : Option UInt16
  commandWritten : Bool
  /-- `rsrcdbmgr_attach` grants the MSI interrupt. -/
  claimed : Bool
  /-- `pci_device_read_irq` -/
  readIrq : Option UInt32
  /-- One of the two `pci_device_cfg_wr16` that enable MSI-X takes effect. -/
  msixWritten : Bool
  /-- `pci_device_read_ba` -/
  readBa : Option (List PciBa)
  /-- `mmap_device_memory` fails for a BAR. -/
  unmapped : UInt8 → Option Errno

structure CapInfo where
  bar : UInt8
  offset : UInt32
  length : UInt32
  deriving DecidableEq, Repr

/-- A pointer into a BAR. -/
structure BarPointer where
  bar : UInt8
  offset : UInt32
  deriving DecidableEq, Repr

def CapInfo.pointer (info : CapInfo) : BarPointer := ⟨info.bar, info.offset⟩

/-- The members that `DiscoverDevice` works with. -/
structure PciMembers where
  /-- `pci_handle_` is not null. -/
  pciHandle : Bool
  irqNum : UInt32
  useMsix : Bool
  msixCapOffset : UInt32
  notifyMultiplier : UInt32
  /-- `bar_virt_` and `bar_size_`: the size of each mapped BAR. From 6 on it is what lies behind
  the array. -/
  bars : UInt8 → Option UInt64
  commonCfg : Option BarPointer
  notifyBase : Option BarPointer
  deviceCfg : Option BarPointer
  isrCfg : Option BarPointer
  /-- `msix_table_`, entry 0 -/
  msixTable : Option BarPointer
  /-- The MSI-X enable bit of the configuration space. -/
  msixEnable : Bool
  /-- `kQueueMsixVector` of queue 0, as the device keeps it; 0xFFFF is no vector. -/
  queueVector : UInt16

/-- The members that the constructor leaves, for a function with the MSI-X enable bit `enabled`. -/
def PciMembers.fresh (enabled : Bool) : PciMembers where
  pciHandle := false
  irqNum := 0
  useMsix := false
  msixCapOffset := 0
  notifyMultiplier := 0
  bars := fun _ => none
  commonCfg := none
  notifyBase := none
  deviceCfg := none
  isrCfg := none
  msixTable := none
  msixEnable := enabled
  queueVector := 0xFFFF

/-- The members, and as ghosts the indices that were used into `bar_virt_` and the ledger. -/
structure Discovery where
  members : PciMembers
  indices : List UInt8
  ledger : List (Ledger.Entry Resource)

namespace Discovery

def on (f : PciMembers → PciMembers) (d : Discovery) : Discovery :=
  { d with members := f d.members }

def enter (entry : Ledger.Entry Resource) (d : Discovery) : Discovery :=
  { d with ledger := d.ledger ++ [entry] }

/-- `bar_virt_[bar] != nullptr` -/
def hasBar (bar : UInt8) (d : Discovery) : Bool × Discovery :=
  ((d.members.bars bar).isSome, { d with indices := d.indices ++ [bar] })

end Discovery

/-! ### The scan -/

structure Capabilities where
  common : Option CapInfo
  notify : Option CapInfo
  device : Option CapInfo
  isr : Option CapInfo
  msixCapOffset : UInt32
  notifyMultiplier : UInt32
  deriving DecidableEq, Repr

namespace PciFunction

/-- `pci_device_cfg_rd32` into a variable that is 0. -/
def read (f : PciFunction) (offset : Nat) : UInt32 := (f.config offset).getD 0

/-- The capability of which `offset` is the header, with the type `cfgType`. -/
def addCapability (f : PciFunction) (offset : Nat) (cfgType capLen : UInt8) (c : Capabilities) :
    Capabilities :=
  let info : CapInfo :=
    ⟨(f.read (offset + 4)).toUInt8, f.read (offset + 8), f.read (offset + 12)⟩
  if cfgType = 1 then { c with common := some info }
  else if cfgType = 2 then
    { c with
      notify := some info
      notifyMultiplier := if 20 ≤ capLen then f.read (offset + 16) else c.notifyMultiplier }
  else if cfgType = 4 then { c with device := some info }
  else if cfgType = 3 then { c with isr := some info }
  else c

/-- The dwords from `offset` on, at most `dwords` of them. -/
def scan (f : PciFunction) : Nat → Nat → Capabilities → Capabilities
  | 0, _, c => c
  | dwords + 1, offset, c =>
    if 0xFC < offset then c
    else
      match f.config offset with
      | none => scan f dwords (offset + 4) c
      | some hdr0 =>
        let capId := hdr0.toUInt8
        let capLen := (hdr0 >>> 16).toUInt8
        let cfgType := (hdr0 >>> 24).toUInt8
        if capId = 0x11 then
          scan f dwords (offset + 4) { c with msixCapOffset := UInt32.ofNat offset }
        else if capId ≠ 0x09 then scan f dwords (offset + 4) c
        else if cfgType < 1 ∨ cfgType > 5 ∨ capLen < 16 then scan f dwords (offset + 4) c
        else
          -- behind the data of the capability
          let capDwords := (capLen.toNat + 3) / 4
          scan f dwords (offset + 4 * capDwords) (f.addCapability offset cfgType capLen c)

/-- 0x40 to 0xFC has 48 dwords. -/
def capabilities (f : PciFunction) (m : PciMembers) : Capabilities :=
  f.scan 48 0x40 ⟨none, none, none, none, m.msixCapOffset, m.notifyMultiplier⟩

end PciFunction

/-! ### DiscoverDevice -/

/-- Go on if the step before returned 0. -/
def Discovery.next (result : Int32 × Discovery) (rest : Discovery → Int32 × Discovery) :
    Int32 × Discovery :=
  if result.1 ≠ 0 then result else rest result.2

/-- The interrupt of the first MSI vector. -/
def msiIrq : UInt32 := 0x100

namespace PciFunction

open Discovery

variable (f : PciFunction)

/-- `msix_table_bar` and `msix_table_offset` -/
def msixTableEntry (msixCapOffset : UInt32) : BarPointer :=
  if msixCapOffset = 0 then ⟨0, 0⟩
  else
    let tableBirOff := f.read (msixCapOffset.toNat + 4)
    ⟨(tableBirOff &&& 0x07).toUInt8, tableBirOff &&& ~~~0x07⟩

def attachDevice (d : Discovery) : Int32 × Discovery :=
  if f.attached then (0, (d.on fun m => { m with pciHandle := true }).enter (.acquire .pciHandle))
  else (-eio, d.on fun m => { m with pciHandle := false })

/-- Memory space and bus master are enabled. -/
def enableCommand (d : Discovery) : Int32 × Discovery :=
  match f.command with
  | none => (0, d)
  | some cmd => if cmd &&& 0x06 ≠ 0x06 ∧ f.commandWritten = false then (-eio, d) else (0, d)

def claimMsix (d : Discovery) : Discovery :=
  if d.members.msixCapOffset ≠ 0 ∧ f.claimed then
    (d.on fun m => { m with irqNum := msiIrq, useMsix := true }).enter (.acquire (.irq msiIrq))
  else d

/-- The legacy interrupt. -/
def readIntx (d : Discovery) : Int32 × Discovery :=
  match f.readIrq with
  | none => (-eio, d)
  | some n => (0, d.on fun m => { m with irqNum := n })

/-- `irq_num_` is the claimed interrupt, or else the legacy one. -/
def claimInterrupt (d : Discovery) : Int32 × Discovery :=
  let d := f.claimMsix d
  if d.members.useMsix then (0, d) else f.readIntx d

/-- `need_this_bar` -/
def needBar (caps : Capabilities) (useMsix : Bool) (msixTableBar bar : UInt8) : Bool :=
  caps.common.map CapInfo.bar = some bar ∨ caps.notify.map CapInfo.bar = some bar ∨
    caps.device.map CapInfo.bar = some bar ∨ caps.isr.map CapInfo.bar = some bar ∨
    (useMsix ∧ bar = msixTableBar)

/-- The mapping loop. -/
def mapBars (need : UInt8 → Bool) : List PciBa → Discovery → Int32 × Discovery
  | [], d => (0, d)
  | ba :: bas, d =>
    let bar := ba.barNum.toUInt8
    -- an index that is checked
    if 6 ≤ bar then mapBars need bas d
    else
      let mapped := d.hasBar bar
      if mapped.1 then mapBars need bas mapped.2
      else if need bar = false then mapBars need bas mapped.2
      else
        match f.unmapped bar with
        | some errno => (-errno.val, mapped.2)
        | none =>
          mapBars need bas ((mapped.2.on fun m => { m with
            bars := Function.update m.bars bar (some ba.mapSize) }).enter (.acquire (.bar bar)))

/-- `common_cfg_` and `notify_base_`; `-ENODEV` if their BARs are not mapped. -/
def setPointers (common notify : CapInfo) (d : Discovery) : Int32 × Discovery :=
  let d := d.hasBar common.bar
  if d.1 = false then (-enodev, d.2)
  else
    let d := (d.2.on fun m => { m with commonCfg := some common.pointer }).hasBar
      notify.bar
    if d.1 = false then (-enodev, d.2)
    else (0, d.2.on fun m => { m with notifyBase := some notify.pointer })

/-- `device_cfg_` and `isr_cfg_` are set if they are found and their BARs mapped. -/
def setOptional (info : Option CapInfo) (set : BarPointer → PciMembers → PciMembers)
    (d : Discovery) : Discovery :=
  match info with
  | none => d
  | some c =>
    let d := d.hasBar c.bar
    if d.1 then d.2.on (set c.pointer) else d.2

/-- Program the MSI-X table and enable MSI-X, or fall back to the legacy interrupt. -/
def programMsix (d : Discovery) : Int32 × Discovery :=
  if d.members.useMsix = false then (0, d)
  else
    let entry := f.msixTableEntry d.members.msixCapOffset
    let d := d.hasBar entry.bar
    if d.1 then
      -- nobody looks at what the writes return
      (0, d.2.on fun m =>
        { m with msixTable := some entry, msixEnable := m.msixEnable || f.msixWritten })
    else
      f.readIntx ((d.2.enter (.release (.irq d.2.members.irqNum))).on fun m =>
        { m with useMsix := false })

/-- The pointers into the BARs, and the MSI-X table. -/
def placePointers (common notify : CapInfo) (caps : Capabilities) (d : Discovery) :
    Int32 × Discovery :=
  next (setPointers common notify d) fun d =>
  let d := setOptional caps.device (fun p m => { m with deviceCfg := some p }) d
  let d := setOptional caps.isr (fun p m => { m with isrCfg := some p }) d
  f.programMsix d

def mapDevice (common notify : CapInfo) (caps : Capabilities) (d : Discovery) :
    Int32 × Discovery :=
  match f.readBa with
  | none => (-eio, d)
  | some bas =>
    let tableBar := (f.msixTableEntry d.members.msixCapOffset).bar
    next (f.mapBars (needBar caps d.members.useMsix tableBar) bas d)
      (f.placePointers common notify caps)

def discoverDevice (m : PciMembers) : Int32 × Discovery :=
  let d : Discovery := ⟨m, [], []⟩
  if f.found = false then (-enodev, d)
  else
    let caps := f.capabilities m
    let d := d.on fun m => { m with
      msixCapOffset := caps.msixCapOffset, notifyMultiplier := caps.notifyMultiplier }
    match caps.common, caps.notify with
    | some common, some notify =>
      next (f.attachDevice d) fun d =>
      next (f.enableCommand d) fun d =>
      next (f.claimInterrupt d) fun d =>
      f.mapDevice common notify caps d
    | _, _ => (-enodev, d)

end PciFunction

/-! ### GetMountTag -/

/-- `GetMountTag` of a configuration space with the given length and bytes, and what it reads
behind `device_cfg_`. -/
def PciMembers.getMountTag (tagLen : UInt16) (tag : Nat → UInt8) (m : PciMembers) :
    Except Int32 Bytes × List Extent :=
  if m.deviceCfg = none then (.error (-einval), [])
  else if tagLen = 0 ∨ tagLen > 256 then (.error (-einval), [⟨0, 2⟩])
  else
    (.ok ((List.range tagLen.toNat).map tag),
      ⟨0, 2⟩ :: (List.range tagLen.toNat).map fun i => ⟨2 + i, 1⟩)

end Virtio9p
