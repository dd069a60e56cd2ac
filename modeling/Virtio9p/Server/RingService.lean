import Virtio9p.Properties.DmaDelivery
import Virtio9p.Resmgr.FsMain
import Virtio9p.Server.DmaServer
import Virtio9p.Transport.MmioAccess
import Virtio9p.Transport.PciDiscovery

/-!
# The transports of FsVirtio9pMain

The two transports with their rings as what the driver's main program chooses from, in a machine
whose devices are initialized with any outcome.
-/
namespace Virtio9p

/-- `GetMountTag` of both transports reads up to 256 bytes. -/
theorem tagLen_le {tagLen : UInt16} (given : ¬ (tagLen = 0 ∨ tagLen > 256)) :
    tagLen.toNat ≤ 256 := by
  have least : tagLen ≤ 256 := UInt16.not_lt.mp fun more => given (.inr more)
  exact UInt16.le_iff_toNat_le.mp least

theorem LoggedMmio.readTag_length (tag : Nat → UInt8) (left i : Nat) (l : LoggedMmio) :
    (readTag tag left i l).1.length = left := by
  induction left generalizing i l with
  | zero => rfl
  | succ left ih =>
    rw [readTag, List.length_cons, ih]

theorem LoggedMmio.getMountTag_short {tagLen : UInt16} {tag : Nat → UInt8} {l : LoggedMmio}
    {bytes : Bytes} (read : (l.getMountTag tagLen tag).1 = .ok bytes) : bytes.length ≤ 256 := by
  unfold getMountTag at read
  simp only at read
  split_ifs at read with unmapped refused
  cases read
  rw [readTag_length]
  exact tagLen_le refused

theorem PciMembers.getMountTag_short {tagLen : UInt16} {tag : Nat → UInt8} {m : PciMembers}
    {bytes : Bytes} (read : (m.getMountTag tagLen tag).1 = .ok bytes) : bytes.length ≤ 256 := by
  unfold getMountTag at read
  split_ifs at read with missing refused
  cases read
  rw [List.length_map, List.length_range]
  exact tagLen_le refused

/-- What the n-th start finds. -/
structure RingMachine (S : Type) where
  mmio : Nat → MmioOutcome
  mmioRoom : ∀ n, MmioTransport.queueSize (mmio n).setup.queueNumMax ≠ 1
  pci : Nat → PciOutcome
  pciRoom : ∀ n, PciTransport.queueSize (pci n).setup.queueNumMax.toUInt16 ≠ 1
  /-- The members that the discovery of the PCI device has left. -/
  members : PciMembers
  memory : Nat → Memory UInt8
  server : Nat → S
  tagLen : UInt16
  tag : Nat → UInt8

section Service

variable {S : Type} (machine : RingMachine S) (serve : Bytes → S → Bytes × S)
  {plan : Nat → Window} (prompt : ∀ n, (plan n).Prompt) (resets : Nat → SetupOutcome)

abbrev MountedRings (S : Type) := Attended MmioRegs.regs S ⊕ Attended PciRegs.commonCfg S

def RingMachine.initializeTransport (n : Nat) : TransportChoice → Except Int32 (MountedRings S)
  | .mmio _ _ =>
    if done : (MmioTransport.initializeTransport (machine.mmio n) MmioTransport.fresh).1 = 0 then
      .ok (.inl ⟨_, 0, mmio_initialize_attending done (machine.mmioRoom n) (machine.memory n)
        (machine.server n)⟩)
    else .error (MmioTransport.initializeTransport (machine.mmio n) MmioTransport.fresh).1
  | .pci =>
    if done : (PciTransport.initializeTransport (machine.pci n) PciTransport.fresh).1 = 0 then
      .ok (.inr ⟨_, 0, pci_initialize_attending done (machine.pciRoom n) (machine.memory n)
        (machine.server n)⟩)
    else .error (PciTransport.initializeTransport (machine.pci n) PciTransport.fresh).1

def RingMachine.getMountTag : MountedRings S → Except Int32 Bytes
  | .inl s => (LoggedMmio.getMountTag machine.tagLen machine.tag ⟨s.wired.transport, []⟩).1
  | .inr _ => (machine.members.getMountTag machine.tagLen machine.tag).1

/-- `Exchange` of the transport that was chosen. -/
def ringTransport : Transport (MountedRings S) where
  exchange request
    | .inl s =>
      let result := (dmaTransport MmioTransport.dmaLaws prompt resets serve).exchange request s
      (result.1, .inl result.2)
    | .inr s =>
      let result := (dmaTransport PciTransport.dmaLaws prompt resets serve).exchange request s
      (result.1, .inr result.2)

def ringService : TransportService (MountedRings S) where
  initializeTransport := machine.initializeTransport
  getMountTag := machine.getMountTag
  transport := ringTransport serve prompt resets
  tag_short s tag read := by
    cases s with
    | inl s => exact LoggedMmio.getMountTag_short read
    | inr s => exact PciMembers.getMountTag_short read

/-- The server behind the rings. -/
def MountedRings.server (s : MountedRings S) : S :=
  s.elim (·.wired.host.server) (·.wired.host.server)

/-- The driver is mounted on transports without failures if the devices serve each request before
they raise their interrupt. -/
theorem ringService_provides {ν φ : Type} (f : FileService ν φ)
    (machine : RingMachine (ServiceState ν φ)) :
    (ringService machine f.serveBytes prompt resets).transport.Provides f MountedRings.server := by
  constructor
  intro s tag r sendable
  cases s with
  | inl s =>
    obtain ⟨s', exchanged, after⟩ := (dmaTransport_provides MmioTransport.dmaLaws prompt resets
      f).serves s tag r sendable
    exact ⟨.inl s', congrArg (fun result => (result.1, Sum.inl result.2)) exchanged, after⟩
  | inr s =>
    obtain ⟨s', exchanged, after⟩ := (dmaTransport_provides PciTransport.dmaLaws prompt resets
      f).serves s tag r sendable
    exact ⟨.inr s', congrArg (fun result => (result.1, Sum.inr result.2)) exchanged, after⟩

end Service

end Virtio9p
