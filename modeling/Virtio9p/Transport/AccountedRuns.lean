import Virtio9p.Transport.AccountSteps
import Virtio9p.Transport.MmioTransport
import Virtio9p.Transport.PciTransportImpl

/-!
# Runs with a ledger

`Initialize` and `Shutdown` of both transports with the ledger, and the runs from a transport
that was just constructed to its destructor.
-/
namespace Virtio9p

open Ledger (Entry releases)

/-- A call between `Initialize` and `Shutdown`. -/
inductive AccountedCall where
  | resetDevice (failure : RingFailure) (o : SetupOutcome)
  | exchange (failure : RingFailure) (x : ExchangeInput)

def AccountedCall.run {κ : Type} (impl : TransportImpl κ) (made : QueueMade κ) :
    AccountedCall → Accounts κ → Accounts κ
  | .resetDevice failure o, a => (a.resetDevice impl made failure o).2
  | .exchange failure x, a => (a.exchange impl made failure x).2

namespace Accounts

/-! ### MmioTransportImpl -/

/-- `regs_` -/
def mmioOwn (m : MmioRegs) : Resource → Bool
  | .registers => m.regs
  | _ => false

def mmioMade : QueueMade MmioRegs := fun o t =>
  if MmioTransport.readReg o.queueNumMax t = 0 then none
  else if t.own.mmioVersion = 1 then some .legacy else some .modern

def mmioShutdown (a : Accounts MmioRegs) : Accounts MmioRegs :=
  let a := a.release.on MmioTransport.clearStatus
  let a := (a.enter (releases (mmioOwn a.transport.own) [.registers])).on fun t =>
    { t with own := { t.own with regs := false } }
  a.resetQueue

def mmioInitialize (failure : RingFailure) (o : MmioOutcome) (a : Accounts MmioRegs) :
    Int32 × Accounts MmioRegs :=
  match o.unmapped with
  | some errno =>
    (-errno.val,
      a.on fun t => { t with own := { t.own with regs := false }, completed := false })
  | none =>
    let a := (a.enter [.acquire .registers]).on fun t =>
      { t with own := { t.own with regs := true }, completed := false }
    if o.magic ≠ 0x74726976 then (-enodev, a.mmioShutdown)
    else if o.deviceId ≠ 9 then (-enodev, a.mmioShutdown)
    else
      let result := a.initializeDevice MmioTransport.impl mmioMade failure o.setup
      if result.1 ≠ 0 then (result.1, result.2.mmioShutdown)
      else (0, result.2.on fun t => { t with completed := true })

/-- `Initialize`, the calls, `shutdowns` times `Shutdown` and the destructor. -/
def mmioRun (failure : RingFailure) (o : MmioOutcome) (calls : List AccountedCall)
    (shutdowns : Nat) : Accounts MmioRegs :=
  let up := (mmioInitialize failure o ⟨MmioTransport.fresh, .none, []⟩).2
  let called := calls.foldl (fun a call => call.run MmioTransport.impl mmioMade a) up
  mmioShutdown^[shutdowns + 1] called

/-! ### PciTransportImpl -/

/-- `bar_virt_` and `pci_handle_`. The members do not tell whether an interrupt is claimed. -/
def pciOwn (m : PciMembers) : Resource → Bool
  | .bar n => n < 6 && (m.bars n).isSome
  | .pciHandle => m.pciHandle
  | _ => false

@[simp] theorem pciOwn_bar (m : PciMembers) (n : UInt8) :
    pciOwn m (.bar n) = (n < 6 && (m.bars n).isSome) := rfl

def pciMade : QueueMade PciMembers := fun o t =>
  if t.own.commonCfg = none then none
  else if o.queueNumMax.toUInt16 = 0 then none else some .modern

/-- In the order in which `Shutdown` gives them back. -/
def barsAndHandle : List Resource :=
  [.bar 0, .bar 1, .bar 2, .bar 3, .bar 4, .bar 5, .pciHandle]

/-- `rsrcdbmgr_detach`, for any interrupt number if there is an MSI-X capability. -/
def detachLog (m : PciMembers) : List (Entry Resource) :=
  if m.irqNum ≠ 0 ∧ m.msixCapOffset ≠ 0 then [.release (.irq m.irqNum)] else []

def pciShutdown (a : Accounts PciMembers) : Accounts PciMembers :=
  let a := a.release.on PciTransportImpl.clearStatus
  let m := a.transport.own
  let a := (a.enter (detachLog m ++ releases (pciOwn m) barsAndHandle)).on fun t =>
    { t with own := PciTransportImpl.closeMembers t.own }
  a.resetQueue

def pciInitialize (f : PciFunction) (refused : Bool) (failure : RingFailure) (o : SetupOutcome)
    (a : Accounts PciMembers) : Int32 × Accounts PciMembers :=
  let discovered := f.discoverDevice a.transport.own
  let a := (a.enter discovered.2.ledger).on fun t =>
    { t with own := discovered.2.members, completed := false }
  if discovered.1 ≠ 0 then (discovered.1, a)
  else
    let result := a.initializeDevice (PciTransportImpl.impl refused) pciMade failure o
    if result.1 ≠ 0 then (result.1, result.2.pciShutdown)
    else (0, result.2.on fun t => { t with completed := true })

/-- The same for a function with the MSI-X enable bit `enabled`; a call comes with the answer of
the device to its vector. -/
def pciRun (f : PciFunction) (enabled refused : Bool) (failure : RingFailure) (o : SetupOutcome)
    (calls : List (Bool × AccountedCall)) (shutdowns : Nat) : Accounts PciMembers :=
  let up := (pciInitialize f refused failure o ⟨PciTransportImpl.fresh enabled, .none, []⟩).2
  let called := calls.foldl
    (fun a call => call.2.run (PciTransportImpl.impl call.1) pciMade a) up
  pciShutdown^[shutdowns + 1] called

/-! ### Either of them -/

inductive TransportRun where
  | mmio (failure : RingFailure) (o : MmioOutcome) (calls : List AccountedCall) (shutdowns : Nat)
  | pci (f : PciFunction) (enabled refused : Bool) (failure : RingFailure) (o : SetupOutcome)
    (calls : List (Bool × AccountedCall)) (shutdowns : Nat)

/-- What is acquired and released from the constructor to the destructor. -/
def TransportRun.ledger : TransportRun → List (Entry Resource)
  | .mmio failure o calls shutdowns => (mmioRun failure o calls shutdowns).ledger
  | .pci f enabled refused failure o calls shutdowns =>
    (pciRun f enabled refused failure o calls shutdowns).ledger

/-! ### The ledger changes nothing -/

/-- The end of `Initialize`. -/
theorem finish_transport {κ : Type} {shut : Accounts κ → Accounts κ}
    {shut' : TransportState κ → TransportState κ}
    (same : ∀ a, (shut a).transport = shut' a.transport) {result : Int32 × Accounts κ}
    {plain : Int32 × TransportState κ} (setup : (result.1, result.2.transport) = plain) :
    let finished := if result.1 ≠ 0 then (result.1, shut result.2)
      else ((0 : Int32), result.2.on fun t => { t with completed := true })
    (finished.1, finished.2.transport) = if plain.1 ≠ 0 then (plain.1, shut' plain.2)
      else (0, { plain.2 with completed := true }) := by
  subst setup
  by_cases failed : result.1 ≠ 0
  · simp only [if_pos failed, same]
  · simp only [if_neg failed]
    rfl

theorem mmioShutdown_transport (a : Accounts MmioRegs) :
    a.mmioShutdown.transport = MmioTransport.shutdown a.transport := rfl

theorem mmioInitialize_transport (failure : RingFailure) (o : MmioOutcome)
    (a : Accounts MmioRegs) :
    ((a.mmioInitialize failure o).1, (a.mmioInitialize failure o).2.transport) =
      MmioTransport.initializeTransport o a.transport := by
  unfold mmioInitialize MmioTransport.initializeTransport
  cases o.unmapped with
  | some errno => rfl
  | none =>
    have setup := initializeDevice_transport MmioTransport.impl mmioMade
      ((a.enter [.acquire .registers]).on fun t =>
        { t with own := { t.own with regs := true }, completed := false }) failure o.setup
    simp only
    split
    · rfl
    · split
      · rfl
      · exact finish_transport mmioShutdown_transport setup

theorem pciShutdown_transport (a : Accounts PciMembers) :
    a.pciShutdown.transport = PciTransportImpl.shutdown a.transport := rfl

theorem pciInitialize_transport (f : PciFunction) (refused : Bool) (failure : RingFailure)
    (o : SetupOutcome) (a : Accounts PciMembers) :
    ((a.pciInitialize f refused failure o).1, (a.pciInitialize f refused failure o).2.transport) =
      PciTransportImpl.initializeTransport f refused o a.transport := by
  have setup := initializeDevice_transport (PciTransportImpl.impl refused) pciMade
    ((a.enter (f.discoverDevice a.transport.own).2.ledger).on fun t =>
      { t with own := (f.discoverDevice a.transport.own).2.members, completed := false }) failure o
  unfold pciInitialize PciTransportImpl.initializeTransport
  simp only
  split
  · rfl
  · exact finish_transport pciShutdown_transport setup

end Accounts

end Virtio9p
