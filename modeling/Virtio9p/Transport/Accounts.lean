import Virtio9p.Transport.PciDiscovery
import Virtio9p.Transport.Refinement

/-!
# Transports with a ledger

The member functions that both transports have, with a ledger of what they acquire from the
operating system and release. A function does the same with the ledger as without it.
-/
namespace Virtio9p

open Ledger (Entry releases)

/-- An interrupt number that is claimed, apart from its attachment. -/
def Resource.isIrq : Resource → Bool
  | .irq _ => true
  | _ => false

/-! ### The memory of a queue -/

/-- The pointers of a `Virtqueue` that are not null. -/
inductive RingHeld where
  /-- `base_virt_`; the others point into it. -/
  | legacy (base : Bool)
  | modern (desc avail used : Bool)
  deriving DecidableEq, Repr

/-- The two calls of `AllocDma`. -/
inductive DmaStep where
  | map
  | offset
  deriving DecidableEq, Repr

inductive QueuePart where
  | desc
  | avail
  | used
  deriving DecidableEq, Repr

/-- The allocation that fails if one does, and where. -/
structure RingFailure where
  part : QueuePart
  step : DmaStep
  deriving DecidableEq, Repr

inductive QueueKind where
  | legacy
  | modern
  deriving DecidableEq, Repr

namespace RingHeld

def none : RingHeld := .modern false false false

def holds : RingHeld → Resource → Bool
  | .legacy base, .ringBlock => base
  | .modern desc _ _, .ringDesc => desc
  | .modern _ avail _, .ringAvail => avail
  | .modern _ _ used, .ringUsed => used
  | _, _ => false

/-- The resources that a queue can hold. -/
def parts : List Resource := [.ringBlock, .ringDesc, .ringAvail, .ringUsed]

/-- `~Virtqueue`: `FreeDma` for each pointer that is not null. -/
def free (ring : RingHeld) : List (Entry Resource) := releases ring.holds parts

end RingHeld

/-- `AllocDma`: a mapping without an offset is given back. -/
def allocDma (r : Resource) (failure : Option DmaStep) : Bool × List (Entry Resource) :=
  match failure with
  | some .map => (false, [])
  | some .offset => (false, [.acquire r, .release r])
  | none => (true, [.acquire r])

/-- `InitializeLegacy` -/
def allocLegacy (failure : Option RingFailure) : RingHeld × List (Entry Resource) :=
  let base := allocDma .ringBlock (failure.map RingFailure.step)
  (.legacy base.1, base.2)

/-- `Initialize`; what was allocated before the failure is freed in reverse. -/
def allocModern (failure : Option RingFailure) : RingHeld × List (Entry Resource) :=
  let fails (part : QueuePart) := (failure.filter (·.part = part)).map RingFailure.step
  let desc := allocDma .ringDesc (fails .desc)
  if desc.1 = false then (.none, desc.2)
  else
    let avail := allocDma .ringAvail (fails .avail)
    if avail.1 = false then (.none, desc.2 ++ avail.2 ++ [.release .ringDesc])
    else
      let used := allocDma .ringUsed (fails .used)
      if used.1 = false then
        (.none, desc.2 ++ avail.2 ++ used.2 ++ [.release .ringAvail, .release .ringDesc])
      else (.modern true true true, desc.2 ++ avail.2 ++ used.2)

def QueueKind.alloc (failure : Option RingFailure) : QueueKind → RingHeld × List (Entry Resource)
  | .legacy => allocLegacy failure
  | .modern => allocModern failure

/-! ### The buffers and the interrupt -/

namespace TransportState

variable {κ : Type}

/-- A handle that is not -1, and a buffer that is not null. -/
def holds (t : TransportState κ) : Resource → Bool
  | .interrupt => 0 ≤ t.irqId
  | .connection => 0 ≤ t.coid
  | .channel => 0 ≤ t.chid
  | .request => t.dmaReqVirt.isSome
  | .response => t.dmaRespVirt.isSome
  | _ => false

/-- In the order in which they are given back. -/
def handles : List Resource := [.interrupt, .connection, .channel, .request, .response]

/-- What `release` gives back. -/
def releaseLog (t : TransportState κ) : List (Entry Resource) := releases t.holds handles

def attachLog (o : SetupOutcome) : List (Entry Resource) :=
  if o.stop = some .channelCreate then []
  else .acquire .channel ::
    if o.stop = some .connectAttach then []
    else .acquire .connection ::
      if o.stop = some .interruptAttach then [] else [.acquire .interrupt]

/-- What `mapBuffers` acquires. -/
def mapLog (o : SetupOutcome) : List (Entry Resource) :=
  if o.stop = some .mapRequest then []
  else .acquire .request ::
    if o.stop = some .requestOffset then []
    else if o.stop = some .mapResponse then []
    else .acquire .response :: if o.stop = some .responseOffset then [] else attachLog o

end TransportState

/-! ### The member functions -/

structure Accounts (κ : Type) where
  transport : TransportState κ
  ring : RingHeld
  ledger : List (Entry Resource)

/-- The queue that `SetupVirtqueue` makes, if it gets that far. -/
abbrev QueueMade (κ : Type) := SetupOutcome → TransportState κ → Option QueueKind

namespace Accounts

variable {κ : Type}

def on (f : TransportState κ → TransportState κ) (a : Accounts κ) : Accounts κ :=
  { a with transport := f a.transport }

def enter (log : List (Entry Resource)) (a : Accounts κ) : Accounts κ :=
  { a with ledger := a.ledger ++ log }

/-- `virtqueue_.reset()` -/
def resetQueue (a : Accounts κ) : Accounts κ where
  transport := { a.transport with virtqueue := none }
  ring := .none
  ledger := a.ledger ++ a.ring.free

def release (a : Accounts κ) : Accounts κ :=
  (a.enter a.transport.releaseLog).on TransportState.release

variable (impl : TransportImpl κ) (made : QueueMade κ)

def setupVirtqueue (failure : RingFailure) (o : SetupOutcome) (a : Accounts κ) :
    Int32 × Accounts κ :=
  let queued := impl.setupVirtqueue o a.transport
  match made o a.transport with
  | none => (queued.1, { a with transport := queued.2 })
  | some kind =>
    let ring := kind.alloc (if o.stop = some .queueMemory then some failure else none)
    -- a queue that is there before is destroyed
    (queued.1, ⟨queued.2, ring.1, a.ledger ++ a.ring.free ++ ring.2⟩)

def initializeDevice (failure : RingFailure) (o : SetupOutcome) (a : Accounts κ) :
    Int32 × Accounts κ :=
  let negotiated := impl.negotiateFeatures o a.transport
  let a := { a with transport := negotiated.2 }
  if negotiated.1 ≠ 0 then (negotiated.1, a)
  else
    let queued := a.setupVirtqueue impl made failure o
    if queued.1 ≠ 0 then queued
    else
      let mapped := queued.2.transport.mapBuffers o
      (mapped.1, { queued.2.enter (TransportState.mapLog o) with transport := mapped.2 })

def resetDevice (failure : RingFailure) (o : SetupOutcome) (a : Accounts κ) :
    Int32 × Accounts κ :=
  let result := (a.on impl.clearStatus).resetQueue.release.initializeDevice impl made failure o
  (result.1, result.2.on fun t => { t with completed := result.1 = 0 })

/-- The steps of `Exchange`; `failure` is what runs out where the reset gets no memory. -/
def steps (failure : RingFailure) : ExchangeSteps κ (Accounts κ) where
  transport a := a.transport
  leave live pulses a := a.on fun t => { t with virtqueue := some live, pulses := pulses }
  notify a := a
  waitForCompletion es s a := (impl.waitForCompletion es s, a)
  resetDevice o a := (a.resetDevice impl made failure o).2

def exchange (failure : RingFailure) (x : ExchangeInput) (a : Accounts κ) :
    Option ExchangeReply × Accounts κ := (steps impl made failure).exchange x a

/-! ### The ledger changes nothing -/

variable (a : Accounts κ)

theorem setupVirtqueue_transport (failure : RingFailure) (o : SetupOutcome) :
    ((a.setupVirtqueue impl made failure o).1, (a.setupVirtqueue impl made failure o).2.transport) =
      impl.setupVirtqueue o a.transport := by
  unfold setupVirtqueue
  simp only
  split <;> rfl

theorem initializeDevice_transport (failure : RingFailure) (o : SetupOutcome) :
    ((a.initializeDevice impl made failure o).1,
        (a.initializeDevice impl made failure o).2.transport) =
      impl.initializeDevice o a.transport := by
  have queued := setupVirtqueue_transport impl made
    { a with transport := (impl.negotiateFeatures o a.transport).2 } failure o
  unfold initializeDevice TransportImpl.initializeDevice
  simp only [← queued]
  split
  · rfl
  · split <;> rfl

theorem resetDevice_transport (failure : RingFailure) (o : SetupOutcome) :
    ((a.resetDevice impl made failure o).1, (a.resetDevice impl made failure o).2.transport) =
      impl.resetDevice o a.transport := by
  have result := initializeDevice_transport impl made (a.on impl.clearStatus).resetQueue.release
    failure o
  exact congrArg (fun r : Int32 × TransportState κ =>
    (r.1, { r.2 with completed := decide (r.1 = 0) })) result

theorem exchange_transport (failure : RingFailure) (x : ExchangeInput) :
    ((a.exchange impl made failure x).1, (a.exchange impl made failure x).2.transport) =
      impl.exchange x a.transport := by
  have follows : ExchangeSteps.Follows transport (steps impl made failure) impl.steps :=
    { shared := fun _ => rfl
      leave := fun _ _ _ => rfl
      notify := fun _ => rfl
      waitForCompletion := fun _ _ _ => rfl
      resetDevice := fun o a => congrArg Prod.snd (resetDevice_transport impl made a failure o) }
  exact follows.exchange x a

end Accounts

end Virtio9p
