import Virtio9p.Transport.Awaits

/-!
# Bringing a transport up

`Initialize`, `ResetDevice`, `Exchange` and `Shutdown` of the MMIO and the PCI transport.
What the operating system and the device answer while a transport is brought up comes in as
a `SetupOutcome`: the first step that fails, if one does, and the values that the others give.
-/
namespace Virtio9p

def enodev : Int32 := 19

/-- A value that a failing call leaves in `errno`. -/
abbrev Errno := { e : Int32 // 0 < e }

/-- A channel, a connection or an interrupt id; -1 stands for none. -/
abbrev Handle := { h : Int32 // 0 ≤ h }

/-- A buffer that `mmap` returned, and its physical address. -/
structure Mapping where
  virt : UInt64
  phys : UInt64
  deriving DecidableEq, Repr

/-- The physical addresses of the parts of a virtqueue. A legacy queue is one block at `desc`. -/
structure QueueMemory where
  desc : UInt64
  avail : UInt64
  used : UInt64
  deriving DecidableEq, Repr

/-- The steps of bringing a transport up that may fail. -/
inductive SetupStep where
  | features
  | queueMemory
  | mapRequest
  | requestOffset
  | mapResponse
  | responseOffset
  | channelCreate
  | connectAttach
  | interruptAttach
  deriving DecidableEq, Repr

structure SetupOutcome where
  stop : Option SetupStep
  errno : Errno
  mmioVersion : UInt32
  featuresLo : UInt32
  featuresHi : UInt32
  queueNumMax : UInt32
  queueMemory : QueueMemory
  request : Mapping
  response : Mapping
  chid : Handle
  coid : Handle
  irqId : Handle

/-! ### The device -/

namespace Status

def acknowledge : UInt32 := 1
def driver : UInt32 := 2
def driverOk : UInt32 := 4
def featuresOk : UInt32 := 8
def failed : UInt32 := 128

end Status

/-- The registers that hand a queue to the device. -/
inductive QueueRegs where
  | legacy (num align pfn : UInt32)
  | modern (num descLow descHigh availLow availHigh usedLow usedHigh : UInt32)
  deriving DecidableEq, Repr

structure Device where
  status : UInt32
  driverFeaturesLo : UInt32
  driverFeaturesHi : UInt32
  /-- The queue that is active. -/
  queue : Option QueueRegs
  deriving DecidableEq, Repr

/-- A device drops its queue when 0 is written to its status. -/
def Device.reset : Device := ⟨0, 0, 0, none⟩

/-- A write to the status register. -/
def Device.setStatus (status : UInt32) (d : Device) : Device :=
  if status = 0 then Device.reset else { d with status := status }

/-! ### The memory of the queue -/

def alignUp (value alignment : UInt64) : UInt64 :=
  (value + alignment - 1) &&& ~~~(alignment - 1)

namespace Virtqueue

/-- The ring memory after `memset`. -/
def cleared (vq : Virtqueue) : Virtqueue :=
  { vq with
    desc := fun _ => ⟨0, 0, 0, 0⟩
    availIdx := 0
    availRing := fun _ => 0
    usedIdx := 0
    usedRing := fun _ => ⟨0, 0⟩ }

/-- `Initialize`: three allocations. -/
def initializeModern (allocated : Bool) (memory : QueueMemory) (vq : Virtqueue) :
    Int32 × Virtqueue :=
  if allocated = false then (-enomem, vq)
  else
    (0, { vq.cleared with
      mapped := true
      descPhys := memory.desc
      availPhys := memory.avail
      usedPhys := memory.used }.initDescChain)

/-- `InitializeLegacy`: one block, with the used ring on an `align` boundary. -/
def initializeLegacy (align : UInt32) (allocated : Bool) (base : UInt64) (vq : Virtqueue) :
    Int32 × Virtqueue :=
  let descSize := vq.queueSize.toUInt64 * 16
  let availSize := 4 + vq.queueSize.toUInt64 * 2 + 2
  let usedOffset := alignUp (descSize + availSize) align.toUInt64
  if allocated = false then (-enomem, vq)
  else
    (0, { vq.cleared with
      mapped := true
      descPhys := base
      availPhys := base + descSize
      usedPhys := base + usedOffset }.initDescChain)

/-- What `SetupVirtqueue` writes for a legacy queue. -/
def legacyRegs (vq : Virtqueue) : QueueRegs :=
  .legacy vq.queueSize.toUInt32 4096 (vq.descPhys / 4096).toUInt32

def modernRegs (vq : Virtqueue) : QueueRegs :=
  .modern vq.queueSize.toUInt32 vq.descPhys.toUInt32 (vq.descPhys >>> 32).toUInt32
    vq.availPhys.toUInt32 (vq.availPhys >>> 32).toUInt32
    vq.usedPhys.toUInt32 (vq.usedPhys >>> 32).toUInt32

end Virtqueue

def defaultQueueSize : UInt16 := 128

/-! ### The state of a transport -/

/-- The members that both transports have. `own` holds those of one of them. -/
structure TransportState (κ : Type) where
  own : κ
  virtqueue : Option LiveQueue
  dmaReqVirt : Option Mapping
  dmaReqPhys : UInt64
  dmaRespVirt : Option Mapping
  dmaRespPhys : UInt64
  chid : Int32
  coid : Int32
  irqId : Int32
  /-- Pulses queued in the channel. -/
  pulses : Nat
  device : Device
  /-- Ghost: the last `Initialize` or `ResetDevice` returned 0. -/
  completed : Bool

namespace TransportState

variable {κ : Type}

def new (own : κ) : TransportState κ where
  own := own
  virtqueue := none
  dmaReqVirt := none
  dmaReqPhys := 0
  dmaRespVirt := none
  dmaRespPhys := 0
  chid := -1
  coid := -1
  irqId := -1
  pulses := 0
  device := Device.reset
  completed := false

def onDevice (f : Device → Device) (t : TransportState κ) : TransportState κ :=
  { t with device := f t.device }

/-- `InterruptDetach`, `ConnectDetach` and `ChannelDestroy`, each if there is something to
give back, and the two `munmap`s. The pulses go with the channel. -/
def release (t : TransportState κ) : TransportState κ :=
  { t with
    -- -1 and the other negative values are left as they are
    irqId := if 0 ≤ t.irqId then -1 else t.irqId
    coid := if 0 ≤ t.coid then -1 else t.coid
    chid := if 0 ≤ t.chid then -1 else t.chid
    pulses := 0
    dmaReqVirt := none
    dmaRespVirt := none }

/-- The channel, the connection and the interrupt. -/
def attachInterrupt (o : SetupOutcome) (t : TransportState κ) : Int32 × TransportState κ :=
  -- a failing call stores its -1 in the member
  if o.stop = some .channelCreate then (-o.errno.val, { t with chid := -1 })
  else
    let t := { t with chid := o.chid.val, pulses := 0 }
    if o.stop = some .connectAttach then (-o.errno.val, { t with coid := -1 })
    else
      let t := { t with coid := o.coid.val }
      if o.stop = some .interruptAttach then (-o.errno.val, { t with irqId := -1 })
      else (0, { t with irqId := o.irqId.val })

/-- The bounce buffers, and what follows them. -/
def mapBuffers (o : SetupOutcome) (t : TransportState κ) : Int32 × TransportState κ :=
  if o.stop = some .mapRequest then (-enomem, { t with dmaReqVirt := none })
  else
    let t := { t with dmaReqVirt := some o.request }
    -- `mem_offset64` fails: the buffer stays mapped
    if o.stop = some .requestOffset then (-o.errno.val, t)
    else
      let t := { t with dmaReqPhys := o.request.phys }
      if o.stop = some .mapResponse then (-enomem, { t with dmaRespVirt := none })
      else
        let t := { t with dmaRespVirt := some o.response }
        if o.stop = some .responseOffset then (-o.errno.val, t)
        -- `dmaRespPhys` is new only from here on
        else attachInterrupt o { t with dmaRespPhys := o.response.phys }

/-- The entry guard of `Exchange`. -/
def Up (t : TransportState κ) : Prop :=
  t.virtqueue ≠ none ∧ t.dmaReqVirt ≠ none ∧ t.dmaRespVirt ≠ none

end TransportState

/-- What happens during one `Exchange`: the events before the wait and during it, what the
response buffer holds when it is copied, and the outcome of a reset. -/
structure ExchangeInput where
  request : Bytes
  early : List WaitEvent
  events : List WaitEvent
  answer : Nat → UInt8
  reset : SetupOutcome

structure ExchangeReply where
  rc : Int32
  response : Bytes
  /-- Ghost: what `AddBuf` returned, if it was called. -/
  added : Option Int32
  /-- Ghost: what the last `GetBuf` returned, if it was called. -/
  head : Option Int32
  deriving DecidableEq, Repr

/-! ### Exchange -/

/-- What `Exchange` does with the state of a transport, which may come with a log of what is done to
it. -/
structure ExchangeSteps (κ α : Type) where
  transport : α → TransportState κ
  /-- Leave a queue and pulses behind. -/
  leave : LiveQueue → Nat → α → α
  notify : α → α
  waitForCompletion : List WaitEvent → WaitState → α → Waited × α
  resetDevice : SetupOutcome → α → α

namespace ExchangeSteps

variable {κ α : Type} (steps : ExchangeSteps κ α)

/-- `Exchange` behind its guard. -/
def exchangeLive (live : LiveQueue) (x : ExchangeInput) (a : α) : Option ExchangeReply × α :=
  let t := steps.transport a
  let added := live.addBuf t.dmaReqPhys (UInt32.ofNat x.request.length) t.dmaRespPhys
    maxMessageSize
  if added.1 < 0 then
    (some ⟨added.1, [], some added.1, none⟩, steps.leave added.2 t.pulses a)
  else
    -- the device may be done before the wait begins
    let s := WaitState.elapsed ⟨added.2, 0 ≤ t.chid, t.pulses⟩ x.early
    let waited := steps.waitForCompletion x.events s (steps.notify a)
    match waited.1 with
    | none => (none, steps.leave s.live s.pulses waited.2)
    | some (done, _, s) =>
      let a := steps.leave s.live s.pulses waited.2
      if done.rc < 0 then
        -- the device may still hold the descriptors and the buffers
        (some ⟨done.rc, [], some added.1, some done.head⟩, steps.resetDevice x.reset a)
      else
        (some ⟨0, (List.range done.outLen.toNat).map x.answer, some added.1, some done.head⟩, a)

/-- `Exchange`; no reply if it does not return. -/
def exchange (x : ExchangeInput) (a : α) : Option ExchangeReply × α :=
  let t := steps.transport a
  match t.virtqueue, t.dmaReqVirt, t.dmaRespVirt with
  | some live, some _, some _ => steps.exchangeLive live x a
  | _, _, _ => (some ⟨-einval, [], none, none⟩, a)

end ExchangeSteps

/-- The member functions in which the transports differ. -/
structure TransportImpl (κ : Type) where
  /-- Write 0 to the device status, if the registers are mapped. -/
  clearStatus : TransportState κ → TransportState κ
  negotiateFeatures : SetupOutcome → TransportState κ → Int32 × TransportState κ
  setupVirtqueue : SetupOutcome → TransportState κ → Int32 × TransportState κ
  waitForCompletion : List WaitEvent → WaitState → Waited

namespace TransportImpl

variable {κ : Type} (impl : TransportImpl κ)

def initializeDevice (o : SetupOutcome) (t : TransportState κ) : Int32 × TransportState κ :=
  let negotiated := impl.negotiateFeatures o t
  if negotiated.1 ≠ 0 then negotiated
  else
    let queued := impl.setupVirtqueue o negotiated.2
    -- an early return leaves the members as they are
    if queued.1 ≠ 0 then queued else queued.2.mapBuffers o

/-- `ResetDevice`. The loop that waits for the status to read back 0 changes nothing. -/
def resetDevice (o : SetupOutcome) (t : TransportState κ) : Int32 × TransportState κ :=
  let cleared := impl.clearStatus t
  let result := impl.initializeDevice o { cleared with virtqueue := none }.release
  -- the result of `InitializeDevice` is all that tells how far it got
  (result.1, { result.2 with completed := result.1 = 0 })

def steps : ExchangeSteps κ (TransportState κ) where
  transport t := t
  leave live pulses t := { t with virtqueue := some live, pulses := pulses }
  notify t := t
  waitForCompletion es s t := (impl.waitForCompletion es s, t)
  resetDevice o t := (impl.resetDevice o t).2

def exchange (x : ExchangeInput) (t : TransportState κ) :
    Option ExchangeReply × TransportState κ := impl.steps.exchange x t

theorem exchange_eq (x : ExchangeInput) (t : TransportState κ) :
    impl.exchange x t =
      match t.virtqueue, t.dmaReqVirt, t.dmaRespVirt with
      | some live, some _, some _ =>
        let added := live.addBuf t.dmaReqPhys (UInt32.ofNat x.request.length) t.dmaRespPhys
          maxMessageSize
        if added.1 < 0 then
          (some ⟨added.1, [], some added.1, none⟩, { t with virtqueue := some added.2 })
        else
          let s := WaitState.elapsed ⟨added.2, 0 ≤ t.chid, t.pulses⟩ x.early
          match impl.waitForCompletion x.events s with
          | none => (none, { t with virtqueue := some s.live, pulses := s.pulses })
          | some (done, _, s) =>
            let t := { t with virtqueue := some s.live, pulses := s.pulses }
            if done.rc < 0 then
              (some ⟨done.rc, [], some added.1, some done.head⟩, (impl.resetDevice x.reset t).2)
            else
              (some ⟨0, (List.range done.outLen.toNat).map x.answer, some added.1,
                some done.head⟩, t)
      | _, _, _ => (some ⟨-einval, [], none, none⟩, t) := rfl

end TransportImpl

end Virtio9p
