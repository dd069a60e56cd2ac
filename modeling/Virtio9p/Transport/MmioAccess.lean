import Virtio9p.Foundation.Extent
import Virtio9p.Transport.MmioTransport
import Virtio9p.Transport.Refinement
import Virtio9p.Transport.SetupLaws

/-!
# Register accesses of MmioTransportImpl

The member functions again, with a log of the bytes of the mapped region that they read and
write. A function does the same with the log as without it.
-/
namespace Virtio9p

/-! ### Offsets -/

namespace Mmio

def magicValue : Nat := 0x000
def version : Nat := 0x004
def deviceId : Nat := 0x008
def deviceFeatures : Nat := 0x010
def deviceFeaturesSel : Nat := 0x014
def driverFeatures : Nat := 0x020
def driverFeaturesSel : Nat := 0x024
def guestPageSize : Nat := 0x028
def queueSel : Nat := 0x030
def queueNumMax : Nat := 0x034
def queueNum : Nat := 0x038
def queueAlign : Nat := 0x03C
def queuePfn : Nat := 0x040
def queueReady : Nat := 0x044
def queueNotify : Nat := 0x050
def interruptStatus : Nat := 0x060
def interruptAck : Nat := 0x064
def status : Nat := 0x070
def queueDescLow : Nat := 0x080
def queueDescHigh : Nat := 0x084
def queueAvailLow : Nat := 0x090
def queueAvailHigh : Nat := 0x094
def queueUsedLow : Nat := 0x0A0
def queueUsedHigh : Nat := 0x0A4
def config : Nat := 0x100

end Mmio

/-- A transport with the accesses that were made through `regs_`. -/
structure LoggedMmio where
  transport : TransportState MmioRegs
  log : List Extent

namespace LoggedMmio

open Mmio

/-- An access, if the registers are mapped. -/
def touch (offset width : Nat) (l : LoggedMmio) : LoggedMmio :=
  if l.transport.own.regs then { l with log := l.log ++ [⟨offset, width⟩] } else l

def on (f : TransportState MmioRegs → TransportState MmioRegs) (l : LoggedMmio) : LoggedMmio :=
  { l with transport := f l.transport }

/-- `ReadReg` of a register that holds `value`. -/
def readReg (offset : Nat) (value : UInt32) (l : LoggedMmio) : UInt32 × LoggedMmio :=
  (MmioTransport.readReg value l.transport, l.touch offset 4)

/-- `WriteReg`; `f` is what the write does to the part of the device that is modelled. -/
def writeReg (offset : Nat) (f : Device → Device) (l : LoggedMmio) : LoggedMmio :=
  (l.touch offset 4).on (MmioTransport.writeReg f)

/-- A write to a register that is not part of the modelled device. -/
def writeOther (offset : Nat) (l : LoggedMmio) : LoggedMmio := l.touch offset 4

def setStatus (value : UInt32) (l : LoggedMmio) : LoggedMmio :=
  l.writeReg status (Device.setStatus value)

def negotiateFeatures (o : SetupOutcome) (l : LoggedMmio) : Int32 × LoggedMmio :=
  let read := l.readReg version o.mmioVersion
  let l := read.2.on fun t => { t with own := { t.own with mmioVersion := read.1 } }
  let l := ((l.setStatus 0).setStatus Status.acknowledge).setStatus
    (Status.acknowledge ||| Status.driver)
  if l.transport.own.mmioVersion = 1 then
    let features := ((l.writeOther guestPageSize).writeOther deviceFeaturesSel).readReg
      deviceFeatures o.featuresLo
    (0, (features.2.writeOther driverFeaturesSel).writeReg driverFeatures fun d =>
      { d with driverFeaturesLo := features.1 &&& 1 })
  else
    let low := (l.writeOther deviceFeaturesSel).readReg deviceFeatures o.featuresLo
    let high := (low.2.writeOther deviceFeaturesSel).readReg deviceFeatures o.featuresHi
    let l := (high.2.writeOther driverFeaturesSel).writeReg driverFeatures fun d =>
      { d with driverFeaturesLo := low.1 &&& 1 }
    let l := (l.writeOther driverFeaturesSel).writeReg driverFeatures fun d =>
      { d with driverFeaturesHi := high.1 &&& 1 }
    let l := l.setStatus (Status.acknowledge ||| Status.driver ||| Status.featuresOk)
    let accepted := if o.stop = some .features then ~~~Status.featuresOk else ~~~0
    let s := l.readReg status (l.transport.device.status &&& accepted)
    if s.1 &&& Status.featuresOk = 0 then (-eio, s.2.setStatus Status.failed) else (0, s.2)

/-- The registers of a modern queue, up to `QueueReady`. -/
def writeModernRegs (vq : Virtqueue) (l : LoggedMmio) : LoggedMmio :=
  let l := (l.writeOther queueDescLow).writeOther queueDescHigh
  let l := (l.writeOther queueAvailLow).writeOther queueAvailHigh
  let l := (l.writeOther queueUsedLow).writeOther queueUsedHigh
  l.writeReg queueReady fun d => { d with queue := some vq.modernRegs }

def setupVirtqueue (o : SetupOutcome) (l : LoggedMmio) : Int32 × LoggedMmio :=
  let maxSize := (l.writeOther queueSel).readReg queueNumMax o.queueNumMax
  let l := maxSize.2
  if maxSize.1 = 0 then (-eio, l)
  else
    let vq := Virtqueue.new (MmioTransport.queueSize maxSize.1)
    let allocated : Bool := o.stop ≠ some .queueMemory
    if l.transport.own.mmioVersion = 1 then
      let made := vq.initializeLegacy 4096 allocated o.queueMemory.desc
      let l := l.on fun t => { t with virtqueue := some ⟨made.2, []⟩ }
      if made.1 ≠ 0 then (made.1, l)
      else
        let l := (l.writeOther queueNum).writeOther queueAlign
        let l := l.writeReg queuePfn fun d => { d with queue := some made.2.legacyRegs }
        (0, l.setStatus (Status.acknowledge ||| Status.driver ||| Status.driverOk))
    else
      let made := vq.initializeModern allocated o.queueMemory
      let l := l.on fun t => { t with virtqueue := some ⟨made.2, []⟩ }
      if made.1 ≠ 0 then (made.1, l)
      else
        let l := (l.writeOther queueNum).writeModernRegs made.2
        (0, l.setStatus
          (Status.acknowledge ||| Status.driver ||| Status.featuresOk ||| Status.driverOk))

/-- `InitializeDevice` and the part of `ResetDevice` that is like it. -/
def initializeDevice (o : SetupOutcome) (l : LoggedMmio) : Int32 × LoggedMmio :=
  let negotiated := l.negotiateFeatures o
  if negotiated.1 ≠ 0 then negotiated
  else
    let queued := negotiated.2.setupVirtqueue o
    if queued.1 ≠ 0 then queued
    else
      let mapped := queued.2.transport.mapBuffers o
      (mapped.1, { queued.2 with transport := mapped.2 })

/-- The loop of `ResetDevice` that reads the status until it is 0. -/
def awaitReset : Nat → List UInt32 → LoggedMmio → LoggedMmio
  | 0, _, l => l
  | reads + 1, values, l =>
    let s := l.readReg status (values.headD 0)
    if s.1 = 0 then s.2 else awaitReset reads values.tail s.2

/-- `ResetDevice`; `values` are what the status reads back. -/
def resetDevice (o : SetupOutcome) (values : List UInt32) (l : LoggedMmio) : Int32 × LoggedMmio :=
  let cleared := if l.transport.own.regs then (l.setStatus 0).awaitReset 100 values else l
  let result := (cleared.on fun t => TransportState.release { t with virtqueue := none })
    |>.initializeDevice o
  (result.1, result.2.on fun t => { t with completed := result.1 = 0 })

def shutdown (l : LoggedMmio) : LoggedMmio :=
  (l.on TransportState.release).setStatus 0 |>.on fun t =>
    { t with own := { t.own with regs := false }, virtqueue := none }

def initializeTransport (o : MmioOutcome) (l : LoggedMmio) : Int32 × LoggedMmio :=
  match o.unmapped with
  | some errno =>
    (-errno.val,
      l.on fun t => { t with own := { t.own with regs := false }, completed := false })
  | none =>
    let l := l.on fun t => { t with own := { t.own with regs := true }, completed := false }
    let magic := l.readReg magicValue o.magic
    if magic.1 ≠ 0x74726976 then (-enodev, magic.2.shutdown)
    else
      let deviceId := magic.2.readReg deviceId o.deviceId
      if deviceId.1 ≠ 9 then (-enodev, deviceId.2.shutdown)
      else
        let result := deviceId.2.initializeDevice o.setup
        if result.1 ≠ 0 then (result.1, result.2.shutdown)
        else (0, result.2.on fun t => { t with completed := true })

/-- `WaitForCompletion`, which gets at the registers once a pulse was received. -/
def waitForCompletion (es : List WaitEvent) (s : WaitState) (l : LoggedMmio) :
    Waited × LoggedMmio :=
  match s.receivePulse es with
  | (.error _, _) => (mmioWaitForCompletion es s, l)
  | (.ok _, _) =>
    (mmioWaitForCompletion es s, ((l.readReg interruptStatus 0).2).writeOther interruptAck)

/-- The steps of `Exchange`; `values` are what the status reads back in a reset. -/
def steps (values : List UInt32) : ExchangeSteps MmioRegs LoggedMmio where
  transport l := l.transport
  leave live pulses l := l.on fun t => { t with virtqueue := some live, pulses := pulses }
  notify l := l.writeOther queueNotify
  waitForCompletion es s l := l.waitForCompletion es s
  resetDevice o l := (l.resetDevice o values).2

/-- `Exchange` -/
def exchange (x : ExchangeInput) (values : List UInt32) (l : LoggedMmio) :
    Option ExchangeReply × LoggedMmio := (steps values).exchange x l

/-- The bytes of the tag, one access for each. -/
def readTag (tag : Nat → UInt8) : Nat → Nat → LoggedMmio → Bytes × LoggedMmio
  | 0, _, l => ([], l)
  | left + 1, i, l =>
    let rest := readTag tag left (i + 1) (l.touch (config + 2 + i) 1)
    (tag i :: rest.1, rest.2)

/-- `GetMountTag` of a configuration space with the given length and bytes. -/
def getMountTag (tagLen : UInt16) (tag : Nat → UInt8) (l : LoggedMmio) :
    Except Int32 Bytes × LoggedMmio :=
  if l.transport.own.regs = false then (.error (-einval), l)
  else
    let l := l.touch config 2
    if tagLen = 0 ∨ tagLen > 256 then (.error (-einval), l)
    else
      let read := readTag tag tagLen.toNat 0 l
      (.ok read.1, read.2)

/-! ### The log changes nothing -/

variable (l : LoggedMmio)

@[simp] theorem touch_transport (offset width : Nat) :
    (l.touch offset width).transport = l.transport := by
  unfold touch
  split <;> rfl

@[simp] theorem on_transport (f : TransportState MmioRegs → TransportState MmioRegs) :
    (l.on f).transport = f l.transport := rfl

@[simp] theorem readReg_fst (offset : Nat) (value : UInt32) :
    (l.readReg offset value).1 = MmioTransport.readReg value l.transport := rfl

@[simp] theorem readReg_transport (offset : Nat) (value : UInt32) :
    (l.readReg offset value).2.transport = l.transport :=
  touch_transport l offset 4

@[simp] theorem writeReg_transport (offset : Nat) (f : Device → Device) :
    (l.writeReg offset f).transport = MmioTransport.writeReg f l.transport := by
  rw [writeReg, on_transport, touch_transport]

@[simp] theorem writeOther_transport (offset : Nat) :
    (l.writeOther offset).transport = l.transport :=
  touch_transport l offset 4

@[simp] theorem setStatus_transport (value : UInt32) :
    (l.setStatus value).transport =
      MmioTransport.writeReg (Device.setStatus value) l.transport :=
  writeReg_transport l status _

@[simp] theorem readReg_writeReg (f : Device → Device) (value : UInt32)
    (t : TransportState MmioRegs) :
    MmioTransport.readReg value (MmioTransport.writeReg f t) = MmioTransport.readReg value t := by
  rw [MmioTransport.readReg, MmioTransport.writeReg_own, MmioTransport.readReg]

theorem negotiateFeatures_transport (o : SetupOutcome) :
    ((l.negotiateFeatures o).1, (l.negotiateFeatures o).2.transport) =
      MmioTransport.negotiateFeatures o l.transport := by
  unfold negotiateFeatures MmioTransport.negotiateFeatures
  simp only [readReg_fst, readReg_transport, on_transport, setStatus_transport,
    writeReg_transport, writeOther_transport, readReg_writeReg, MmioTransport.writeReg_own]
  split
  · simp
  · by_cases refused : o.stop = some .features
    · simp only [if_pos refused]
      split <;> simp
    · simp only [if_neg refused]
      split <;> simp

@[simp] theorem writeModernRegs_transport (vq : Virtqueue) :
    (l.writeModernRegs vq).transport =
      MmioTransport.writeReg (fun d => { d with queue := some vq.modernRegs }) l.transport := by
  simp [writeModernRegs]

theorem setupVirtqueue_transport (o : SetupOutcome) :
    ((l.setupVirtqueue o).1, (l.setupVirtqueue o).2.transport) =
      MmioTransport.setupVirtqueue o l.transport := by
  unfold setupVirtqueue MmioTransport.setupVirtqueue
  simp only [readReg_fst, readReg_transport, writeOther_transport]
  split
  · simp
  · split <;> split <;> simp

theorem initializeDevice_transport (o : SetupOutcome) :
    ((l.initializeDevice o).1, (l.initializeDevice o).2.transport) =
      MmioTransport.impl.initializeDevice o l.transport := by
  unfold initializeDevice TransportImpl.initializeDevice
  have negotiated := l.negotiateFeatures_transport o
  have queued := (l.negotiateFeatures o).2.setupVirtqueue_transport o
  simp only [MmioTransport.impl, ← negotiated, ← queued]
  split
  · rfl
  · split <;> rfl

theorem awaitReset_transport (reads : Nat) (values : List UInt32) :
    (l.awaitReset reads values).transport = l.transport := by
  induction reads generalizing values l with
  | zero => rfl
  | succ reads ih =>
    rw [awaitReset]
    split
    · exact l.readReg_transport _ _
    · rw [ih, readReg_transport]

theorem resetDevice_transport (o : SetupOutcome) (values : List UInt32) :
    ((l.resetDevice o values).1, (l.resetDevice o values).2.transport) =
      MmioTransport.impl.resetDevice o l.transport := by
  have cleared : (if l.transport.own.regs then (l.setStatus 0).awaitReset 100 values
      else l).transport = MmioTransport.clearStatus l.transport := by
    split <;> rename_i regs
    · rw [awaitReset_transport, setStatus_transport]
      rfl
    · rw [MmioTransport.clearStatus, MmioTransport.writeReg, if_neg regs]
  unfold resetDevice TransportImpl.resetDevice
  simp only [on_transport]
  have result := initializeDevice_transport ((if l.transport.own.regs then
    (l.setStatus 0).awaitReset 100 values else l).on
      fun t => TransportState.release { t with virtqueue := none }) o
  rw [on_transport, cleared] at result
  rw [show MmioTransport.impl.clearStatus l.transport = MmioTransport.clearStatus l.transport
    from rfl, ← result]

@[simp] theorem shutdown_transport :
    l.shutdown.transport = MmioTransport.shutdown l.transport := by
  simp [shutdown, MmioTransport.shutdown, MmioTransport.clearStatus]

theorem initializeTransport_transport (o : MmioOutcome) :
    ((l.initializeTransport o).1, (l.initializeTransport o).2.transport) =
      MmioTransport.initializeTransport o l.transport := by
  unfold initializeTransport MmioTransport.initializeTransport
  cases o.unmapped with
  | some errno => rfl
  | none =>
    -- the registers are mapped, so they are read
    let up := l.on fun t => { t with own := { t.own with regs := true }, completed := false }
    have setup := initializeDevice_transport
      ((up.readReg magicValue o.magic).2.readReg deviceId o.deviceId).2 o.setup
    have mapped (value : UInt32) : MmioTransport.readReg value up.transport = value := rfl
    simp only [readReg_transport] at setup
    simp only [readReg_fst, readReg_transport]
    simp only [up, on_transport] at setup mapped
    simp only [on_transport, mapped]
    by_cases magic : o.magic ≠ 0x74726976
    · simp only [if_pos magic, shutdown_transport, readReg_transport, on_transport]
    · simp only [if_neg magic]
      by_cases device : o.deviceId ≠ 9
      · simp only [if_pos device, shutdown_transport, readReg_transport, on_transport]
      · simp only [if_neg device, ← setup]
        split
        · rw [shutdown_transport]
        · rfl

theorem waitForCompletion_fst (es : List WaitEvent) (s : WaitState) :
    (l.waitForCompletion es s).1 = mmioWaitForCompletion es s := by
  unfold waitForCompletion
  split <;> rfl

@[simp] theorem waitForCompletion_transport (es : List WaitEvent) (s : WaitState) :
    (l.waitForCompletion es s).2.transport = l.transport := by
  unfold waitForCompletion
  split <;> simp

theorem exchange_transport (x : ExchangeInput) (values : List UInt32) :
    ((l.exchange x values).1, (l.exchange x values).2.transport) =
      MmioTransport.impl.exchange x l.transport := by
  have follows : ExchangeSteps.Follows transport (steps values) MmioTransport.impl.steps :=
    { shared := fun _ => rfl
      leave := fun _ _ _ => rfl
      notify := fun l => l.writeOther_transport queueNotify
      waitForCompletion := fun es s l =>
        Prod.ext (l.waitForCompletion_fst es s) (l.waitForCompletion_transport es s)
      resetDevice := fun o l => congrArg Prod.snd (l.resetDevice_transport o values) }
  exact follows.exchange x l

theorem readTag_transport (tag : Nat → UInt8) (left i : Nat) :
    (readTag tag left i l).2.transport = l.transport := by
  induction left generalizing i l with
  | zero => rfl
  | succ left ih =>
    rw [readTag]
    simp only
    rw [ih, touch_transport]

@[simp] theorem getMountTag_transport (tagLen : UInt16) (tag : Nat → UInt8) :
    (l.getMountTag tagLen tag).2.transport = l.transport := by
  unfold getMountTag
  simp only
  split
  · rfl
  · split
    · exact l.touch_transport config 2
    · rw [readTag_transport, touch_transport]

end LoggedMmio

end Virtio9p
