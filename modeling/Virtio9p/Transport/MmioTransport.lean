import Virtio9p.Transport.Setup

/-!
# MmioTransportImpl

Device registers behind a mapped region, in the legacy (version 1) and the modern layout.
-/
namespace Virtio9p

structure MmioRegs where
  /-- `regs_` is not null. -/
  regs : Bool
  mmioVersion : UInt32
  deriving DecidableEq, Repr

/-- What `Initialize` finds. -/
structure MmioOutcome where
  /-- `mmap_device_memory` fails. -/
  unmapped : Option Errno
  magic : UInt32
  deviceId : UInt32
  setup : SetupOutcome

namespace MmioTransport

/-- `WriteReg`: without a mapping the write is dropped. -/
def writeReg (f : Device → Device) (t : TransportState MmioRegs) : TransportState MmioRegs :=
  if t.own.regs then t.onDevice f else t

/-- `ReadReg`: without a mapping every register is 0. -/
def readReg (value : UInt32) (t : TransportState MmioRegs) : UInt32 :=
  if t.own.regs then value else 0

def clearStatus (t : TransportState MmioRegs) : TransportState MmioRegs :=
  writeReg (Device.setStatus 0) t

def negotiateFeatures (o : SetupOutcome) (t : TransportState MmioRegs) :
    Int32 × TransportState MmioRegs :=
  let t := { t with own := { t.own with mmioVersion := readReg o.mmioVersion t } }
  let t := writeReg (Device.setStatus 0) t
  let t := writeReg (Device.setStatus Status.acknowledge) t
  let t := writeReg (Device.setStatus (Status.acknowledge ||| Status.driver)) t
  let featuresLo := readReg o.featuresLo t &&& 1
  let t := writeReg (fun d => { d with driverFeaturesLo := featuresLo }) t
  -- a legacy device has no FEATURES_OK step
  if t.own.mmioVersion = 1 then (0, t)
  else
    let featuresHi := readReg o.featuresHi t &&& 1
    let t := writeReg (fun d => { d with driverFeaturesHi := featuresHi }) t
    let t := writeReg
      (Device.setStatus (Status.acknowledge ||| Status.driver ||| Status.featuresOk)) t
    let accepted := if o.stop = some .features then ~~~Status.featuresOk else ~~~0
    if readReg (t.device.status &&& accepted) t &&& Status.featuresOk = 0 then
      (-eio, writeReg (Device.setStatus Status.failed) t)
    else (0, t)

/-- The size of the queue that the driver asks for. -/
def queueSize (maxSize : UInt32) : UInt16 :=
  if maxSize < defaultQueueSize.toUInt32 then maxSize.toUInt16 else defaultQueueSize

def setupVirtqueue (o : SetupOutcome) (t : TransportState MmioRegs) :
    Int32 × TransportState MmioRegs :=
  let maxSize := readReg o.queueNumMax t
  if maxSize = 0 then (-eio, t)
  else
    let vq := Virtqueue.new (queueSize maxSize)
    let allocated : Bool := o.stop ≠ some .queueMemory
    if t.own.mmioVersion = 1 then
      let made := vq.initializeLegacy 4096 allocated o.queueMemory.desc
      let t := { t with virtqueue := some ⟨made.2, []⟩ }
      if made.1 ≠ 0 then (made.1, t)
      else
        let t := writeReg (fun d => { d with queue := some made.2.legacyRegs }) t
        (0, writeReg
          (Device.setStatus (Status.acknowledge ||| Status.driver ||| Status.driverOk)) t)
    else
      let made := vq.initializeModern allocated o.queueMemory
      let t := { t with virtqueue := some ⟨made.2, []⟩ }
      if made.1 ≠ 0 then (made.1, t)
      else
        let t := writeReg (fun d => { d with queue := some made.2.modernRegs }) t
        (0, writeReg (Device.setStatus
          (Status.acknowledge ||| Status.driver ||| Status.featuresOk ||| Status.driverOk)) t)

def impl : TransportImpl MmioRegs where
  clearStatus := clearStatus
  negotiateFeatures := negotiateFeatures
  setupVirtqueue := setupVirtqueue
  waitForCompletion := mmioWaitForCompletion

def shutdown (t : TransportState MmioRegs) : TransportState MmioRegs :=
  let t := clearStatus t.release
  { t with own := { t.own with regs := false }, virtqueue := none }

/-- `Initialize` shuts the transport down again when a step behind the mapping fails. -/
def initializeTransport (o : MmioOutcome) (t : TransportState MmioRegs) :
    Int32 × TransportState MmioRegs :=
  match o.unmapped with
  | some errno =>
    (-errno.val, { t with own := { t.own with regs := false }, completed := false })
  | none =>
    let t := { t with own := { t.own with regs := true }, completed := false }
    -- "virt"
    if o.magic ≠ 0x74726976 then (-enodev, shutdown t)
    else if o.deviceId ≠ 9 then (-enodev, shutdown t)
    else
      let result := impl.initializeDevice o.setup t
      if result.1 ≠ 0 then (result.1, shutdown result.2)
      else (0, { result.2 with completed := true })

/-- The members of a transport that was just constructed. -/
def fresh : TransportState MmioRegs := TransportState.new ⟨false, 0⟩

end MmioTransport

end Virtio9p
