import Virtio9p.Transport.Setup

/-!
# PciTransportImpl

`DiscoverDevice` is taken by its outcome: whether it fails, and whether `common_cfg_` is set
after it. The MSI-X vector of the queue plays no part in the members modelled here.
-/
namespace Virtio9p

structure PciRegs where
  /-- `common_cfg_` is not null. -/
  commonCfg : Bool
  deriving DecidableEq, Repr

/-- What `Initialize` finds. A `DiscoverDevice` that succeeds has set `common_cfg_`. -/
structure PciOutcome where
  undiscovered : Option (Errno × Bool)
  setup : SetupOutcome

namespace PciTransport

def clearStatus (t : TransportState PciRegs) : TransportState PciRegs :=
  if t.own.commonCfg then t.onDevice (Device.setStatus 0) else t

def negotiateFeatures (o : SetupOutcome) (t : TransportState PciRegs) :
    Int32 × TransportState PciRegs :=
  if t.own.commonCfg = false then (-einval, t)
  else
    let t := t.onDevice (Device.setStatus 0)
    let t := t.onDevice (Device.setStatus Status.acknowledge)
    let t := t.onDevice (Device.setStatus (Status.acknowledge ||| Status.driver))
    let t := t.onDevice fun d => { d with
      driverFeaturesLo := o.featuresLo &&& 1
      driverFeaturesHi := o.featuresHi &&& 1 }
    let t := t.onDevice
      (Device.setStatus (Status.acknowledge ||| Status.driver ||| Status.featuresOk))
    let accepted := if o.stop = some .features then ~~~Status.featuresOk else ~~~0
    if t.device.status &&& accepted &&& Status.featuresOk = 0 then
      (-eio, t.onDevice (Device.setStatus Status.failed))
    else (0, t)

def queueSize (maxSize : UInt16) : UInt16 :=
  if maxSize < defaultQueueSize then maxSize else defaultQueueSize

def setupVirtqueue (o : SetupOutcome) (t : TransportState PciRegs) :
    Int32 × TransportState PciRegs :=
  if t.own.commonCfg = false then (-einval, t)
  else
    -- a 16-bit register
    let maxSize := o.queueNumMax.toUInt16
    if maxSize = 0 then (-eio, t)
    else
      let allocated : Bool := o.stop ≠ some .queueMemory
      let made := (Virtqueue.new (queueSize maxSize)).initializeModern allocated o.queueMemory
      let t := { t with virtqueue := some ⟨made.2, []⟩ }
      if made.1 ≠ 0 then (made.1, t)
      else
        let t := t.onDevice fun d => { d with queue := some made.2.modernRegs }
        (0, t.onDevice
          (Device.setStatus
            (Status.acknowledge ||| Status.driver ||| Status.featuresOk ||| Status.driverOk)))

def impl : TransportImpl PciRegs where
  clearStatus := clearStatus
  negotiateFeatures := negotiateFeatures
  setupVirtqueue := setupVirtqueue
  waitForCompletion := pciWaitForCompletion

def shutdown (t : TransportState PciRegs) : TransportState PciRegs :=
  let t := clearStatus t.release
  { t with own := { t.own with commonCfg := false }, virtqueue := none }

/-- `Initialize` returns without `Shutdown` when the device is not found. -/
def initializeTransport (o : PciOutcome) (t : TransportState PciRegs) :
    Int32 × TransportState PciRegs :=
  match o.undiscovered with
  | some (errno, commonCfg) =>
    (-errno.val, { t with own := ⟨commonCfg⟩, completed := false })
  | none =>
    let t := { t with own := ⟨true⟩, completed := false }
    let result := impl.initializeDevice o.setup t
    if result.1 ≠ 0 then (result.1, shutdown result.2)
    else (0, { result.2 with completed := true })

def fresh : TransportState PciRegs := TransportState.new ⟨false⟩

end PciTransport

end Virtio9p
