import Virtio9p.Transport.DmaDevice
import Virtio9p.Transport.Lifecycle
import Virtio9p.Transport.WaitLaws

/-!
# Exchange through memory

`Exchange` with the bounce buffers, the rings and the device: the request goes through the memory
that the device reads, and the response through the memory that it writes.
-/
namespace Virtio9p

/-- What happens during one `Exchange`: the device's events before the wait and from there on, and
the outcome of a reset. -/
structure DmaInput where
  request : Bytes
  early : List DeviceEvent
  events : List DeviceEvent
  reset : SetupOutcome

/-- A transport with the device behind it. -/
structure Wired (κ S : Type) where
  transport : TransportState κ
  host : Backend S

/-- The `memset` of the response buffer and the `memcpy` of the request. -/
def fillBuffers (request response : Mapping) (bytes : Bytes) (m : Memory UInt8) : Memory UInt8 :=
  (m.store response.phys (List.replicate maxMessageSize.toNat 0)).store request.phys bytes

section Exchange

variable {κ S : Type} (impl : TransportImpl κ) (registers : κ → Bool)
    (serve : Bytes → S → Bytes × S)

/-- What the device does on the queue, and what the driver sees of it. Between `AddBuf` and the
`GetBuf` that reads the completion the driver does not write to the queue. -/
def deviceRuns (vq : Virtqueue) (x : DmaInput) (h : Backend S) :
    (List WaitEvent × List WaitEvent) × Backend S :=
  let early := (dmaDevice serve vq).run x.early h
  let late := (dmaDevice serve vq).run x.events early.2
  ((early.1.reduceOption, late.1.reduceOption), late.2)

/-- `registers` tells whether a write of 0 to the status reaches the device. -/
def dmaExchange (x : DmaInput) (w : Wired κ S) : Option ExchangeReply × Wired κ S :=
  match w.transport.virtqueue, w.transport.dmaReqVirt, w.transport.dmaRespVirt with
  | some live, some request, some response =>
    let host := { w.host with memory := fillBuffers request response x.request w.host.memory }
    let added := live.addBuf w.transport.dmaReqPhys (UInt32.ofNat x.request.length)
      w.transport.dmaRespPhys maxMessageSize
    if added.1 < 0 then
      -- the device is not notified
      let result := impl.exchange ⟨x.request, [], [], fun _ => 0, x.reset⟩ w.transport
      (result.1, ⟨result.2, host⟩)
    else
      let ran := deviceRuns serve added.2.queue x host
      let answer := fun i => ran.2.memory (response.phys + UInt64.ofNat i)
      let result := impl.exchange ⟨x.request, ran.1.1, ran.1.2, answer, x.reset⟩ w.transport
      -- with the error comes a reset
      let resets := (result.1.any fun reply => reply.rc < 0) ∧ registers w.transport.own
      (result.1, ⟨result.2, if resets then ran.2.reset else ran.2⟩)
  | _, _, _ => (some ⟨-einval, [], none, none⟩, w)

/-! ### Between two exchanges -/

/-- Driver, memory and device between two exchanges. -/
structure Linked (live : LiveQueue) (request response : Mapping) (w : Wired κ S) : Prop where
  queue : w.transport.virtqueue = some live
  reqVirt : w.transport.dmaReqVirt = some request
  respVirt : w.transport.dmaRespVirt = some response
  reqPhys : w.transport.dmaReqPhys = request.phys
  respPhys : w.transport.dmaRespPhys = response.phys
  two : 2 ≤ live.queue.queueSize
  idle : Idle live.queue.queueSize live
  /-- The device has seen every entry of the available ring. -/
  seen : w.host.seenIdx = live.queue.availIdx
  jobs : w.host.jobs = []
  registers : registers w.transport.own = true

/-- If the guard of `Exchange` passes. -/
def Ready (w : Wired κ S) : Prop :=
  w.transport.Up → ∃ live request response, Linked registers live request response w

/-- The channel is attached and has no pulse left. -/
structure Attending (w : Wired κ S) : Prop where
  linked : ∃ live request response, Linked registers live request response w
  attached : 0 ≤ w.transport.chid
  quiet : w.transport.pulses = 0

/-- What the two transports have in common. -/
structure DmaLaws (queueSize : UInt32 → UInt16) : Prop where
  setup : SetupLaws impl queueSize
  reach : SetupReach impl registers queueSize
  /-- A queue that was just made has no entries. -/
  fresh : ∀ o t live, (impl.setupVirtqueue o t).1 = 0 →
    (impl.setupVirtqueue o t).2.virtqueue = some live → live.queue.availIdx = 0
  kept : ∀ o t, registers (impl.setupVirtqueue o t).2.own = registers t.own
  ends : WaitEnds impl.waitForCompletion
  reads : WaitReads impl.waitForCompletion
  leaves : WaitLeaves impl.waitForCompletion
  prompt : WaitPrompt impl.waitForCompletion

end Exchange

/-! ### The two transports -/

/-- Wherever the rings lie, no entry is in them at first. -/
theorem initializeModern_availIdx (size : UInt16) (allocated : Bool) (memory : QueueMemory) :
    ((Virtqueue.new size).initializeModern allocated memory).2.availIdx = 0 := by
  rw [Virtqueue.initializeModern]
  split <;> rfl

theorem initializeLegacy_availIdx (size : UInt16) (align : UInt32) (allocated : Bool)
    (base : UInt64) :
    ((Virtqueue.new size).initializeLegacy align allocated base).2.availIdx = 0 := by
  rw [Virtqueue.initializeLegacy]
  simp only
  split <;> rfl

namespace MmioTransport

theorem setupVirtqueue_availIdx {o : SetupOutcome} {t : TransportState MmioRegs} {live : LiveQueue}
    (done : (setupVirtqueue o t).1 = 0) (queue : (setupVirtqueue o t).2.virtqueue = some live) :
    live.queue.availIdx = 0 := by
  revert done queue
  simp only [setupVirtqueue]
  split
  · exact fun failed => absurd failed (by decide : (-eio : Int32) ≠ 0)
  · split <;> split <;> intro _ queue
    · cases queue
      exact initializeLegacy_availIdx _ _ _ _
    · simp only [writeReg_virtqueue] at queue
      cases queue
      exact initializeLegacy_availIdx _ _ _ _
    · cases queue
      exact initializeModern_availIdx _ _ _
    · simp only [writeReg_virtqueue] at queue
      cases queue
      exact initializeModern_availIdx _ _ _

theorem dmaLaws : DmaLaws impl MmioRegs.regs queueSize where
  setup := laws
  reach := reach
  fresh _ _ _ := setupVirtqueue_availIdx
  kept o t := by
    simp only [impl, setupVirtqueue_own]
  ends := mmioWait_ends
  reads := mmioWait_reads
  leaves := mmioWait_leaves
  prompt := mmioWait_prompt

end MmioTransport

namespace PciTransport

theorem setupVirtqueue_availIdx {o : SetupOutcome} {t : TransportState PciRegs} {live : LiveQueue}
    (done : (setupVirtqueue o t).1 = 0) (queue : (setupVirtqueue o t).2.virtqueue = some live) :
    live.queue.availIdx = 0 := by
  revert done queue
  simp only [setupVirtqueue]
  split
  · exact fun failed => absurd failed (by decide : (-einval : Int32) ≠ 0)
  · split
    · exact fun failed => absurd failed (by decide : (-eio : Int32) ≠ 0)
    · split <;> intro _ queue <;> cases queue <;> exact initializeModern_availIdx _ _ _

theorem setupVirtqueue_own (o : SetupOutcome) (t : TransportState PciRegs) :
    (setupVirtqueue o t).2.own = t.own := by
  simp only [setupVirtqueue]
  split
  · rfl
  · split
    · rfl
    · split <;> rfl

theorem dmaLaws : DmaLaws impl PciRegs.commonCfg fun maxSize => queueSize maxSize.toUInt16 where
  setup := laws
  reach := reach
  fresh _ _ _ := setupVirtqueue_availIdx
  kept o t := by
    simp only [impl, setupVirtqueue_own]
  ends := pciWait_ends
  reads := pciWait_reads
  leaves := pciWait_leaves
  prompt := pciWait_prompt

end PciTransport

end Virtio9p
