import Virtio9p.Transport.SetupLaws
import Virtio9p.Transport.WaitFrame

/-!
# The ring memory stays where it is

Neither the driver's calls nor the device's completions change the size of a queue or the
addresses of its parts, so a queue that is registered stays registered while it is used.
-/
namespace Virtio9p

namespace Virtqueue

/-- What the registers of the device are computed from. -/
def layout (vq : Virtqueue) : UInt16 × QueueMemory :=
  (vq.queueSize, ⟨vq.descPhys, vq.availPhys, vq.usedPhys⟩)

variable {vq vq' : Virtqueue}

theorem legacyRegs_congr (same : vq'.layout = vq.layout) : vq'.legacyRegs = vq.legacyRegs := by
  obtain ⟨size, memory⟩ := Prod.mk.inj same
  obtain ⟨desc, -, -⟩ := QueueMemory.mk.inj memory
  rw [legacyRegs, size, desc]
  rfl

theorem modernRegs_congr (same : vq'.layout = vq.layout) : vq'.modernRegs = vq.modernRegs := by
  obtain ⟨size, memory⟩ := Prod.mk.inj same
  obtain ⟨desc, avail, used⟩ := QueueMemory.mk.inj memory
  rw [modernRegs, size, desc, avail, used]
  rfl

theorem addBuf_layout (outPhys : UInt64) (outLen : UInt32) (inPhys : UInt64) (inLen : UInt32) :
    (vq.addBuf outPhys outLen inPhys inLen).2.layout = vq.layout := by
  unfold addBuf
  split <;> rfl

theorem freeChain_layout {fuel : Nat} {i : UInt16} (freed : vq.freeChain fuel i = some vq') :
    vq'.layout = vq.layout := by
  induction fuel generalizing i vq with
  | zero => cases freed
  | succ fuel ih =>
    rw [freeChain] at freed
    split at freed
    · exact (ih freed).trans rfl
    · cases freed
      rfl

theorem getBuf_layout {fuel : Nat} {outLen : UInt32} {got : Int32 × UInt32}
    (done : vq.getBuf fuel outLen = some (got, vq')) : vq'.layout = vq.layout := by
  unfold getBuf at done
  split at done
  · cases done
    rfl
  · obtain ⟨freed, chain, result⟩ := Option.map_eq_some_iff.mp done
    cases result
    exact (freeChain_layout chain : freed.layout = vq.layout)

end Virtqueue

theorem Registered.moved {vq vq' : Virtqueue} {d : Device} (registered : Registered vq d)
    (same : vq'.layout = vq.layout) : Registered vq' d := by
  unfold Registered at registered ⊢
  rw [Virtqueue.legacyRegs_congr same, Virtqueue.modernRegs_congr same]
  exact registered

/-! ### Live queues -/

namespace LiveQueue

variable {live live' : LiveQueue}

theorem addBuf_layout (outPhys : UInt64) (outLen : UInt32) (inPhys : UInt64) (inLen : UInt32) :
    (live.addBuf outPhys outLen inPhys inLen).2.queue.layout = live.queue.layout := by
  unfold addBuf
  simp only
  split <;> exact Virtqueue.addBuf_layout outPhys outLen inPhys inLen

theorem complete_layout (head : UInt16) (outLen : UInt32) :
    (live.complete head outLen).queue.layout = live.queue.layout := by
  unfold complete
  split <;> rfl

theorem getBuf_layout {fuel : Nat} {outLen : UInt32} {got : Int32 × UInt32}
    (done : live.getBuf fuel outLen = some (got, live')) :
    live'.queue.layout = live.queue.layout := by
  obtain ⟨⟨got, vq⟩, queue, result⟩ := Option.map_eq_some_iff.mp done
  cases result
  exact Virtqueue.getBuf_layout queue

end LiveQueue

/-! ### Waits -/

namespace WaitState

/-- Where the rings of the queue lie. -/
def layout (s : WaitState) : UInt16 × QueueMemory := s.live.queue.layout

variable {s : WaitState}

theorem layout_fixed : WaitFixed layout where
  elapse s e := by
    cases e with
    | pulse => rfl
    | complete head outLen => exact LiveQueue.complete_layout head outLen
    | tick => rfl
  getBuf s outLen got s' looked := by
    obtain ⟨⟨got, live⟩, queue, result⟩ := Option.map_eq_some_iff.mp looked
    cases result
    exact LiveQueue.getBuf_layout queue
  pulses _ _ := rfl

theorem elapsed_layout (es : List WaitEvent) : (s.elapsed es).layout = s.layout :=
  layout_fixed.elapsed es s

end WaitState

/-- A wait leaves the rings where they are. -/
def WaitKeeps (wait : List WaitEvent → WaitState → Waited) : Prop :=
  ∀ es s done es' s', wait es s = some (done, es', s') → s'.layout = s.layout

theorem mmioWait_keeps : WaitKeeps mmioWaitForCompletion :=
  mmioWait_leaves WaitState.layout WaitState.layout_fixed

theorem pciWait_keeps : WaitKeeps pciWaitForCompletion :=
  pciWait_leaves WaitState.layout WaitState.layout_fixed

end Virtio9p
