import Virtio9p.Transport.MmioTransport
import Virtio9p.Transport.PciTransport

/-!
# What bringing a transport up leaves

`SetupVirtqueue` leaves a queue with all its descriptors free, and the device with the
addresses of that queue. Nothing before `mapBuffers` touches the bounce buffers.
-/
namespace Virtio9p

/-! ### A queue that was just made -/

@[simp] theorem Device.setStatus_status (status : UInt32) (d : Device) :
    (d.setStatus status).status = status := by
  unfold Device.setStatus
  split
  · rename_i zero
    exact zero.symm
  · rfl

theorem Device.setStatus_queue {status : UInt32} (d : Device) (nonzero : status ≠ 0) :
    (d.setStatus status).queue = d.queue := by
  rw [Device.setStatus, if_neg nonzero]

/-- The device has the addresses of the queue and may use it. -/
def Registered (vq : Virtqueue) (d : Device) : Prop :=
  (d.queue = some vq.legacyRegs ∨ d.queue = some vq.modernRegs) ∧
    d.status &&& Status.driverOk ≠ 0

theorem idle_start (queueSize : UInt16) : Idle queueSize (LiveQueue.start queueSize) :=
  ⟨sound_start queueSize, rfl⟩

/-- The addresses of the ring memory are none of the driver's bookkeeping. -/
theorem Idle.moved {queueSize : UInt16} {live : LiveQueue} (idle : Idle queueSize live)
    (mapped : Bool) (descPhys availPhys usedPhys : UInt64) :
    Idle queueSize ⟨{ live.queue with
      mapped := mapped
      descPhys := descPhys
      availPhys := availPhys
      usedPhys := usedPhys }, live.inFlight⟩ := by
  obtain ⟨⟨size, parts, holds, named, once⟩, empty⟩ := idle
  exact ⟨⟨size, parts, holds, named, once⟩, empty⟩

theorem initializeModern_idle {queueSize : UInt16} {allocated : Bool} {memory : QueueMemory}
    (done : ((Virtqueue.new queueSize).initializeModern allocated memory).1 = 0) :
    Idle queueSize ⟨((Virtqueue.new queueSize).initializeModern allocated memory).2, []⟩ := by
  cases allocated with
  | false => exact absurd done (by decide : -enomem ≠ 0)
  | true => exact (idle_start queueSize).moved true memory.desc memory.avail memory.used

theorem initializeLegacy_idle {queueSize : UInt16} {align : UInt32} {allocated : Bool}
    {base : UInt64}
    (done : ((Virtqueue.new queueSize).initializeLegacy align allocated base).1 = 0) :
    Idle queueSize ⟨((Virtqueue.new queueSize).initializeLegacy align allocated base).2, []⟩ := by
  cases allocated with
  | false => exact absurd done (by decide : -enomem ≠ 0)
  | true => exact (idle_start queueSize).moved true base _ _

/-! ### The laws -/

section Laws

variable {κ : Type}

/-- The members that only `mapBuffers` sets. -/
structure BuffersKept (t t' : TransportState κ) : Prop where
  request : t'.dmaReqVirt = t.dmaReqVirt
  response : t'.dmaRespVirt = t.dmaRespVirt

@[simp] theorem TransportState.onDevice_dmaReqVirt (f : Device → Device) (t : TransportState κ) :
    (t.onDevice f).dmaReqVirt = t.dmaReqVirt := rfl

@[simp] theorem TransportState.onDevice_dmaRespVirt (f : Device → Device)
    (t : TransportState κ) : (t.onDevice f).dmaRespVirt = t.dmaRespVirt := rfl

/-- What holds of the steps before `mapBuffers`. -/
structure SetupLaws (impl : TransportImpl κ) (queueSize : UInt32 → UInt16) : Prop where
  negotiated : ∀ o t, BuffersKept t (impl.negotiateFeatures o t).2
  queued : ∀ o t, BuffersKept t (impl.setupVirtqueue o t).2
  made : ∀ o t, (impl.setupVirtqueue o t).1 = 0 → queueSize o.queueNumMax ≠ 0 ∧
    ∃ live, (impl.setupVirtqueue o t).2.virtqueue = some live ∧
      Idle (queueSize o.queueNumMax) live ∧
      Registered live.queue (impl.setupVirtqueue o t).2.device

end Laws

namespace MmioTransport

variable {o : SetupOutcome} {t : TransportState MmioRegs} (f : Device → Device)

@[simp] theorem writeReg_dmaReqVirt : (writeReg f t).dmaReqVirt = t.dmaReqVirt := by
  unfold writeReg
  split <;> rfl

@[simp] theorem writeReg_dmaRespVirt : (writeReg f t).dmaRespVirt = t.dmaRespVirt := by
  unfold writeReg
  split <;> rfl

@[simp] theorem writeReg_virtqueue : (writeReg f t).virtqueue = t.virtqueue := by
  unfold writeReg
  split <;> rfl

@[simp] theorem writeReg_own : (writeReg f t).own = t.own := by
  unfold writeReg
  split <;> rfl

/-- A write reaches the device behind the mapping. -/
theorem writeReg_device (mapped : t.own.regs = true) : (writeReg f t).device = f t.device := by
  rw [writeReg, if_pos mapped]
  rfl

theorem queueSize_eq_zero (maxSize : UInt32) : queueSize maxSize = 0 ↔ maxSize = 0 := by
  unfold queueSize
  split
  · rename_i small
    -- the register has 32 bits, but a size below 128 is not truncated
    have small : maxSize.toNat < 128 := small
    rw [← UInt16.toNat_inj, ← UInt32.toNat_inj, UInt32.toNat_toUInt16,
      Nat.mod_eq_of_lt (by omega)]
    rfl
  · rename_i large
    constructor
    · intro wrong
      cases wrong
    · rintro rfl
      exact absurd (by decide) large

theorem laws : SetupLaws impl queueSize where
  negotiated o t := by
    simp only [impl, negotiateFeatures]
    split
    · constructor <;> simp
    · -- the device may clear FEATURES_OK
      split <;> split <;> constructor <;> simp
  queued o t := by
    simp only [impl, setupVirtqueue]
    split
    · exact ⟨rfl, rfl⟩
    · split
      · split
        · exact ⟨rfl, rfl⟩
        · constructor <;> simp
      · split
        · exact ⟨rfl, rfl⟩
        · constructor <;> simp
  made o t done := by
    simp only [impl, setupVirtqueue] at done ⊢
    -- without registers or without entries `SetupVirtqueue` fails
    by_cases none : readReg o.queueNumMax t = 0
    · rw [if_pos none] at done
      exact absurd done (by decide : (-eio : Int32) ≠ 0)
    have mapped : t.own.regs = true := by
      by_contra unmapped
      exact none (if_neg unmapped)
    have size : readReg o.queueNumMax t = o.queueNumMax := if_pos mapped
    rw [if_neg none] at done ⊢
    rw [size] at none done ⊢
    refine ⟨(queueSize_eq_zero o.queueNumMax).not.mpr none, ?_⟩
    -- the two layouts differ in the registers that get the addresses
    by_cases legacy : t.own.mmioVersion = 1
    · simp only [if_pos legacy] at done ⊢
      split at done
      · rename_i failed
        exact absurd done failed
      · rename_i made
        have made := not_not.mp made
        rw [if_neg (not_not_intro made)]
        refine ⟨_, by simp, initializeLegacy_idle made, ?_, ?_⟩
        · rw [writeReg_device _ (by simpa using mapped), Device.setStatus_queue _ (by decide),
            writeReg_device _ (by exact mapped)]
          exact .inl rfl
        · rw [writeReg_device _ (by simpa using mapped), Device.setStatus_status]
          decide
    · simp only [if_neg legacy] at done ⊢
      split at done
      · rename_i failed
        exact absurd done failed
      · rename_i made
        have made := not_not.mp made
        rw [if_neg (not_not_intro made)]
        refine ⟨_, by simp, initializeModern_idle made, ?_, ?_⟩
        · rw [writeReg_device _ (by simpa using mapped), Device.setStatus_queue _ (by decide),
            writeReg_device _ (by exact mapped)]
          exact .inr rfl
        · rw [writeReg_device _ (by simpa using mapped), Device.setStatus_status]
          decide

end MmioTransport

namespace PciTransport

theorem queueSize_eq_zero (maxSize : UInt16) : queueSize maxSize = 0 ↔ maxSize = 0 := by
  unfold queueSize
  split
  · exact Iff.rfl
  · rename_i large
    constructor
    · intro wrong
      cases wrong
    · rintro rfl
      exact absurd (by decide) large

theorem laws : SetupLaws impl fun maxSize => queueSize maxSize.toUInt16 where
  negotiated o t := by
    simp only [impl, negotiateFeatures]
    split
    · exact ⟨rfl, rfl⟩
    · split <;> split <;> constructor <;> simp
  queued o t := by
    simp only [impl, setupVirtqueue]
    split
    · exact ⟨rfl, rfl⟩
    · split
      · exact ⟨rfl, rfl⟩
      · split <;> exact ⟨rfl, rfl⟩
  made o t done := by
    simp only [impl, setupVirtqueue] at done ⊢
    by_cases absent : t.own.commonCfg = false
    · rw [if_pos absent] at done
      exact absurd done (by decide : (-einval : Int32) ≠ 0)
    rw [if_neg absent] at done ⊢
    by_cases none : o.queueNumMax.toUInt16 = 0
    · rw [if_pos none] at done
      exact absurd done (by decide : (-eio : Int32) ≠ 0)
    rw [if_neg none] at done ⊢
    refine ⟨(queueSize_eq_zero o.queueNumMax.toUInt16).not.mpr none, ?_⟩
    split at done
    · rename_i failed
      exact absurd done failed
    · rename_i made
      have made := not_not.mp made
      rw [if_neg (not_not_intro made)]
      refine ⟨_, rfl, initializeModern_idle made, ?_, ?_⟩
      · change (Device.setStatus _ _).queue = _ ∨ (Device.setStatus _ _).queue = _
        rw [Device.setStatus_queue _ (by decide)]
        exact .inr rfl
      · change (Device.setStatus _ _).status &&& _ ≠ 0
        rw [Device.setStatus_status]
        decide

end PciTransport

end Virtio9p
