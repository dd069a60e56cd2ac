import Virtio9p.Foundation.Machine
import Virtio9p.Transport.Exchanges
import Virtio9p.Transport.Layout

/-!
# The life of a transport

`Initialize`, `Exchange`, `ResetDevice` and `Shutdown` in any order, and how far a reset gets.
-/
namespace Virtio9p

inductive TransportInput (ω : Type) where
  | initializeTransport (o : ω)
  | exchange (x : ExchangeInput)
  | resetDevice (o : SetupOutcome)
  | shutdown

inductive TransportReply where
  | returned (rc : Int32)
  /-- No reply if `Exchange` does not return. -/
  | exchanged (reply : Option ExchangeReply)
  | closed

/-- A transport whose members are called in any order. -/
def transportMachine {κ ω : Type} (impl : TransportImpl κ)
    (initializeTransport : ω → TransportState κ → Int32 × TransportState κ)
    (shutdown : TransportState κ → TransportState κ) :
    Machine (TransportInput ω) TransportReply (TransportState κ) where
  step
    | .initializeTransport o, t =>
      let result := initializeTransport o t
      (.returned result.1, result.2)
    | .exchange x, t =>
      let result := impl.exchange x t
      (.exchanged result.1, result.2)
    | .resetDevice o, t =>
      let result := impl.resetDevice o t
      (.returned result.1, result.2)
    | .shutdown, t => (.closed, shutdown t)

namespace SetupStep

/-- The steps that follow the mapping of the response buffer. -/
def late : SetupStep → Bool
  | .responseOffset | .channelCreate | .connectAttach | .interruptAttach => true
  | _ => false

/-- The steps of `mapBuffers`. -/
def inMapBuffers : SetupStep → Bool
  | .mapRequest | .requestOffset | .mapResponse => true
  | step => step.late

end SetupStep

/-! ### The buffers -/

namespace TransportState

variable {κ : Type} {o : SetupOutcome} {t : TransportState κ}

/-- What `mapBuffers` leaves if no step of it fails. -/
def mapped (o : SetupOutcome) (t : TransportState κ) : TransportState κ :=
  { t with
    dmaReqVirt := some o.request
    dmaReqPhys := o.request.phys
    dmaRespVirt := some o.response
    dmaRespPhys := o.response.phys
    chid := o.chid.val
    coid := o.coid.val
    irqId := o.irqId.val
    pulses := 0 }

theorem mapBuffers_ok (runs : ∀ step, o.stop = some step → step.inMapBuffers = false) :
    t.mapBuffers o = (0, t.mapped o) := by
  have passes {step : SetupStep} (inside : step.inMapBuffers = true) : o.stop ≠ some step := by
    intro stop
    rw [runs step stop] at inside
    cases inside
  unfold mapBuffers attachInterrupt
  -- one condition for each of the seven steps
  rw [if_neg (passes rfl)]
  simp only
  rw [if_neg (passes rfl), if_neg (passes rfl), if_neg (passes rfl), if_neg (passes rfl),
    if_neg (passes rfl), if_neg (passes rfl)]
  rfl

theorem mapBuffers_failed {step : SetupStep} (stop : o.stop = some step)
    (inside : step.inMapBuffers = true) : (t.mapBuffers o).1 ≠ 0 := by
  have errno := negated_errno o.errno
  cases step with
  | features | queueMemory => cases inside
  | mapRequest | mapResponse => simp [mapBuffers, stop, enomem]
  | requestOffset | responseOffset => simpa [mapBuffers, stop] using errno
  | channelCreate | connectAttach | interruptAttach =>
    simpa [mapBuffers, attachInterrupt, stop] using errno

/-- The response buffer is mapped before the late steps and only then. -/
theorem mapBuffers_stopped {step : SetupStep} (stop : o.stop = some step)
    (inside : step.inMapBuffers = true) (response : t.dmaRespVirt = none)
    (queue : t.virtqueue ≠ none) :
    (t.mapBuffers o).2.Up ↔ step.late = true := by
  unfold Up
  rw [mapBuffers_virtqueue]
  cases step with
  | features | queueMemory => cases inside
  | mapRequest | requestOffset | mapResponse =>
    simp [mapBuffers, stop, response, SetupStep.late]
  | responseOffset | channelCreate | connectAttach | interruptAttach =>
    simp [mapBuffers, attachInterrupt, stop, queue, SetupStep.late]

end TransportState

/-! ### How far a setup gets -/

section Reach

variable {κ : Type}

/-- Which steps before `mapBuffers` fail, for a transport whose registers may be mapped. -/
structure SetupReach (impl : TransportImpl κ) (registers : κ → Bool)
    (queueSize : UInt32 → UInt16) : Prop where
  cleared : ∀ t, registers (impl.clearStatus t).own = registers t.own
  kept : ∀ o t, registers (impl.negotiateFeatures o t).2.own = registers t.own
  negotiated : ∀ o t, registers t.own = true → o.stop ≠ some .features →
    (impl.negotiateFeatures o t).1 = 0
  queued : ∀ o t, (impl.setupVirtqueue o t).1 = 0 ↔
    registers t.own = true ∧ queueSize o.queueNumMax ≠ 0 ∧ o.stop ≠ some .queueMemory

/-- The setup gets as far as the response buffer and stops behind it. -/
def StopsLate (registers : κ → Bool) (queueSize : UInt32 → UInt16) (o : SetupOutcome)
    (t : TransportState κ) : Prop :=
  registers t.own = true ∧ queueSize o.queueNumMax ≠ 0 ∧
    ∃ step, o.stop = some step ∧ step.late = true

variable {impl : TransportImpl κ} {registers : κ → Bool} {queueSize : UInt32 → UInt16}

theorem late_inMapBuffers {step : SetupStep} (late : step.late = true) :
    step.inMapBuffers = true := by
  cases step with
  | features | queueMemory | mapRequest | requestOffset | mapResponse => cases late
  | responseOffset | channelCreate | connectAttach | interruptAttach => rfl

/-- From a transport without buffers, a setup that fails passes the guard of `Exchange` if and
only if it stops late. -/
theorem initializeDevice_stopsLate (laws : SetupLaws impl queueSize)
    (reach : SetupReach impl registers queueSize) (o : SetupOutcome) {t : TransportState κ}
    (request : t.dmaReqVirt = none) (response : t.dmaRespVirt = none) :
    (impl.initializeDevice o t).2.Up ∧ (impl.initializeDevice o t).1 ≠ 0 ↔
      StopsLate registers queueSize o t := by
  have negotiated := laws.negotiated o t
  have queued := laws.queued o (impl.negotiateFeatures o t).2
  have enters := reach.queued o (impl.negotiateFeatures o t).2
  rw [reach.kept] at enters
  unfold TransportImpl.initializeDevice
  simp only
  by_cases refused : (impl.negotiateFeatures o t).1 ≠ 0
  · -- no buffer is mapped, and a late stop lets the negotiation pass
    rw [if_pos refused]
    constructor
    · rintro ⟨up, -⟩
      exact absurd up (TransportState.not_up_of_request (negotiated.request.trans request))
    · rintro ⟨registers, -, step, stop, late⟩
      refine absurd (reach.negotiated o t registers ?_) refused
      rw [stop]
      rintro ⟨⟩
      cases late
  · rw [if_neg refused]
    by_cases failed : (impl.setupVirtqueue o (impl.negotiateFeatures o t).2).1 ≠ 0
    · -- the same for the queue
      rw [if_pos failed]
      constructor
      · rintro ⟨up, -⟩
        exact absurd up (TransportState.not_up_of_request
          (queued.request.trans (negotiated.request.trans request)))
      · rintro ⟨registers, size, step, stop, late⟩
        refine absurd (enters.mpr ⟨registers, size, ?_⟩) failed
        rw [stop]
        rintro ⟨⟩
        cases late
    · rw [if_neg failed]
      obtain ⟨registers, size, -⟩ := enters.mp (not_not.mp failed)
      obtain ⟨-, live, made, -⟩ := laws.made o _ (not_not.mp failed)
      have queue : (impl.setupVirtqueue o (impl.negotiateFeatures o t).2).2.virtqueue ≠ none := by
        rw [made]
        exact Option.some_ne_none live
      have unmapped := queued.response.trans (negotiated.response.trans response)
      -- from here on only a step of `mapBuffers` can fail
      by_cases stops : ∃ step, o.stop = some step ∧ step.inMapBuffers = true
      · obtain ⟨step, stop, inside⟩ := stops
        rw [TransportState.mapBuffers_stopped stop inside unmapped queue]
        constructor
        · rintro ⟨late, -⟩
          exact ⟨registers, size, step, stop, late⟩
        · rintro ⟨-, -, step', stop', late⟩
          cases stop.symm.trans stop'
          exact ⟨late, TransportState.mapBuffers_failed stop inside⟩
      · rw [TransportState.mapBuffers_ok fun step stop =>
          Bool.eq_false_iff.mpr fun inside => stops ⟨step, stop, inside⟩]
        constructor
        · rintro ⟨-, nonzero⟩
          exact absurd rfl nonzero
        · rintro ⟨-, -, step, stop, late⟩
          exact absurd ⟨step, stop, late_inMapBuffers late⟩ stops

/-- A `ResetDevice` that fails leaves the guard of `Exchange` open if and only if it stops
late. -/
theorem resetDevice_stopsLate (laws : SetupLaws impl queueSize)
    (reach : SetupReach impl registers queueSize) (o : SetupOutcome) (t : TransportState κ) :
    (impl.resetDevice o t).2.Up ∧ (impl.resetDevice o t).1 ≠ 0 ↔
      StopsLate registers queueSize o t := by
  have stops := initializeDevice_stopsLate laws reach o
    (t := TransportState.release { impl.clearStatus t with virtqueue := none }) rfl rfl
  have same : registers (impl.clearStatus t).own = registers t.own := reach.cleared t
  unfold StopsLate at stops ⊢
  rw [← same]
  exact stops

end Reach

namespace MmioTransport

/-- The version is read anew. -/
theorem negotiateFeatures_own (o : SetupOutcome) (t : TransportState MmioRegs) :
    (negotiateFeatures o t).2.own = ⟨t.own.regs, readReg o.mmioVersion t⟩ := by
  unfold negotiateFeatures
  simp only
  split
  · simp
  · split <;> split <;> simp

theorem setupVirtqueue_own (o : SetupOutcome) (t : TransportState MmioRegs) :
    (setupVirtqueue o t).2.own = t.own := by
  unfold setupVirtqueue
  simp only
  split
  · rfl
  · split <;> split <;> simp

theorem reach : SetupReach impl MmioRegs.regs queueSize where
  cleared t := by
    simp only [impl, clearStatus, writeReg_own]
  kept o t := by
    have own := negotiateFeatures_own o t
    simp only [impl, own]
  negotiated o t mapped passes := by
    simp only [impl, negotiateFeatures, if_neg passes]
    split
    · rfl
    · rw [if_neg]
      simp [readReg, writeReg_device, mapped]
      decide
  queued o t := by
    simp only [impl, setupVirtqueue]
    cases mapped : t.own.regs with
    | false =>
      -- without registers the queue seems to have no entries
      have absent : readReg o.queueNumMax t = 0 := by simp [readReg, mapped]
      rw [if_pos absent]
      exact ⟨fun zero => absurd zero (by decide : (-eio : Int32) ≠ 0),
        fun enters => absurd enters.1 (by decide)⟩
    | true =>
      have present : readReg o.queueNumMax t = o.queueNumMax := if_pos mapped
      rw [present]
      by_cases none : o.queueNumMax = 0
      · rw [if_pos none, none]
        exact ⟨fun zero => absurd zero (by decide : (-eio : Int32) ≠ 0),
          fun enters => absurd rfl enters.2.1⟩
      · rw [if_neg none]
        have size := (queueSize_eq_zero o.queueNumMax).not.mpr none
        by_cases memory : o.stop = some .queueMemory
        · -- both layouts fail in the allocation
          simp [memory, Virtqueue.initializeLegacy, Virtqueue.initializeModern, enomem]
        · split <;> simp [memory, size, Virtqueue.initializeLegacy, Virtqueue.initializeModern]

end MmioTransport

namespace PciTransport

theorem reach : SetupReach impl PciRegs.commonCfg fun maxSize => queueSize maxSize.toUInt16 where
  cleared t := by
    simp only [impl, clearStatus]
    split <;> rfl
  kept o t := by
    simp only [impl, negotiateFeatures]
    split
    · rfl
    · split <;> split <;> rfl
  negotiated o t mapped passes := by
    simp only [impl, negotiateFeatures, if_neg passes]
    rw [if_neg (by simp [mapped]), if_neg]
    simp [TransportState.onDevice]
    decide
  queued o t := by
    simp only [impl, setupVirtqueue]
    cases mapped : t.own.commonCfg with
    | false =>
      rw [if_pos rfl]
      exact ⟨fun zero => absurd zero (by decide : (-einval : Int32) ≠ 0),
        fun enters => absurd enters.1 (by decide)⟩
    | true =>
      rw [if_neg (by decide)]
      by_cases none : o.queueNumMax.toUInt16 = 0
      · rw [if_pos none, none]
        exact ⟨fun zero => absurd zero (by decide : (-eio : Int32) ≠ 0),
          fun enters => absurd rfl enters.2.1⟩
      · rw [if_neg none]
        have size := (queueSize_eq_zero o.queueNumMax.toUInt16).not.mpr none
        by_cases memory : o.stop = some .queueMemory
        · simp [memory, Virtqueue.initializeModern, enomem]
        · simp [memory, size, Virtqueue.initializeModern]

theorem negotiateFeatures_zero {o : SetupOutcome} {t : TransportState PciRegs}
    (mapped : t.own.commonCfg = true) :
    (negotiateFeatures o t).1 = 0 ↔ o.stop ≠ some .features := by
  by_cases refused : o.stop = some .features
  · -- the device does not keep the bit
    have fails : (negotiateFeatures o t).1 = -eio := by
      simp only [negotiateFeatures, if_pos refused]
      rw [if_neg (by simp [mapped]), if_pos]
      simp only [TransportState.onDevice, Device.setStatus_status]
      decide
    rw [fails]
    exact ⟨fun zero => absurd zero (by decide : (-eio : Int32) ≠ 0), fun runs =>
      absurd refused runs⟩
  · exact ⟨fun _ => refused, reach.negotiated o t mapped⟩

/-- With the registers mapped, a setup succeeds if the queue has entries and no step fails. -/
theorem initializeDevice_zero {o : SetupOutcome} {t : TransportState PciRegs}
    (mapped : t.own.commonCfg = true) :
    (impl.initializeDevice o t).1 = 0 ↔ o.stop = none ∧ o.queueNumMax.toUInt16 ≠ 0 := by
  have negotiated : (impl.negotiateFeatures o t).1 = 0 ↔ o.stop ≠ some .features :=
    negotiateFeatures_zero mapped
  have queued := reach.queued o (impl.negotiateFeatures o t).2
  rw [reach.kept, mapped, and_iff_right rfl, Ne, queueSize_eq_zero] at queued
  unfold TransportImpl.initializeDevice
  simp only
  split
  · rename_i failed
    refine ⟨fun zero => absurd zero failed, fun runs => absurd (negotiated.mpr ?_) failed⟩
    simp [runs.1]
  · split
    · rename_i failed
      refine ⟨fun zero => absurd zero failed, fun runs => absurd (queued.mpr ⟨runs.2, ?_⟩) failed⟩
      simp [runs.1]
    · rename_i passes made
      obtain ⟨size, memory⟩ := queued.mp (not_not.mp made)
      have features := negotiated.mp (not_not.mp passes)
      cases stop : o.stop with
      | none =>
        rw [TransportState.mapBuffers_ok fun step stops => by rw [stop] at stops; cases stops]
        exact ⟨fun _ => ⟨rfl, size⟩, fun _ => rfl⟩
      | some step =>
        refine ⟨fun zero => absurd zero (TransportState.mapBuffers_failed stop ?_), nofun⟩
        cases step with
        | features => exact absurd stop features
        | queueMemory => exact absurd stop memory
        | _ => rfl

end PciTransport

end Virtio9p
