import Virtio9p.Properties.ResetState
import Virtio9p.Transport.MmioAccess

/-!
# Accesses to the mapped registers

Which bytes of the mapped region the MMIO transport gets at, over any run of its members. The
mount tag is the part that may lie behind the end.
-/
namespace Virtio9p

namespace MmioTransport

variable (o : SetupOutcome) (t : TransportState MmioRegs)

theorem negotiateFeatures_code (mapped : t.own.regs = true) :
    (negotiateFeatures o t).1 = 0 ↔ o.mmioVersion = 1 ∨ o.stop ≠ some .features := by
  unfold negotiateFeatures
  simp only [writeReg_own, readReg, mapped, if_true]
  by_cases legacy : o.mmioVersion = 1
  · simp [legacy]
  · rw [if_neg legacy]
    by_cases refused : o.stop = some .features
    · rw [if_pos refused, if_pos]
      · simp [legacy, refused, eio]
      · simp [writeReg_device]
        decide
    · rw [if_neg refused, if_neg]
      · simp [refused]
      · simp [writeReg_device]
        decide

theorem initializeDevice_regs : (impl.initializeDevice o t).2.own.regs = t.own.regs := by
  have kept : (negotiateFeatures o t).2.own.regs = t.own.regs := reach.kept o t
  unfold TransportImpl.initializeDevice
  simp only
  split
  · exact kept
  · split
    · exact (congrArg MmioRegs.regs (setupVirtqueue_own o _)).trans kept
    · rw [TransportState.mapBuffers_own]
      exact (congrArg MmioRegs.regs (setupVirtqueue_own o _)).trans kept

theorem resetDevice_regs : (impl.resetDevice o t).2.own.regs = t.own.regs := by
  unfold TransportImpl.resetDevice
  simp only
  rw [initializeDevice_regs]
  exact reach.cleared t

theorem exchange_regs (x : ExchangeInput) : (impl.exchange x t).2.own.regs = t.own.regs := by
  obtain ⟨queue, pulses, kept | reset⟩ := impl.exchange_state x t
  · rw [kept]
  · rw [reset]
    exact resetDevice_regs x.reset _

end MmioTransport

namespace LoggedMmio

open Mmio

/-- All accesses lie in the first `size` bytes. -/
def Inside (size : Nat) (l : LoggedMmio) : Prop := ∀ a ∈ l.log, a.Within ⟨0, size⟩

section Steps

variable {size : Nat} {l : LoggedMmio}

/-! ### One access -/

@[simp] theorem on_inside (f : TransportState MmioRegs → TransportState MmioRegs) :
    (l.on f).Inside size ↔ l.Inside size := Iff.rfl

@[simp] theorem touch_inside (offset width : Nat) :
    (l.touch offset width).Inside size ↔
      l.Inside size ∧ (l.transport.own.regs = true → offset + width ≤ size) := by
  have within : (⟨offset, width⟩ : Extent).Within ⟨0, size⟩ ↔ offset + width ≤ size := by
    simp [Extent.Within, Extent.stop]
  unfold touch Inside
  split <;> rename_i regs
  · simp only [List.forall_mem_append, List.forall_mem_singleton, within, regs, true_imp_iff]
  · simp only [regs, false_imp_iff, and_true, Bool.false_eq_true]

@[simp] theorem readReg_inside (offset : Nat) (value : UInt32) :
    (l.readReg offset value).2.Inside size ↔
      l.Inside size ∧ (l.transport.own.regs = true → offset + 4 ≤ size) :=
  touch_inside offset 4

@[simp] theorem writeReg_inside (offset : Nat) (f : Device → Device) :
    (l.writeReg offset f).Inside size ↔
      l.Inside size ∧ (l.transport.own.regs = true → offset + 4 ≤ size) :=
  touch_inside offset 4

@[simp] theorem writeOther_inside (offset : Nat) :
    (l.writeOther offset).Inside size ↔
      l.Inside size ∧ (l.transport.own.regs = true → offset + 4 ≤ size) :=
  touch_inside offset 4

@[simp] theorem setStatus_inside (value : UInt32) :
    (l.setStatus value).Inside size ↔
      l.Inside size ∧ (l.transport.own.regs = true → 0x74 ≤ size) :=
  touch_inside status 4

/-! ### Bringing the device up -/

/-- The registers of a modern queue are written. -/
def ProgramsModern (o : SetupOutcome) : Prop :=
  o.mmioVersion ≠ 1 ∧ o.queueNumMax ≠ 0 ∧ o.stop ≠ some .features ∧ o.stop ≠ some .queueMemory

instance (o : SetupOutcome) : Decidable (ProgramsModern o) := inferInstanceAs (Decidable (_ ∧ _))

theorem negotiateFeatures_inside (o : SetupOutcome) :
    (l.negotiateFeatures o).2.Inside size ↔
      l.Inside size ∧ (l.transport.own.regs = true → 0x74 ≤ size) := by
  unfold negotiateFeatures
  simp only [readReg_fst, readReg_transport, on_transport, setStatus_transport,
    writeReg_transport, writeOther_transport, readReg_writeReg, MmioTransport.writeReg_own]
  split
  · simp [version, guestPageSize, deviceFeaturesSel, deviceFeatures, driverFeaturesSel,
      driverFeatures]
    grind
  · -- the last access is one to the status, whether the features are accepted or not
    generalize (if o.stop = some .features then ~~~Status.featuresOk else ~~~0) = accepted
    split
    all_goals
      simp [version, status, deviceFeaturesSel, deviceFeatures, driverFeaturesSel, driverFeatures]
      grind

@[simp] theorem writeModernRegs_inside (vq : Virtqueue) :
    (l.writeModernRegs vq).Inside size ↔
      l.Inside size ∧ (l.transport.own.regs = true → 0xA8 ≤ size) := by
  simp [writeModernRegs, queueDescLow, queueDescHigh, queueAvailLow, queueAvailHigh, queueUsedLow,
    queueUsedHigh, queueReady]
  grind

/-- Behind a queue that is allocated come the registers of its layout. -/
theorem setupVirtqueue_inside (o : SetupOutcome) :
    (l.setupVirtqueue o).2.Inside size ↔
      l.Inside size ∧ (l.transport.own.regs = true → 0x38 ≤ size ∧
        (o.queueNumMax ≠ 0 → o.stop ≠ some .queueMemory →
          0x74 ≤ size ∧ (l.transport.own.mmioVersion ≠ 1 → 0xA8 ≤ size))) := by
  unfold setupVirtqueue
  simp only [readReg_fst, readReg_transport, writeOther_transport]
  cases regs : l.transport.own.regs with
  | false =>
    have absent : MmioTransport.readReg o.queueNumMax l.transport = 0 := by
      simp [MmioTransport.readReg, regs]
    rw [absent, if_pos rfl]
    simp [regs]
  | true =>
    have present : MmioTransport.readReg o.queueNumMax l.transport = o.queueNumMax := if_pos regs
    rw [present]
    by_cases none : o.queueNumMax = 0
    · rw [if_pos none]
      simp [regs, none, queueSel, queueNumMax]
      grind
    · rw [if_neg none]
      by_cases memory : o.stop = some .queueMemory
      · -- both layouts stop at the allocation
        simp only [memory, Virtqueue.initializeLegacy, Virtqueue.initializeModern, enomem]
        split <;> simp [regs, queueSel, queueNumMax] <;> grind
      · have allocated : decide (o.stop ≠ some .queueMemory) = true := decide_eq_true memory
        simp only [allocated, Virtqueue.initializeLegacy, Virtqueue.initializeModern]
        split
        · simp [regs, none, memory, queueSel, queueNumMax, queueNum, queueAlign, queuePfn]
          grind
        · simp [regs, none, memory, queueSel, queueNumMax, queueNum]
          grind

/-- Behind the queue come only the buffers, which are no registers. -/
theorem initializeDevice_log {o : SetupOutcome} (negotiated : (l.negotiateFeatures o).1 = 0) :
    (l.initializeDevice o).2.log = ((l.negotiateFeatures o).2.setupVirtqueue o).2.log := by
  rw [initializeDevice, if_neg (not_not_intro negotiated)]
  simp only
  split <;> rfl

theorem initializeDevice_inside (o : SetupOutcome) :
    (l.initializeDevice o).2.Inside size ↔
      l.Inside size ∧ (l.transport.own.regs = true → 0x74 ≤ size ∧
        (ProgramsModern o → 0xA8 ≤ size)) := by
  have plain := l.negotiateFeatures_transport o
  have code : (l.negotiateFeatures o).1 = (MmioTransport.negotiateFeatures o l.transport).1 :=
    congrArg Prod.fst plain
  have own : (l.negotiateFeatures o).2.transport.own =
      ⟨l.transport.own.regs, MmioTransport.readReg o.mmioVersion l.transport⟩ :=
    (congrArg (fun r : Int32 × TransportState MmioRegs => r.2.own) plain).trans
      (MmioTransport.negotiateFeatures_own o l.transport)
  have queued : ((l.negotiateFeatures o).2.setupVirtqueue o).2.Inside size ↔ _ :=
    setupVirtqueue_inside o
  rw [negotiateFeatures_inside, own] at queued
  have passes (mapped : l.transport.own.regs = true) :
      (l.negotiateFeatures o).1 = 0 ↔ o.mmioVersion = 1 ∨ o.stop ≠ some .features := by
    rw [code]
    exact MmioTransport.negotiateFeatures_code o l.transport mapped
  by_cases refused : (l.negotiateFeatures o).1 ≠ 0
  · rw [initializeDevice, if_pos refused, negotiateFeatures_inside]
    refine and_congr_right fun _ => forall_congr' fun mapped => ?_
    have modern : ¬ ProgramsModern o := fun ⟨_, _, features, _⟩ =>
      refused ((passes mapped).mpr (.inr features))
    simp only [modern, false_imp_iff, and_true]
  · have same := initializeDevice_log (not_not.mp refused)
    unfold Inside at queued ⊢
    rw [same, queued, and_assoc]
    refine and_congr_right fun _ => ?_
    cases mapped : l.transport.own.regs with
    | false => simp
    | true =>
      have version : MmioTransport.readReg o.mmioVersion l.transport = o.mmioVersion :=
        if_pos mapped
      have accepted := (passes mapped).mp (not_not.mp refused)
      simp only [version, ProgramsModern]
      grind

@[simp] theorem awaitReset_inside (reads : Nat) (values : List UInt32)
    (room : l.transport.own.regs = true → 0x74 ≤ size) :
    (l.awaitReset reads values).Inside size ↔ l.Inside size := by
  induction reads generalizing values l with
  | zero => exact Iff.rfl
  | succ reads ih =>
    have read : (l.readReg status (values.headD 0)).2.Inside size ↔ l.Inside size :=
      (readReg_inside status _).trans (and_iff_left room)
    rw [awaitReset]
    split
    · exact read
    · rw [ih _ (by rwa [readReg_transport]), read]

theorem resetDevice_inside (o : SetupOutcome) (values : List UInt32) :
    (l.resetDevice o values).2.Inside size ↔
      l.Inside size ∧ (l.transport.own.regs = true → 0x74 ≤ size ∧
        (ProgramsModern o → 0xA8 ≤ size)) := by
  unfold resetDevice
  simp only [on_inside]
  rw [initializeDevice_inside, on_inside]
  by_cases mapped : l.transport.own.regs = true
  · rw [if_pos mapped]
    have same : (((l.setStatus 0).awaitReset 100 values).on fun t =>
        TransportState.release { t with virtqueue := none }).transport.own = l.transport.own := by
      rw [on_transport, awaitReset_transport, setStatus_transport]
      exact MmioTransport.writeReg_own _
    rw [same]
    simp only [mapped, true_imp_iff]
    refine and_congr_left fun ⟨room, _⟩ => ?_
    rw [awaitReset_inside 100 values fun _ => room, setStatus_inside, and_iff_left fun _ => room]
  · rw [if_neg mapped]
    rfl

theorem shutdown_inside :
    l.shutdown.Inside size ↔ l.Inside size ∧ (l.transport.own.regs = true → 0x74 ≤ size) := by
  have released : (l.on TransportState.release).transport.own = l.transport.own := rfl
  rw [shutdown, on_inside, setStatus_inside, on_inside, released]

/-- `Initialize` gets at the status in any case, also when it gives up. -/
theorem initializeTransport_inside (o : MmioOutcome) :
    (l.initializeTransport o).2.Inside size ↔
      l.Inside size ∧ (o.unmapped = none → 0x74 ≤ size ∧
        (o.magic = 0x74726976 → o.deviceId = 9 → ProgramsModern o.setup → 0xA8 ≤ size)) := by
  unfold initializeTransport
  cases unmapped : o.unmapped with
  | some errno => simp
  | none =>
    let up := l.on fun t => { t with own := { t.own with regs := true }, completed := false }
    let first := (up.readReg magicValue o.magic).2
    let second := (first.readReg deviceId o.deviceId).2
    have firstMapped : first.transport.own.regs = true := by
      rw [readReg_transport]
      rfl
    have secondMapped : second.transport.own.regs = true := by
      rw [readReg_transport, firstMapped]
    have firstInside : first.Inside size ↔ l.Inside size ∧ 4 ≤ size :=
      (readReg_inside (l := up) magicValue _).trans (by simp [up, magicValue])
    have secondInside : second.Inside size ↔ first.Inside size ∧ 12 ≤ size :=
      (readReg_inside (l := first) deviceId _).trans (by simp [firstMapped, deviceId])
    have setUp : (second.initializeDevice o.setup).2.Inside size ↔
        second.Inside size ∧ 0x74 ≤ size ∧ (ProgramsModern o.setup → 0xA8 ≤ size) := by
      rw [initializeDevice_inside, secondMapped]
      simp only [true_imp_iff]
    -- the registers read are the ones that the device has
    change (if o.magic ≠ 0x74726976 then (-enodev, first.shutdown)
      else if o.deviceId ≠ 9 then (-enodev, second.shutdown)
      else if (second.initializeDevice o.setup).1 ≠ 0 then
        ((second.initializeDevice o.setup).1, (second.initializeDevice o.setup).2.shutdown)
      else (0, (second.initializeDevice o.setup).2.on
        fun t => { t with completed := true })).2.Inside size ↔ _
    simp only [true_imp_iff]
    by_cases magic : o.magic ≠ 0x74726976
    · rw [if_pos magic, shutdown_inside, firstMapped, firstInside]
      grind
    · rw [if_neg magic]
      by_cases device : o.deviceId ≠ 9
      · rw [if_pos device, shutdown_inside, secondMapped, secondInside, firstInside]
        grind
      · rw [if_neg device]
        split
        · rw [shutdown_inside, setUp, secondInside, firstInside]
          grind
        · rw [on_inside, setUp, secondInside, firstInside]
          grind

theorem readTag_inside (tag : Nat → UInt8) (left i : Nat) (mapped : l.transport.own.regs = true) :
    (readTag tag left i l).2.Inside size ↔
      l.Inside size ∧ (left ≠ 0 → 0x102 + i + left ≤ size) := by
  induction left generalizing i l with
  | zero => simp [readTag]
  | succ left ih =>
    rw [readTag]
    simp only
    rw [ih (i + 1) (by rwa [touch_transport]), touch_inside]
    simp only [mapped, config, true_imp_iff]
    grind

theorem getMountTag_inside (tagLen : UInt16) (tag : Nat → UInt8) :
    (l.getMountTag tagLen tag).2.Inside size ↔
      l.Inside size ∧ (l.transport.own.regs = true → 0x102 ≤ size ∧
        (tagLen ≠ 0 → tagLen ≤ 256 → 0x102 + tagLen.toNat ≤ size)) := by
  unfold getMountTag
  by_cases unmapped : l.transport.own.regs = false
  · rw [if_pos unmapped]
    simp [unmapped]
  · have mapped : l.transport.own.regs = true := by simpa using unmapped
    have prefixed : (l.touch config 2).Inside size ↔ l.Inside size ∧ 0x102 ≤ size :=
      (touch_inside config 2).trans (by simp [mapped, config])
    rw [if_neg unmapped]
    simp only [mapped, true_imp_iff]
    by_cases refused : tagLen = 0 ∨ tagLen > 256
    · rw [if_pos refused, prefixed]
      have none : ¬ (tagLen ≠ 0 ∧ tagLen ≤ 256) := by
        rintro ⟨some, small⟩
        exact refused.elim some (UInt16.not_lt.mpr small)
      grind
    · rw [if_neg refused]
      have some : tagLen.toNat ≠ 0 := fun zero => refused (.inl (UInt16.toNat_inj.mp zero))
      have accepted : tagLen ≠ 0 ∧ tagLen ≤ 256 :=
        ⟨fun zero => refused (.inl zero), UInt16.not_lt.mp fun large => refused (.inr large)⟩
      rw [readTag_inside tag _ 0 (by rwa [touch_transport]), prefixed]
      simp only [some, accepted, true_imp_iff, ne_eq, not_false_eq_true, Nat.add_zero, and_assoc]

/-! ### An exchange -/

/-- The wait of an `Exchange` behind its guard fails, which takes it to the reset. -/
def WaitFails (live : LiveQueue) (x : ExchangeInput) (t : TransportState MmioRegs) : Prop :=
  let added := live.addBuf t.dmaReqPhys (UInt32.ofNat x.request.length) t.dmaRespPhys
    maxMessageSize
  ¬ added.1 < 0 ∧ ∃ done es s, mmioWaitForCompletion x.events
    (WaitState.elapsed ⟨added.2, 0 ≤ t.chid, t.pulses⟩ x.early) = some (done, es, s) ∧ done.rc < 0

def ExchangeResets (x : ExchangeInput) (t : TransportState MmioRegs) : Prop :=
  t.dmaReqVirt ≠ none ∧ t.dmaRespVirt ≠ none ∧
    ∃ live, t.virtqueue = some live ∧ WaitFails live x t

theorem waitForCompletion_inside (es : List WaitEvent) (s : WaitState)
    (room : l.transport.own.regs = true → 0x74 ≤ size) :
    (l.waitForCompletion es s).2.Inside size ↔ l.Inside size := by
  have isr : l.transport.own.regs = true → interruptStatus + 4 ≤ size :=
    fun mapped => le_trans (by decide) (room mapped)
  have ack : l.transport.own.regs = true → interruptAck + 4 ≤ size :=
    fun mapped => le_trans (by decide) (room mapped)
  unfold waitForCompletion
  split
  · exact Iff.rfl
  · rw [writeOther_inside, readReg_transport, readReg_inside, and_iff_left ack, and_iff_left isr]

theorem exchangeLive_inside (live : LiveQueue) (x : ExchangeInput) (values : List UInt32)
    (room : l.transport.own.regs = true → 0x74 ≤ size) :
    ((steps values).exchangeLive live x l).2.Inside size ↔
      l.Inside size ∧ (l.transport.own.regs = true → WaitFails live x l.transport →
        ProgramsModern x.reset → 0xA8 ≤ size) := by
  let added := live.addBuf l.transport.dmaReqPhys (UInt32.ofNat x.request.length)
    l.transport.dmaRespPhys maxMessageSize
  let s := WaitState.elapsed ⟨added.2, 0 ≤ l.transport.chid, l.transport.pulses⟩ x.early
  let notified := (l.writeOther queueNotify).waitForCompletion x.events s
  have notify : l.transport.own.regs = true → queueNotify + 4 ≤ size :=
    fun mapped => le_trans (by decide) (room mapped)
  have inside : notified.2.Inside size ↔ l.Inside size := by
    rw [waitForCompletion_inside _ _ (by rwa [writeOther_transport]), writeOther_inside,
      and_iff_left notify]
  have own : notified.2.transport.own = l.transport.own := by
    rw [waitForCompletion_transport, writeOther_transport]
  have ends : (notified.1 : Waited) = mmioWaitForCompletion x.events s :=
    waitForCompletion_fst _ x.events s
  rcases ExchangeSteps.exchangeLive_state (steps values) live x l with
    ⟨full, state⟩ | ⟨full, ⟨waited, state⟩ | ⟨done, es, s', waited, ended⟩⟩
  · rw [state]
    exact (and_iff_left fun _ fails => absurd full fails.1).symm
  · rw [state]
    refine inside.trans (and_iff_left ?_).symm
    rintro - ⟨-, done, es, s', returned, -⟩
    cases (ends.symm.trans waited).symm.trans returned
  · have returned : mmioWaitForCompletion x.events s = some (done, es, s') := ends.symm.trans waited
    rcases ended with ⟨failed, state⟩ | ⟨done_ok, state⟩
    · rw [state]
      refine (resetDevice_inside _ _).trans ?_
      change (notified.2.Inside size ∧ (notified.2.transport.own.regs = true → _)) ↔ _
      rw [inside, own]
      refine and_congr_right fun _ => forall_congr' fun mapped => ?_
      exact ⟨fun enough _ => enough.2,
        fun modern => ⟨room mapped, modern ⟨full, done, es, s', returned, failed⟩⟩⟩
    · rw [state]
      refine inside.trans (and_iff_left ?_).symm
      rintro - ⟨-, done', es', s'', again, failed⟩
      cases returned.symm.trans again
      exact absurd failed done_ok

/-- Where the status is in the region, so is what `Exchange` needs, up to the reset. -/
theorem exchange_inside (x : ExchangeInput) (values : List UInt32)
    (room : l.transport.own.regs = true → 0x74 ≤ size) :
    (l.exchange x values).2.Inside size ↔
      l.Inside size ∧ (l.transport.own.regs = true → ExchangeResets x l.transport →
        ProgramsModern x.reset → 0xA8 ≤ size) := by
  unfold exchange ExchangeSteps.exchange ExchangeResets
  simp only [show (steps values).transport l = l.transport from rfl]
  split
  · rename_i live _ _ queue request response
    rw [exchangeLive_inside live x values room, request, response, queue]
    simp
  · rename_i refused
    refine (and_iff_left ?_).symm
    rintro - ⟨request, response, live, queue, -⟩
    obtain ⟨req, request⟩ := Option.ne_none_iff_exists'.mp request
    obtain ⟨resp, response⟩ := Option.ne_none_iff_exists'.mp response
    exact absurd response (refused live req resp queue request)

end Steps

end LoggedMmio

/-! ### Runs -/

open LoggedMmio

/-- A call of a member function, with what it finds in the registers and the configuration. -/
inductive MmioCall where
  | initializeTransport (o : MmioOutcome)
  | exchange (x : ExchangeInput) (values : List UInt32)
  | resetDevice (o : SetupOutcome) (values : List UInt32)
  | getMountTag (tagLen : UInt16) (tag : Nat → UInt8)
  | shutdown

def MmioCall.run : MmioCall → LoggedMmio → LoggedMmio
  | .initializeTransport o, l => (l.initializeTransport o).2
  | .exchange x values, l => (l.exchange x values).2
  | .resetDevice o values, l => (l.resetDevice o values).2
  | .getMountTag tagLen tag, l => (l.getMountTag tagLen tag).2
  | .shutdown, l => l.shutdown

/-- The output of a step is the accesses of one call. -/
def accessMachine : Machine MmioCall (List Extent) (TransportState MmioRegs) where
  step call t := ((call.run ⟨t, []⟩).log, (call.run ⟨t, []⟩).transport)

/-- The same call without the log; `GetMountTag` leaves the transport alone. -/
def MmioCall.plain : MmioCall → Option (TransportInput MmioOutcome)
  | .initializeTransport o => some (.initializeTransport o)
  | .exchange x _ => some (.exchange x)
  | .resetDevice o _ => some (.resetDevice o)
  | .getMountTag .. => none
  | .shutdown => some .shutdown

theorem accessMachine_plain (call : MmioCall) (t : TransportState MmioRegs) :
    (accessMachine.step call t).2 =
      (call.plain.map fun input => (mmioMachine.step input t).2).getD t := by
  cases call with
  | initializeTransport o => exact congrArg Prod.snd (initializeTransport_transport ⟨t, []⟩ o)
  | exchange x values => exact congrArg Prod.snd (exchange_transport ⟨t, []⟩ x values)
  | resetDevice o values => exact congrArg Prod.snd (resetDevice_transport ⟨t, []⟩ o values)
  | getMountTag tagLen tag => exact getMountTag_transport ⟨t, []⟩ tagLen tag
  | shutdown => exact shutdown_transport ⟨t, []⟩

/-- What a call needs of the region: the status register when the registers are mapped, the
registers of a modern queue when one is set up, and the mount tag when it is read. -/
def Fits (size : Nat) : MmioCall → TransportState MmioRegs → Prop
  | .initializeTransport o, _ => o.unmapped = none → 0x74 ≤ size ∧
      (o.magic = 0x74726976 → o.deviceId = 9 → ProgramsModern o.setup → 0xA8 ≤ size)
  | .exchange x _, t => t.own.regs = true → ExchangeResets x t →
      ProgramsModern x.reset → 0xA8 ≤ size
  | .resetDevice o _, t => t.own.regs = true → ProgramsModern o → 0xA8 ≤ size
  | .getMountTag tagLen _, t => t.own.regs = true → 0x102 ≤ size ∧
      (tagLen ≠ 0 → tagLen ≤ 256 → 0x102 + tagLen.toNat ≤ size)
  | .shutdown, _ => True

/-- The status register of a mapped region is inside. -/
def HasRoom (size : Nat) (t : TransportState MmioRegs) : Prop := t.own.regs = true → 0x74 ≤ size

/-- A call stays inside the region exactly if it fits, once the status is inside. -/
theorem call_inside_iff {size : Nat} (call : MmioCall) {t : TransportState MmioRegs}
    (room : HasRoom size t) :
    (∀ a ∈ (accessMachine.step call t).1, a.Within ⟨0, size⟩) ↔ Fits size call t := by
  have start : Inside size ⟨t, []⟩ := nofun
  change (call.run ⟨t, []⟩).Inside size ↔ _
  cases call with
  | initializeTransport o =>
    rw [MmioCall.run, initializeTransport_inside, and_iff_right start, Fits]
  | exchange x values =>
    rw [MmioCall.run, exchange_inside (l := ⟨t, []⟩) x values room, and_iff_right start, Fits]
  | resetDevice o values =>
    rw [MmioCall.run, resetDevice_inside, and_iff_right start, Fits]
    exact forall_congr' fun mapped => and_iff_right (room mapped)
  | getMountTag tagLen tag =>
    rw [MmioCall.run, getMountTag_inside, and_iff_right start, Fits]
  | shutdown =>
    rw [MmioCall.run, shutdown_inside]
    exact iff_of_true ⟨start, room⟩ trivial

/-- The registers are mapped only by an `Initialize` that found room for the status. -/
theorem call_keeps_room {size : Nat} (call : MmioCall) {t : TransportState MmioRegs}
    (room : HasRoom size t) (fits : Fits size call t) :
    HasRoom size (accessMachine.step call t).2 := by
  intro mapped
  rw [accessMachine_plain] at mapped
  cases call with
  | initializeTransport o =>
    cases unmapped : o.unmapped with
    | none => exact (fits unmapped).1
    | some errno =>
      have lost : (MmioTransport.initializeTransport o t).2.own.regs = false := by
        rw [MmioTransport.initializeTransport, unmapped]
      exact absurd (lost.symm.trans mapped) (by decide)
  | exchange x values => exact room ((MmioTransport.exchange_regs t x).symm.trans mapped)
  | resetDevice o values => exact room ((MmioTransport.resetDevice_regs o t).symm.trans mapped)
  | getMountTag tagLen tag => exact room mapped
  | shutdown => exact absurd mapped (by decide : ¬ (false = true))

/-- Over every run, all accesses lie inside the region exactly if every call fits it. -/
theorem accesses_inside_iff (regionSize : UInt32) (calls : List MmioCall) :
    (∀ accesses ∈ (accessMachine.run calls MmioTransport.fresh).1,
      ∀ a ∈ accesses, a.Within ⟨0, regionSize.toNat⟩) ↔
      accessMachine.Meets (Fits regionSize.toNat) calls MmioTransport.fresh := by
  have start : HasRoom regionSize.toNat MmioTransport.fresh :=
    fun mapped => absurd mapped (by decide : ¬ (false = true))
  rw [Machine.outputs_iff]
  exact Machine.meets_congr
    (fun call t (room : HasRoom regionSize.toNat t) => call_inside_iff call room)
    (fun call t room inside => call_keeps_room call room ((call_inside_iff call room).mp inside))
    calls start

/-- The default region, and a device whose mount tag has the greatest length that is accepted. -/
theorem mount_tag_leaves_region :
    ¬ ∀ accesses ∈ (accessMachine.run
        [.initializeTransport (mmioFound (setupUntil none)), .getMountTag 256 fun _ => 0x74]
        MmioTransport.fresh).1,
      ∀ a ∈ accesses, a.Within ⟨0, (0x200 : UInt32).toNat⟩ := by
  let up := (accessMachine.step (.initializeTransport (mmioFound (setupUntil none)))
    MmioTransport.fresh).2
  have mapped : up.own.regs = true := by decide
  have room : HasRoom (0x200 : UInt32).toNat up := fun _ => by decide
  rw [Machine.outputs_iff]
  rintro ⟨-, tag, -⟩
  have fits : Fits (0x200 : UInt32).toNat (.getMountTag 256 fun _ => 0x74) up :=
    (call_inside_iff (.getMountTag 256 fun _ => 0x74) room).mp tag
  exact absurd ((fits mapped).2 (by decide) (by decide)) (by decide)

end Virtio9p
