import Virtio9p.Transport.Lifecycle
import Virtio9p.Transport.PciDiscovery
import Virtio9p.Transport.PciTransport
import Virtio9p.Transport.Refinement

/-!
# PciTransportImpl with the members of DiscoverDevice

The same functions as in `PciTransport`, on all the members that `DiscoverDevice` sets, and with
the MSI-X vector of the queue. `refused` tells for each call whether the device refuses it.
-/
namespace Virtio9p

namespace PciTransportImpl

variable {α : Type}

/-! ### Down to the registers -/

/-- What `PciTransport` knows of the members. -/
def regs (m : PciMembers) : PciRegs := ⟨m.commonCfg.isSome⟩

/-- A function that sets none of the members that `DiscoverDevice` sets. -/
def onRegs (run : TransportState PciRegs → α × TransportState PciRegs)
    (t : TransportState PciMembers) : α × TransportState PciMembers :=
  let result := run (t.mapOwn regs)
  (result.1, result.2.mapOwn fun _ => t.own)

/-! ### The member functions -/

def clearStatus (t : TransportState PciMembers) : TransportState PciMembers :=
  (onRegs (fun t => ((), PciTransport.clearStatus t)) t).2

def negotiateFeatures (o : SetupOutcome) :
    TransportState PciMembers → Int32 × TransportState PciMembers :=
  onRegs (PciTransport.negotiateFeatures o)

/-- Vector 0 for the queue if MSI-X is in use, and none if not or if the device refuses it. -/
def assignVector (refused : Bool) (m : PciMembers) : PciMembers :=
  let m := if m.useMsix then
      if refused then { m with useMsix := false } else { m with queueVector := 0 }
    else m
  if m.useMsix then m else { m with queueVector := 0xFFFF }

def setupVirtqueue (refused : Bool) (o : SetupOutcome) (t : TransportState PciMembers) :
    Int32 × TransportState PciMembers :=
  let result := onRegs (PciTransport.setupVirtqueue o) t
  -- the vector is written once the queue has its memory
  if result.1 ≠ 0 then result
  else (0, result.2.mapOwn (assignVector refused))

def impl (refused : Bool) : TransportImpl PciMembers where
  clearStatus := clearStatus
  negotiateFeatures := negotiateFeatures
  setupVirtqueue := setupVirtqueue refused
  waitForCompletion := pciWaitForCompletion

/-- The members behind `Shutdown`. -/
def closeMembers (m : PciMembers) : PciMembers :=
  let m := if m.useMsix ∧ m.pciHandle ∧ m.msixCapOffset ≠ 0 then
      { m with useMsix := false, msixEnable := false }
    else m
  -- `irq_num_` and `msix_cap_offset_` stay as they are
  { m with
    msixTable := none
    bars := fun bar => if bar < 6 then none else m.bars bar
    commonCfg := none
    notifyBase := none
    deviceCfg := none
    isrCfg := none
    pciHandle := false }

def shutdown (t : TransportState PciMembers) : TransportState PciMembers :=
  let t := clearStatus t.release
  { t with own := closeMembers t.own, virtqueue := none }

/-- `Initialize` returns without `Shutdown` when `DiscoverDevice` fails. -/
def initializeTransport (f : PciFunction) (refused : Bool) (o : SetupOutcome)
    (t : TransportState PciMembers) : Int32 × TransportState PciMembers :=
  let discovered := f.discoverDevice t.own
  let t := { t with own := discovered.2.members, completed := false }
  if discovered.1 ≠ 0 then (discovered.1, t)
  else
    let result := (impl refused).initializeDevice o t
    if result.1 ≠ 0 then (result.1, shutdown result.2)
    else (0, { result.2 with completed := true })

def fresh (enabled : Bool) : TransportState PciMembers :=
  TransportState.new (PciMembers.fresh enabled)

/-! ### Refinement -/

/-- The members that are forgotten come back, if the function leaves its registers alone. -/
theorem onRegs_mapOwn {run : TransportState PciRegs → α × TransportState PciRegs}
    (kept : ∀ t, (run t).2.own = t.own) (t : TransportState PciMembers) :
    ((onRegs run t).1, (onRegs run t).2.mapOwn regs) = run (t.mapOwn regs) := by
  apply Prod.ext
  · rfl
  · change (run (t.mapOwn regs)).2.mapOwn (fun _ => regs t.own) = (run (t.mapOwn regs)).2
    exact TransportState.mapOwn_of_own _ (kept (t.mapOwn regs)).symm

theorem negotiateFeatures_own (o : SetupOutcome) (t : TransportState PciRegs) :
    (PciTransport.negotiateFeatures o t).2.own = t.own :=
  congrArg PciRegs.mk (PciTransport.reach.kept o t)

theorem setupVirtqueue_own (o : SetupOutcome) (t : TransportState PciRegs) :
    (PciTransport.setupVirtqueue o t).2.own = t.own := by
  unfold PciTransport.setupVirtqueue
  split
  · rfl
  · simp only
    split
    · rfl
    · split <;> rfl

theorem clearStatus_own (t : TransportState PciRegs) : (PciTransport.clearStatus t).own = t.own :=
  congrArg PciRegs.mk (PciTransport.reach.cleared t)

@[simp] theorem regs_assignVector (refused : Bool) (m : PciMembers) :
    regs (assignVector refused m) = regs m := by
  cases used : m.useMsix <;> cases refused <;> simp [assignVector, regs, used]

/-- The vector of the queue plays no part in what `PciTransport` says. -/
theorem refines (refused : Bool) : (impl refused).Refines regs PciTransport.impl where
  clearStatus t := by
    have kept (t : TransportState PciRegs) : ((), PciTransport.clearStatus t).2.own = t.own :=
      clearStatus_own t
    exact congrArg Prod.snd (onRegs_mapOwn kept t)
  negotiateFeatures o t := onRegs_mapOwn (negotiateFeatures_own o) t
  setupVirtqueue o t := by
    have same := onRegs_mapOwn (setupVirtqueue_own o) t
    simp only [impl, setupVirtqueue, PciTransport.impl]
    split
    · exact same
    · rename_i ok
      have forgotten : regs ∘ assignVector refused = regs := funext (regs_assignVector refused)
      rw [← same, not_not.mp ok, TransportState.mapOwn_mapOwn, forgotten]
  waitForCompletion := rfl

/-! ### What a setup leaves -/

/-- A setup leaves the members alone and fails, or assigns the vector. -/
theorem initializeDevice_own (refused : Bool) (o : SetupOutcome) (t : TransportState PciMembers) :
    (((impl refused).initializeDevice o t).1 ≠ 0 ∧
      ((impl refused).initializeDevice o t).2.own = t.own) ∨
    (t.own.commonCfg ≠ none ∧
      ((impl refused).initializeDevice o t).2.own = assignVector refused t.own) := by
  unfold TransportImpl.initializeDevice
  simp only
  split
  · rename_i failed
    exact .inl ⟨failed, rfl⟩
  · split
    · rename_i failed
      refine .inl ⟨failed, ?_⟩
      simp only [impl, setupVirtqueue] at failed ⊢
      split
      · rfl
      · rename_i ok
        rw [if_neg ok] at failed
        exact absurd rfl failed
    · rename_i negotiated queued
      refine .inr ⟨fun unset => ?_, ?_⟩
      · -- without the registers the negotiation has failed
        have absent : (t.mapOwn regs).own.commonCfg = false := by simp [regs, unset]
        have refuses : (PciTransport.negotiateFeatures o (t.mapOwn regs)).1 = -einval := by
          rw [PciTransport.negotiateFeatures, if_pos absent]
        rw [show ((impl refused).negotiateFeatures o t).1 = -einval from refuses] at negotiated
        exact absurd (by decide : (-einval : Int32) ≠ 0) negotiated
      · rw [TransportState.mapBuffers_own]
        simp only [impl, setupVirtqueue] at queued ⊢
        split at queued
        · rename_i failed
          exact absurd failed queued
        · rename_i ok
          rw [if_neg ok]
          rfl

theorem negotiateFeatures_completed (o : SetupOutcome) (t : TransportState PciRegs) :
    (PciTransport.negotiateFeatures o t).2.completed = t.completed := by
  simp only [PciTransport.negotiateFeatures]
  split
  · rfl
  · split <;> split <;> simp only [TransportState.onDevice_completed]

theorem setupVirtqueue_completed (o : SetupOutcome) (t : TransportState PciRegs) :
    (PciTransport.setupVirtqueue o t).2.completed = t.completed := by
  simp only [PciTransport.setupVirtqueue]
  split
  · rfl
  · split
    · rfl
    · split <;> simp only [TransportState.onDevice_completed]

/-- Only the calls themselves say whether they succeed. -/
theorem initializeDevice_completed (refused : Bool) (o : SetupOutcome)
    (t : TransportState PciMembers) :
    ((impl refused).initializeDevice o t).2.completed = t.completed := by
  have refined := congrArg (fun result => result.2.completed)
    ((refines refused).initializeDevice o t)
  refine Eq.trans refined ?_
  have negotiated := negotiateFeatures_completed o (t.mapOwn regs)
  have queued := setupVirtqueue_completed o (PciTransport.negotiateFeatures o (t.mapOwn regs)).2
  unfold TransportImpl.initializeDevice PciTransport.impl
  simp only
  split
  · exact negotiated
  · split
    · exact queued.trans negotiated
    · rw [TransportState.mapBuffers_completed]
      exact queued.trans negotiated

@[simp] theorem shutdown_completed (t : TransportState PciMembers) :
    (shutdown t).completed = t.completed := by
  unfold shutdown clearStatus onRegs PciTransport.clearStatus
  simp only
  split <;> rfl

end PciTransportImpl

end Virtio9p
