import Virtio9p.Transport.AccountedRuns
import Virtio9p.Transport.DiscoverySteps
import Virtio9p.Transport.Lifecycle

/-!
# What Initialize, the calls and Shutdown do with the ledger

After `Shutdown` the members hold nothing. The claimed interrupt of the PCI transport is held by
no member, and each `Shutdown` detaches it.
-/
namespace Virtio9p

open Ledger (Entry releases)

namespace Accounts

/-! ### MmioTransportImpl -/

section Mmio

open MmioTransport

@[simp] theorem writeReg_holds (change : Device → Device) (t : TransportState MmioRegs)
    (r : Resource) : (writeReg change t).holds r = t.holds r := by
  unfold writeReg
  split <;> rfl

theorem mmio_kept {t t' : TransportState MmioRegs} (handles : ∀ r, t'.holds r = t.holds r)
    (regs : t'.own.regs = t.own.regs) : Kept mmioOwn t t' :=
  ⟨handles, fun r => by cases r <;> first | exact regs | rfl⟩

theorem mmio_laws : AccountLaws impl mmioOwn where
  only k r shared := by
    cases r <;> first | rfl | exact absurd shared (by decide)
  cleared t := mmio_kept (fun r => writeReg_holds _ t r) (reach.cleared t)
  negotiated o t := by
    refine mmio_kept (fun r => ?_) (reach.kept o t)
    simp only [impl, negotiateFeatures]
    split
    · simp only [writeReg_holds]; rfl
    · split <;> split <;> simp only [writeReg_holds] <;> rfl
  queued o t := by
    refine mmio_kept (fun r => ?_) (congrArg MmioRegs.regs (setupVirtqueue_own o t))
    simp only [impl, MmioTransport.setupVirtqueue]
    split
    · rfl
    · split <;> split <;> simp only [writeReg_holds] <;> rfl

theorem mmioShutdown_moves (a : Accounts MmioRegs) : Moves mmioOwn a a.mmioShutdown := by
  let b := a.release.on clearStatus
  have cleared : Moves mmioOwn a b :=
    (release_moves mmio_laws.only a).trans (mmio_laws.cleared a.release.transport).moves
  have unmapped : Moves mmioOwn b ((b.enter (releases (mmioOwn b.transport.own) [.registers])).on
      fun t => { t with own := { t.own with regs := false } }) := by
    apply close_moves fun m : MmioRegs => { m with regs := false }
    · decide
    · decide
    · intro m r mem
      rw [List.mem_singleton.mp mem]
      rfl
    · intro m r other
      cases r <;> first | rfl | exact absurd (by decide) other
  exact (cleared.trans unmapped).trans (resetQueue_moves mmio_laws.only _)

/-- After `Shutdown` the members hold nothing. -/
theorem mmioShutdown_holds (a : Accounts MmioRegs) (r : Resource) :
    a.mmioShutdown.holds mmioOwn r = false := by
  have free : a.mmioShutdown.transport.holds r = false := by
    refine (writeReg_holds _ a.transport.release r).trans ?_
    exact TransportState.release_free a.transport r
  have none : mmioOwn a.mmioShutdown.transport.own r = false := by
    cases r <;> rfl
  rw [holds, free, none, Bool.or_false, Bool.false_or]
  exact RingHeld.holds_none r

/-- `Initialize` of a transport that holds nothing. -/
theorem mmioInitialize_inOrder (failure : RingFailure) (o : MmioOutcome) :
    InOrder mmioOwn (mmioInitialize failure o ⟨MmioTransport.fresh, .none, []⟩).2 ∧
      (mmioInitialize failure o ⟨MmioTransport.fresh, .none, []⟩).2.irqs = [] := by
  unfold mmioInitialize
  cases o.unmapped with
  | some errno => exact ⟨fun r _ => by cases r <;> rfl, rfl⟩
  | none =>
    let up : Accounts MmioRegs := (Accounts.enter [.acquire .registers]
      ⟨MmioTransport.fresh, .none, []⟩).on fun t =>
        { t with own := { t.own with regs := true }, completed := false }
    have order : InOrder mmioOwn up := fun r _ => by cases r <;> rfl
    have free : up.transport.Free := fun r => by cases r <;> rfl
    have shut := mmioShutdown_moves up
    have setup := initializeDevice_moves mmioMade mmio_laws failure o.setup free
    simp only
    split
    · exact ⟨order.moves shut, shut.irqs⟩
    · split
      · exact ⟨order.moves shut, shut.irqs⟩
      · split
        · have closed := setup.trans (mmioShutdown_moves _)
          exact ⟨order.moves closed, closed.irqs⟩
        · have completed (a : Accounts MmioRegs) :
              Moves mmioOwn a (a.on fun t => { t with completed := true }) :=
            .of_holds rfl fun _ => rfl
          have done := setup.trans (completed _)
          exact ⟨order.moves done, done.irqs⟩

end Mmio

/-! ### Calls -/

section Calls

variable {κ : Type} {own : κ → Resource → Bool} {impl : TransportImpl κ}

theorem call_moves (made : QueueMade κ) (laws : AccountLaws impl own) (call : AccountedCall)
    (a : Accounts κ) : Moves own a (call.run impl made a) := by
  cases call with
  | resetDevice failure o => exact resetDevice_moves made laws failure o a
  | exchange failure x => exact exchange_moves made laws failure x a

theorem foldl_moves {β : Type} {step : Accounts κ → β → Accounts κ}
    (moves : ∀ a b, Moves own a (step a b)) (calls : List β) (a : Accounts κ) :
    Moves own a (calls.foldl step a) := by
  induction calls generalizing a with
  | nil => exact .of_holds rfl fun _ => rfl
  | cons call calls ih => exact (moves a call).trans (ih (step a call))

end Calls

/-! ### PciTransportImpl -/

section Pci

open PciTransportImpl

variable {m : PciMembers} {a : Accounts PciMembers}

/-- The members that `DiscoverDevice` does not set. -/
theorem onRegs_kept {α : Type} {run : TransportState PciRegs → α × TransportState PciRegs}
    (handles : ∀ t r, (run t).2.holds r = t.holds r) (t : TransportState PciMembers) :
    Kept pciOwn t (onRegs run t).2 :=
  ⟨handles (t.mapOwn regs), fun _ => rfl⟩

@[simp] theorem pciOwn_assignVector (refused : Bool) (m : PciMembers) :
    pciOwn (assignVector refused m) = pciOwn m := by
  cases used : m.useMsix <;> cases refused <;> simp [assignVector, used] <;>
    funext r <;> cases r <;> rfl

theorem pci_laws (refused : Bool) : AccountLaws (impl refused) pciOwn where
  only k r shared := by
    cases r with
    | bar n => simp [TransportState.handles, RingHeld.parts] at shared
    | pciHandle => exact absurd shared (by decide)
    | _ => rfl
  cleared t := by
    have handles (t : TransportState PciRegs) (r : Resource) :
        ((), PciTransport.clearStatus t).2.holds r = t.holds r := by
      simp only [PciTransport.clearStatus]
      split <;> rfl
    exact onRegs_kept handles t
  negotiated o t := by
    refine onRegs_kept (fun t r => ?_) t
    simp only [PciTransport.negotiateFeatures]
    split
    · rfl
    · split <;> split <;> simp only [TransportState.onDevice_holds]
  queued o t := by
    have kept : Kept pciOwn t (onRegs (PciTransport.setupVirtqueue o) t).2 := by
      refine onRegs_kept (fun t r => ?_) t
      simp only [PciTransport.setupVirtqueue]
      split
      · rfl
      · split
        · rfl
        · split <;> rfl
    simp only [impl, PciTransportImpl.setupVirtqueue]
    split
    · exact kept
    · refine ⟨kept.handles, fun r => Eq.trans ?_ (kept.members r)⟩
      simp

theorem mem_barsAndHandle {r : Resource} (taken : pciOwn m r = true) : r ∈ barsAndHandle := by
  cases r with
  | bar n =>
    have low : n < 6 := of_decide_eq_true (Bool.and_eq_true_iff.mp taken).1
    have small : n.toNat < 6 := low
    have one : n = 0 ∨ n = 1 ∨ n = 2 ∨ n = 3 ∨ n = 4 ∨ n = 5 := by
      simp only [← UInt8.toNat_inj]
      change n.toNat = 0 ∨ n.toNat = 1 ∨ n.toNat = 2 ∨ n.toNat = 3 ∨ n.toNat = 4 ∨ n.toNat = 5
      omega
    rcases one with rfl | rfl | rfl | rfl | rfl | rfl <;> decide
  | pciHandle => decide
  | _ => cases taken

theorem pciOwn_closeMembers (m : PciMembers) (r : Resource) :
    pciOwn (closeMembers m) r = false := by
  cases r with
  | bar n => by_cases low : n < 6 <;> simp [closeMembers, low]
  | _ => rfl

/-- `Shutdown` up to `rsrcdbmgr_detach`, and what is behind it. -/
theorem pciShutdown_steps (a : Accounts PciMembers) :
    ∃ b, Moves pciOwn a b ∧ b.transport.own = a.transport.own ∧
      Moves pciOwn (b.enter (detachLog a.transport.own)) a.pciShutdown := by
  let b := a.release.on PciTransportImpl.clearStatus
  have cleared : Moves pciOwn a b :=
    (release_moves (pci_laws false).only a).trans
    ((pci_laws false).cleared a.release.transport).moves
  let c := b.enter (detachLog a.transport.own)
  let d := (c.enter (releases (pciOwn c.transport.own) barsAndHandle)).on fun t =>
    { t with own := closeMembers t.own }
  have closed : Moves pciOwn c d := by
    apply close_moves closeMembers
    · decide
    · decide
    · exact fun m r _ => pciOwn_closeMembers m r
    · intro m r other
      rw [pciOwn_closeMembers]
      exact (Bool.eq_false_iff.mpr fun taken => other (mem_barsAndHandle taken)).symm
  have emptied := resetQueue_moves (pci_laws false).only d
  have same : a.pciShutdown = d.resetQueue := by
    simp only [pciShutdown, c, d, enter, on, List.append_assoc]
    rfl
  rw [same]
  exact ⟨b, cleared, rfl, closed.trans emptied⟩

/-! ### Detachments -/

theorem detachLog_isIrq (m : PciMembers) : ∀ e ∈ detachLog m, e.resource.isIrq = true := by
  unfold detachLog
  split
  · simp [Entry.resource, Resource.isIrq]
  · nofun

/-- The members hold what the ledger says, and the claimed interrupt is detached `times`. -/
structure Detaches (times : Nat) (a b : Accounts PciMembers) : Prop where
  order : InOrder pciOwn a → InOrder pciOwn b
  irqs : b.irqs = a.irqs ++ (List.replicate times (detachLog a.transport.own)).flatten
  again : detachLog b.transport.own = detachLog a.transport.own

theorem Detaches.refl (a : Accounts PciMembers) : Detaches 0 a a where
  order order := order
  irqs := (List.append_nil _).symm
  again := rfl

theorem Detaches.trans {b c : Accounts PciMembers} {first second : Nat}
    (one : Detaches first a b) (two : Detaches second b c) : Detaches (first + second) a c where
  order order := two.order (one.order order)
  irqs := by
    rw [two.irqs, one.again, one.irqs, List.append_assoc, List.replicate_add, List.flatten_append]
  again := two.again.trans one.again

/-- A step that leaves the claimed interrupt alone. -/
theorem Moves.detaches {b : Accounts PciMembers} (moves : Moves pciOwn a b)
    (again : detachLog b.transport.own = detachLog a.transport.own) : Detaches 0 a b where
  order order := order.moves moves
  irqs := moves.irqs.trans (List.append_nil _).symm
  again := again

theorem closeMembers_detachLog (m : PciMembers) : detachLog (closeMembers m) = detachLog m := by
  unfold detachLog closeMembers
  simp only
  split <;> rfl

/-- `Shutdown` releases the interrupt and forgets neither its number nor the capability. -/
theorem pciShutdown_detaches (a : Accounts PciMembers) : Detaches 1 a a.pciShutdown := by
  obtain ⟨b, before, own, after⟩ := pciShutdown_steps a
  have claims := detachLog_isIrq a.transport.own
  exact {
    order := fun order => ((order.moves before).claims claims).moves after
    irqs := by
      rw [after.irqs, irqs_claims b claims, before.irqs]
      simp
    again := closeMembers_detachLog a.transport.own }

theorem pciShutdown_holds (a : Accounts PciMembers) (r : Resource) :
    a.pciShutdown.holds pciOwn r = false := by
  have free : a.pciShutdown.transport.holds r = false :=
    ((pci_laws false).cleared a.transport.release).handles r |>.trans
      (TransportState.release_free a.transport r)
  have none : pciOwn a.pciShutdown.transport.own r = false := pciOwn_closeMembers _ r
  rw [holds, free, none, Bool.or_false, Bool.false_or]
  exact RingHeld.holds_none r

theorem shutdowns_detach (shutdowns : Nat) (a : Accounts PciMembers) :
    Detaches (shutdowns + 1) a (pciShutdown^[shutdowns + 1] a) := by
  induction shutdowns with
  | zero => exact pciShutdown_detaches a
  | succ shutdowns ih =>
    rw [Function.iterate_succ_apply']
    exact ih.trans (pciShutdown_detaches _)

/-! ### The calls leave the interrupt alone -/

theorem assignVector_detachLog (refused : Bool) (m : PciMembers) :
    detachLog (assignVector refused m) = detachLog m := by
  cases used : m.useMsix <;> cases refused <;> simp [assignVector, detachLog, used]

theorem initializeDevice_detachLog (refused : Bool) (o : SetupOutcome)
    (t : TransportState PciMembers) :
    detachLog ((impl refused).initializeDevice o t).2.own = detachLog t.own := by
  obtain ⟨-, own⟩ | ⟨-, own⟩ := initializeDevice_own refused o t
  · rw [own]
  · rw [own, assignVector_detachLog]

theorem resetDevice_detachLog (refused : Bool) (o : SetupOutcome) (t : TransportState PciMembers) :
    detachLog ((impl refused).resetDevice o t).2.own = detachLog t.own := by
  unfold TransportImpl.resetDevice
  simp only
  rw [initializeDevice_detachLog]
  rfl

theorem call_detaches (call : Bool × AccountedCall) (a : Accounts PciMembers) :
    Detaches 0 a (call.2.run (impl call.1) pciMade a) := by
  refine (call_moves pciMade (pci_laws call.1) call.2 a).detaches ?_
  obtain ⟨refused, call⟩ := call
  cases call with
  | resetDevice failure o =>
    have same := congrArg Prod.snd (resetDevice_transport (impl refused) pciMade a failure o)
    refine (congrArg (fun t => detachLog t.own) same).trans ?_
    exact resetDevice_detachLog refused o a.transport
  | exchange failure x =>
    have same := congrArg Prod.snd (exchange_transport (impl refused) pciMade a failure x)
    refine (congrArg (fun t => detachLog t.own) same).trans ?_
    obtain ⟨queue, pulses, kept | reset⟩ := (impl refused).exchange_state x a.transport
    · simp only [kept]
    · simp only [reset, resetDevice_detachLog]

theorem calls_detach (calls : List (Bool × AccountedCall)) (a : Accounts PciMembers) :
    Detaches 0 a (calls.foldl (fun a call => call.2.run (impl call.1) pciMade a) a) := by
  induction calls generalizing a with
  | nil => exact .refl a
  | cons call calls ih => exact (call_detaches call a).trans (ih _)

/-! ### Initialize -/

/-- Each step of a setup succeeds. -/
def Completes (o : SetupOutcome) : Prop := o.stop = none ∧ o.queueNumMax.toUInt16 ≠ 0

theorem initializeDevice_zero (refused : Bool) (o : SetupOutcome) {t : TransportState PciMembers}
    (mapped : t.own.commonCfg ≠ none) :
    ((impl refused).initializeDevice o t).1 = 0 ↔ Completes o := by
  have refined := congrArg Prod.fst ((refines refused).initializeDevice o t)
  rw [show ((impl refused).initializeDevice o t).1 = _ from refined]
  exact PciTransport.initializeDevice_zero (Option.isSome_iff_ne_none.mpr mapped)

/-- What a discovery leaves for the setup. -/
def found (f : PciFunction) (enabled : Bool) : Accounts PciMembers :=
  (Accounts.enter (f.discoverDevice (.fresh enabled)).2.ledger
    ⟨PciTransportImpl.fresh enabled, .none, []⟩).on fun t =>
      { t with own := (f.discoverDevice (.fresh enabled)).2.members, completed := false }

/-- An `Initialize` that fails behind the discovery is a `Shutdown` more. -/
theorem pciInitialize_detaches (f : PciFunction) (enabled refused : Bool) (failure : RingFailure)
    (o : SetupOutcome) :
    ∃ times, (times = 0 ↔ ((f.discoverDevice (.fresh enabled)).1 = 0 → Completes o)) ∧
      Detaches times (found f enabled)
        (pciInitialize f refused failure o ⟨PciTransportImpl.fresh enabled, .none, []⟩).2 := by
  unfold pciInitialize
  simp only
  split
  · rename_i failed
    exact ⟨0, iff_of_true rfl fun ok => absurd ok failed, .refl _⟩
  · rename_i ok
    have ok := not_not.mp ok
    obtain ⟨common, -, -, mapped⟩ := (PciFunction.discovered ok).common
    have zero := initializeDevice_zero refused o (t := (found f enabled).transport)
      (by rw [show (found f enabled).transport.own.commonCfg = _ from mapped]; exact nofun)
    have free : (found f enabled).transport.Free := fun r => by cases r <;> rfl
    have same := initializeDevice_transport (impl refused) pciMade (found f enabled) failure o
    have code := congrArg Prod.fst same
    have own := congrArg (fun result => detachLog result.2.own) same
    have setup := (initializeDevice_moves pciMade (pci_laws refused) failure o free).detaches
      (own.trans (initializeDevice_detachLog refused o _))
    split
    · rename_i failed
      refine ⟨1, iff_of_false (by decide) fun all => failed ?_,
        setup.trans (pciShutdown_detaches _)⟩
      exact code.trans (zero.mpr (all ok))
    · rename_i completes
      refine ⟨0, iff_of_true rfl fun _ => zero.mp (code.symm.trans (not_not.mp completes)), ?_⟩
      have completed (a : Accounts PciMembers) :
          Detaches 0 a (a.on fun t => { t with completed := true }) :=
        Moves.detaches (.of_holds rfl fun _ => rfl) rfl
      exact setup.trans (completed _)

end Pci

end Accounts

end Virtio9p
