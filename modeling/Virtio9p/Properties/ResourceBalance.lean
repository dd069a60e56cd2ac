import Virtio9p.Properties.AttachedInterrupt
import Virtio9p.Transport.DiscoveryLedger
import Virtio9p.Transport.ShutdownSteps

/-!
# Resources are given back

The ledger of a whole run, from `Initialize` to the destructor. All that the members hold is
released once; the interrupt that `DiscoverDevice` claims is released once or not.
-/
namespace Virtio9p

open Ledger (Entry)

namespace Accounts

/-! ### MmioTransportImpl -/

/-- Every run of the MMIO transport gives back what it has taken. -/
theorem mmioRun_balanced (failure : RingFailure) (o : MmioOutcome) (calls : List AccountedCall)
    (shutdowns : Nat) : Ledger.Balanced (mmioRun failure o calls shutdowns).ledger := by
  obtain ⟨order, none⟩ := mmioInitialize_inOrder failure o
  have called := foldl_moves (fun a call => call_moves mmioMade mmio_laws call a) calls
    (mmioInitialize failure o ⟨MmioTransport.fresh, .none, []⟩).2
  have closed (a : Accounts MmioRegs) : Moves mmioOwn a (mmioShutdown^[shutdowns + 1] a) := by
    induction shutdowns generalizing a with
    | zero => exact mmioShutdown_moves a
    | succ shutdowns ih => exact (mmioShutdown_moves a).trans (ih a.mmioShutdown)
  have run := called.trans (closed _)
  refine (balanced_iff (order.moves run) fun r _ => ?_).mpr ?_
  · -- the last `Shutdown` is the destructor's
    rw [Function.iterate_succ_apply']
    exact mmioShutdown_holds _ r
  · rw [run.irqs, none]
    exact fun r => rfl

/-! ### PciTransportImpl -/

/-- All but the claimed interrupt is given back, and that is detached by each `Shutdown`. -/
theorem pciRun_irqs (f : PciFunction) (enabled refused : Bool) (failure : RingFailure)
    (o : SetupOutcome) (calls : List (Bool × AccountedCall)) (shutdowns : Nat)
    (counted : (f.discoverDevice (.fresh enabled)).2.Counted) :
    ∃ more, (more = 0 ↔ shutdowns = 0 ∧ ((f.discoverDevice (.fresh enabled)).1 = 0 → Completes o)) ∧
      (Ledger.Balanced (pciRun f enabled refused failure o calls shutdowns).ledger ↔
        Ledger.Balanced ((f.discoverDevice (.fresh enabled)).2.irqs ++
          (List.replicate (more + 1)
            (detachLog (f.discoverDevice (.fresh enabled)).2.members)).flatten)) := by
  obtain ⟨times, setup, first⟩ := pciInitialize_detaches f enabled refused failure o
  have run := (first.trans (calls_detach calls _)).trans (shutdowns_detach shutdowns _)
  have order : InOrder pciOwn (found f enabled) := by
    intro r plain
    refine (counted r plain).trans (congrArg some ?_)
    cases r <;> rfl
  refine ⟨times + shutdowns, ?_, ?_⟩
  · rw [Nat.add_eq_zero_iff, setup]
    exact and_comm
  · have empty (r : Resource) (_ : r.isIrq = false) :
        (pciRun f enabled refused failure o calls shutdowns).holds pciOwn r = false := by
      unfold pciRun
      simp only
      rw [Function.iterate_succ_apply']
      exact pciShutdown_holds _ r
    refine (balanced_iff (run.order order) empty).trans ?_
    exact iff_of_eq (congrArg Ledger.Balanced run.irqs)

theorem balanced_detached {log : List (Entry Resource)} (balanced : Ledger.Balanced log)
    (m : PciMembers)
    (more : Nat) :
    Ledger.Balanced (log ++ (List.replicate (more + 1) (detachLog m)).flatten) ↔
      m.irqNum = 0 ∨ m.msixCapOffset = 0 := by
  rw [List.replicate_succ, List.flatten_cons]
  by_cases detaches : m.irqNum ≠ 0 ∧ m.msixCapOffset ≠ 0
  · rw [show detachLog m = _ from if_pos detaches]
    refine iff_of_false (Ledger.not_balanced_release balanced _ _) ?_
    rintro (zero | zero)
    · exact detaches.1 zero
    · exact detaches.2 zero
  · rw [show detachLog m = [] from if_neg detaches]
    refine iff_of_true ?_ (by simpa [or_iff_not_imp_left] using detaches)
    simpa using balanced

/-- The claimed interrupt is given back if it is detached once. -/
theorem balanced_held {r : Resource} {detach : List (Entry Resource)}
    (releases : detach = [.release r]) (more : Nat) :
    Ledger.Balanced ([.acquire r] ++ (List.replicate (more + 1) detach).flatten) ↔ more = 0 := by
  have pair := Ledger.balanced_pair r
  subst releases
  cases more with
  | zero => exact iff_of_true pair rfl
  | succ more => exact iff_of_false (Ledger.not_balanced_release pair r _) (Nat.succ_ne_zero more)

/-- When the claimed interrupt is given back once, and no other one. -/
structure ReleasesIrq (f : PciFunction) (enabled : Bool) (o : SetupOutcome) (shutdowns : Nat) :
    Prop where
  /-- The claim is refused: there is no legacy interrupt either. -/
  legacy : (f.capabilities (.fresh enabled)).msixCapOffset ≠ 0 → f.claimed = false →
    f.readIrq.getD 0 = 0
  fallback : f.FallsBack (.fresh enabled) → f.readIrq = some 0
  /-- The claim is kept: the destructor is the only one that calls `Shutdown`. -/
  held : f.usesMsix (.fresh enabled) = true → ¬ f.FallsBack (.fresh enabled) →
    shutdowns = 0 ∧ (f.MapsAll (.fresh enabled) → Completes o)

theorem pciRun_balanced_iff (f : PciFunction) (enabled refused : Bool) (failure : RingFailure)
    (o : SetupOutcome) (calls : List (Bool × AccountedCall)) (shutdowns : Nat) :
    Ledger.Balanced (pciRun f enabled refused failure o calls shutdowns).ledger ↔
      (f.reaches (.fresh enabled) = true → ReleasesIrq f enabled o shutdowns) := by
  have free (r : Resource) : pciOwn (.fresh enabled) r = false := by
    cases r with
    | bar n => exact Bool.and_false _
    | _ => rfl
  have uses := PciFunction.usesMsix_iff (f := f) (m := .fresh enabled) rfl
  obtain ⟨counted, claim⟩ := PciFunction.discoverDevice_claim (f := f) rfl free
  obtain ⟨more, once, run⟩ := pciRun_irqs f enabled refused failure o calls shutdowns counted
  rw [run]
  have none : Ledger.Balanced ([] : List (Entry Resource)) := fun _ => rfl
  -- by the interrupts that the discovery attached
  cases claim with
  | unreached stops failed irqs irqNum =>
    rw [irqs, balanced_detached none]
    exact iff_of_true (.inl irqNum) fun reaches => absurd (reaches.symm.trans stops) (by decide)
  | legacy reaches refused irqs irqNum offset =>
    rw [irqs, balanced_detached none, irqNum, offset]
    have unused : f.usesMsix (.fresh enabled) ≠ true := Bool.eq_false_iff.mp refused
    constructor
    · intro forgotten _
      exact {
        legacy := fun capable _ => forgotten.resolve_right capable
        fallback := fun falls => absurd falls.used unused
        held := fun used => absurd used unused }
    · intro condition
      by_cases capable : (f.capabilities (.fresh enabled)).msixCapOffset = 0
      · exact .inr capable
      · have unclaimed : f.claimed = false :=
          Bool.eq_false_iff.mpr fun claimed => unused (uses.mpr ⟨capable, claimed⟩)
        exact .inl ((condition reaches).legacy capable unclaimed)
  | fallback reaches falls irqs irqNum offset =>
    rw [irqs, balanced_detached (Ledger.balanced_pair _), irqNum, offset]
    -- the message interrupt is given back; Shutdown detaches what was read in its place
    obtain ⟨capable, claimed⟩ := uses.mp falls.used
    constructor
    · intro forgotten _
      have zero := forgotten.resolve_right capable
      exact {
        legacy := fun _ unclaimed => absurd (claimed.symm.trans unclaimed) (by decide)
        fallback := fun _ => by
          cases read : f.readIrq with
          | none =>
            rw [read] at zero
            exact absurd zero (by decide)
          | some n =>
            rw [read] at zero
            exact congrArg some zero
        held := fun _ stays => absurd falls stays }
    · intro condition
      rw [(condition reaches).fallback falls]
      exact .inl rfl
  | held reaches used stays irqs irqNum offset zero =>
    obtain ⟨capable, claimed⟩ := uses.mp used
    -- the message interrupt is held until Shutdown
    have releases : detachLog (f.discoverDevice (.fresh enabled)).2.members =
        [.release (.irq msiIrq)] := by
      rw [detachLog, irqNum, offset, if_pos ⟨by decide, capable⟩]
    rw [irqs, balanced_held releases, once, zero]
    constructor
    · intro kept _
      exact {
        legacy := fun _ unclaimed => absurd (claimed.symm.trans unclaimed) (by decide)
        fallback := fun falls => absurd falls stays
        held := fun _ _ => kept }
    · exact fun condition => (condition reaches).held used stays

/-- When the claimed interrupts balance; the MMIO transport claims none. -/
def TransportRun.IrqBalanced : TransportRun → Prop
  | .mmio .. => True
  | .pci f enabled _ _ o _ shutdowns =>
    f.reaches (.fresh enabled) = true → ReleasesIrq f enabled o shutdowns

theorem ledger_balanced_iff (run : TransportRun) :
    Ledger.Balanced run.ledger ↔ run.IrqBalanced := by
  cases run with
  | mmio failure o calls shutdowns =>
    exact iff_of_true (mmioRun_balanced failure o calls shutdowns) trivial
  | pci f enabled refused failure o calls shutdowns =>
    exact pciRun_balanced_iff f enabled refused failure o calls shutdowns

/-- The interrupt is claimed and kept; a `Shutdown` and the destructor both release it. -/
theorem shutdown_releases_irq_twice : ¬ ∀ run : TransportRun, Ledger.Balanced run.ledger := by
  intro balanced
  have twice := balanced (.pci PciTransportImpl.msixFunction false false ⟨.desc, .map⟩
    (setupUntil none) [] 1) (.irq msiIrq)
  exact absurd twice (by decide)

end Accounts

end Virtio9p
