import Virtio9p.Foundation.Machine
import Virtio9p.Transport.Exchanges

/-!
# Descriptors across exchanges

Whatever the completions, the timeouts and the outcomes of the resets are, every `Exchange`
that gets past its guard starts with all descriptors free.
-/
namespace Virtio9p

/-- A transport between two exchanges. -/
def exchangeMachine {κ : Type} (impl : TransportImpl κ) :
    Machine ExchangeInput (Option ExchangeReply) (TransportState κ) where
  step x t := impl.exchange x t

/-- The reset does not find a queue with a single descriptor, too small for any request. -/
def OffersRoom (queueSize : UInt32 → UInt16) (x : ExchangeInput) : Prop :=
  queueSize x.reset.queueNumMax ≠ 1

section Runs

variable {κ : Type} {impl : TransportImpl κ} {queueSize : UInt32 → UInt16}

theorem exchanges_ready (laws : SetupLaws impl queueSize)
    (ends : WaitEnds impl.waitForCompletion) {xs : List ExchangeInput}
    (room : ∀ x ∈ xs, OffersRoom queueSize x) {t : TransportState κ} (ready : QueueReady t) :
    QueueReady ((exchangeMachine impl).run xs t).2 := by
  have meets := Machine.meets_of_forall (M := exchangeMachine impl) room t
  apply meets.invariant ?_ ready
  intro x t ready offers
  exact (exchange_sound laws ends x offers ready).2

/-- Every exchange of a run is sound. -/
theorem exchanges_sound (laws : SetupLaws impl queueSize)
    (ends : WaitEnds impl.waitForCompletion) {xs : List ExchangeInput} {x : ExchangeInput}
    (room : ∀ y ∈ xs ++ [x], OffersRoom queueSize y) {t : TransportState κ}
    (ready : QueueReady t) :
    ExchangeSound ((exchangeMachine impl).run xs t).2
      (impl.exchange x ((exchangeMachine impl).run xs t).2) := by
  have before := exchanges_ready laws ends
    (fun y member => room y (List.mem_append_left [x] member)) ready
  exact (exchange_sound laws ends x (room x (by simp)) before).1

end Runs

/-! ### After Initialize -/

theorem mmio_initialize_ready {o : MmioOutcome} {t : TransportState MmioRegs}
    (two : 2 ≤ MmioTransport.queueSize o.setup.queueNumMax)
    (done : (MmioTransport.initializeTransport o t).1 = 0) :
    QueueReady (MmioTransport.initializeTransport o t).2 := by
  unfold MmioTransport.initializeTransport at done ⊢
  cases unmapped : o.unmapped with
  | some errno =>
    rw [unmapped] at done
    exact absurd done (negated_errno errno)
  | none =>
    rw [unmapped] at done
    simp only at done ⊢
    split at done
    · exact absurd done (by decide : (-enodev : Int32) ≠ 0)
    · split at done
      · exact absurd done (by decide : (-enodev : Int32) ≠ 0)
      · split at done
        · rename_i failed
          exact absurd done failed
        · rename_i magic device ok
          rw [if_neg magic, if_neg device, if_neg ok]
          exact initializeDevice_ready MmioTransport.laws two (not_not.mp ok)

theorem pci_initialize_ready {o : PciOutcome} {t : TransportState PciRegs}
    (two : 2 ≤ PciTransport.queueSize o.setup.queueNumMax.toUInt16)
    (done : (PciTransport.initializeTransport o t).1 = 0) :
    QueueReady (PciTransport.initializeTransport o t).2 := by
  unfold PciTransport.initializeTransport at done ⊢
  cases undiscovered : o.undiscovered with
  | some failure =>
    rw [undiscovered] at done
    exact absurd done (negated_errno failure.1)
  | none =>
    rw [undiscovered] at done
    simp only at done ⊢
    split at done
    · rename_i failed
      exact absurd done failed
    · rename_i ok
      rw [if_neg ok]
      exact initializeDevice_ready PciTransport.laws two (not_not.mp ok)

/-- On both transports, after an `Initialize` that returned 0 with a queue of two
descriptors or more, every exchange of a run is sound. -/
theorem exchanges_find_room (xs : List ExchangeInput) (x : ExchangeInput) :
    (∀ o t, (MmioTransport.initializeTransport o t).1 = 0 →
      2 ≤ MmioTransport.queueSize o.setup.queueNumMax →
      (∀ y ∈ xs ++ [x], OffersRoom MmioTransport.queueSize y) →
      let t' := ((exchangeMachine MmioTransport.impl).run xs
        (MmioTransport.initializeTransport o t).2).2
      ExchangeSound t' (MmioTransport.impl.exchange x t')) ∧
    ∀ o t, (PciTransport.initializeTransport o t).1 = 0 →
      2 ≤ PciTransport.queueSize o.setup.queueNumMax.toUInt16 →
      (∀ y ∈ xs ++ [x], OffersRoom (fun maxSize => PciTransport.queueSize maxSize.toUInt16) y) →
      let t' := ((exchangeMachine PciTransport.impl).run xs
        (PciTransport.initializeTransport o t).2).2
      ExchangeSound t' (PciTransport.impl.exchange x t') := by
  constructor
  · intro o t done two room t'
    exact exchanges_sound MmioTransport.laws mmioWait_ends room (mmio_initialize_ready two done)
  · intro o t done two room t'
    exact exchanges_sound PciTransport.laws pciWait_ends room (pci_initialize_ready two done)

/-- A setup that stops at a given step, if at any, with a queue of four. -/
def setupUntil (stop : Option SetupStep) : SetupOutcome where
  stop := stop
  errno := ⟨12, by decide⟩
  mmioVersion := 2
  featuresLo := 1
  featuresHi := 1
  queueNumMax := 4
  queueMemory := ⟨0x10000, 0x11000, 0x12000⟩
  request := ⟨0x20000, 0x120000⟩
  response := ⟨0x30000, 0x130000⟩
  chid := ⟨1, by decide⟩
  coid := ⟨2, by decide⟩
  irqId := ⟨3, by decide⟩

/-- An exchange without a completion, whose reset stops at a given step. -/
def silentExchange (stop : Option SetupStep) : ExchangeInput :=
  ⟨[1, 2, 3], [], [.tick], fun _ => 0, setupUntil stop⟩

/-- Three timeouts: a reset that runs through, one without the response buffer, and one
without a channel. -/
theorem exchanges_find_room_timeouts :
    let xs := [silentExchange none, silentExchange (some .responseOffset),
      silentExchange (some .channelCreate)]
    let up := MmioTransport.initializeTransport
      ⟨none, 0x74726976, 9, setupUntil none⟩ MmioTransport.fresh
    let t' := ((exchangeMachine MmioTransport.impl).run xs up.2).2
    let found := PciTransport.initializeTransport ⟨none, setupUntil none⟩ PciTransport.fresh
    let u' := ((exchangeMachine PciTransport.impl).run xs found.2).2
    ExchangeSound t' (MmioTransport.impl.exchange (silentExchange none) t') ∧
      ExchangeSound u' (PciTransport.impl.exchange (silentExchange none) u') := by
  intro xs up t' found u'
  have both := exchanges_find_room xs (silentExchange none)
  have offers : ∀ y ∈ xs ++ [silentExchange none], y.reset.queueNumMax = 4 := by
    intro y member
    simp only [xs, List.cons_append, List.nil_append, List.mem_cons, List.not_mem_nil,
      or_false] at member
    rcases member with rfl | rfl | rfl | rfl <;> rfl
  constructor
  · apply both.1 ⟨none, 0x74726976, 9, setupUntil none⟩ MmioTransport.fresh (by decide) (by decide)
    intro y member
    rw [OffersRoom, offers y member]
    decide
  · apply both.2 ⟨none, setupUntil none⟩ PciTransport.fresh (by decide) (by decide)
    intro y member
    rw [OffersRoom, offers y member]
    decide

end Virtio9p
