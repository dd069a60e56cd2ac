import Virtio9p.Properties.ExchangeRuns
import Virtio9p.Transport.Lifecycle

/-!
# What the guard of Exchange stands for

`Exchange` goes by three pointers. They are not null after a reset that got as far as the
response buffer, also where the rest of the reset failed: then the physical address of the
response buffer is the old one, or there is no channel, connection or interrupt.
-/
namespace Virtio9p

section Guard

variable {κ : Type}

/-- The last initialization or reset ran to completion. -/
structure SetupComplete (t : TransportState κ) : Prop where
  completed : t.completed = true
  request : ∃ buffer, t.dmaReqVirt = some buffer ∧ t.dmaReqPhys = buffer.phys
  response : ∃ buffer, t.dmaRespVirt = some buffer ∧ t.dmaRespPhys = buffer.phys
  registered : ∃ live, t.virtqueue = some live ∧ Registered live.queue t.device
  channel : 0 ≤ t.chid ∧ 0 ≤ t.coid
  interrupt : 0 ≤ t.irqId

/-- The guard of `Exchange` passes only on a complete transport; otherwise `Exchange` fails
before it gives the device anything. -/
structure GuardSound (impl : TransportImpl κ) (t : TransportState κ) : Prop where
  complete : t.Up → SetupComplete t
  refused : ∀ x, ¬ t.Up → impl.exchange x t = (some ⟨-einval, [], none, none⟩, t)

variable {impl : TransportImpl κ} {registers : κ → Bool} {queueSize : UInt32 → UInt16}

/-- Using the queue keeps a transport complete. -/
theorem SetupComplete.used {t : TransportState κ} (complete : SetupComplete t)
    {live live' : LiveQueue}
    (queue : t.virtqueue = some live) (same : live'.queue.layout = live.queue.layout)
    (pulses : Nat) : SetupComplete { t with virtqueue := some live', pulses := pulses } := by
  obtain ⟨completed, request, response, ⟨live₀, queue₀, registered⟩, channel, interrupt⟩ :=
    complete
  cases queue.symm.trans queue₀
  exact ⟨completed, request, response, ⟨live', rfl, registered.moved same⟩, channel, interrupt⟩

theorem initializeDevice_complete (laws : SetupLaws impl queueSize) {o : SetupOutcome}
    {t : TransportState κ} (done : (impl.initializeDevice o t).1 = 0) :
    SetupComplete { (impl.initializeDevice o t).2 with completed := true } := by
  rcases initializeDevice_cases laws o t with
    ⟨failed, -⟩ | ⟨t', live, result, -, -, made, -, registered⟩
  · exact absurd done failed
  · have runs : ∀ step, o.stop = some step → step.inMapBuffers = false := by
      intro step stop
      by_contra inside
      rw [result] at done
      exact TransportState.mapBuffers_failed stop (Bool.eq_true_of_not_eq_false inside) done
    rw [result, TransportState.mapBuffers_ok runs]
    constructor
    · rfl
    · exact ⟨o.request, rfl, rfl⟩
    · exact ⟨o.response, rfl, rfl⟩
    · exact ⟨live, made, registered⟩
    · exact ⟨o.chid.property, o.coid.property⟩
    · exact o.irqId.property

/-! ### Steps -/

/-- After a reset the guard can be trusted if and only if the reset did not stop late. -/
theorem resetDevice_complete_iff (laws : SetupLaws impl queueSize)
    (reach : SetupReach impl registers queueSize) (o : SetupOutcome) (t : TransportState κ) :
    ((impl.resetDevice o t).2.Up → SetupComplete (impl.resetDevice o t).2) ↔
      ¬ StopsLate registers queueSize o t := by
  rw [← resetDevice_stopsLate laws reach o t]
  constructor
  · rintro trusted ⟨up, failed⟩
    exact failed (of_decide_eq_true (trusted up).completed)
  · intro passes up
    have done : (impl.resetDevice o t).1 = 0 := by
      by_contra failed
      exact passes ⟨up, failed⟩
    have complete := initializeDevice_complete laws done
    have completed : (impl.resetDevice o t).2.completed = true := decide_eq_true done
    exact { complete with completed := completed }

theorem exchange_complete (laws : SetupLaws impl queueSize)
    (reach : SetupReach impl registers queueSize) (keeps : WaitKeeps impl.waitForCompletion)
    {x : ExchangeInput} {t : TransportState κ} (trusted : t.Up → SetupComplete t)
    (passes : t.Up → ¬ StopsLate registers queueSize x.reset t) :
    (impl.exchange x t).2.Up → SetupComplete (impl.exchange x t).2 := by
  by_cases up : t.Up
  · have complete := trusted up
    have passes := passes up
    rw [TransportImpl.exchange_eq]
    split
    · rename_i live _ _ queue _ _
      have added : (live.addBuf t.dmaReqPhys (UInt32.ofNat x.request.length) t.dmaRespPhys
          maxMessageSize).2.queue.layout = live.queue.layout :=
        LiveQueue.addBuf_layout _ _ _ _
      simp only
      split
      · -- no room: the queue is as before
        intro _
        exact complete.used queue added t.pulses
      · have elapsed := (WaitState.elapsed_layout (s := ⟨_, 0 ≤ t.chid, t.pulses⟩)
          x.early).trans added
        split
        · intro _
          exact complete.used queue elapsed _
        · rename_i waited
          have waited := (keeps _ _ _ _ _ waited).trans elapsed
          split
          · -- the wait failed, so the device is reset
            exact (resetDevice_complete_iff laws reach x.reset _).mpr passes
          · intro _
            exact complete.used queue waited _
    · exact fun _ => complete
  · rw [exchange_refused x up]
    exact trusted

/-- No reset stops late, and an `Initialize` that finds no device finds no transport in use. -/
def Trustworthy {ω : Type} (registers : κ → Bool) (queueSize : UInt32 → UInt16)
    (absent : ω → Prop) : TransportInput ω → TransportState κ → Prop
  | .initializeTransport o, t => absent o → ¬ t.Up
  | .exchange x, t => t.Up → ¬ StopsLate registers queueSize x.reset t
  | .resetDevice o, t => ¬ StopsLate registers queueSize o t
  | .shutdown, _ => True

section Runs

variable {ω : Type} {initializeTransport : ω → TransportState κ → Int32 × TransportState κ}
  {shutdown : TransportState κ → TransportState κ} {absent : ω → Prop}

/-- In a run whose resets do not stop late, the guard can be trusted in every state. -/
theorem guard_sound (laws : SetupLaws impl queueSize)
    (reach : SetupReach impl registers queueSize) (keeps : WaitKeeps impl.waitForCompletion)
    (closes : ∀ t, (shutdown t).virtqueue = none)
    (initialized : ∀ o t, (absent o → ¬ t.Up) →
      (initializeTransport o t).2.Up → SetupComplete (initializeTransport o t).2)
    {inputs : List (TransportInput ω)} {t : TransportState κ} (down : ¬ t.Up)
    (meets : (transportMachine impl initializeTransport shutdown).Meets
      (Trustworthy registers queueSize absent) inputs t) :
    GuardSound impl ((transportMachine impl initializeTransport shutdown).run inputs t).2 := by
  have start : GuardSound impl t :=
    ⟨fun up => absurd up down, fun x down => exchange_refused x down⟩
  apply meets.invariant ?_ start
  intro input t ⟨trusted, _⟩ condition
  -- the refusal is no matter of the state: the guard comes first
  refine ⟨?_, fun x down => exchange_refused x down⟩
  cases input with
  | initializeTransport o => exact initialized o t condition
  | exchange x => exact exchange_complete laws reach keeps trusted condition
  | resetDevice o => exact (resetDevice_complete_iff laws reach o t).mpr condition
  | shutdown => exact fun up => absurd (closes t) up.1

end Runs

end Guard

/-! ### The transports -/

/-- `Initialize` of the MMIO transport leaves a transport in use alone if it cannot map the
registers, and shuts it down in its other failures. -/
theorem mmio_initialize_complete (o : MmioOutcome) {t : TransportState MmioRegs}
    (condition : o.unmapped ≠ none → ¬ t.Up) :
    (MmioTransport.initializeTransport o t).2.Up →
      SetupComplete (MmioTransport.initializeTransport o t).2 := by
  unfold MmioTransport.initializeTransport
  cases unmapped : o.unmapped with
  | some errno =>
    intro up
    exact absurd up (condition (by rw [unmapped]; exact Option.some_ne_none errno))
  | none =>
    simp only
    split
    · exact fun up => absurd rfl up.1
    · split
      · exact fun up => absurd rfl up.1
      · split
        · exact fun up => absurd rfl up.1
        · rename_i done
          exact fun _ => initializeDevice_complete MmioTransport.laws (not_not.mp done)

theorem pci_initialize_complete (o : PciOutcome) {t : TransportState PciRegs}
    (condition : o.undiscovered ≠ none → ¬ t.Up) :
    (PciTransport.initializeTransport o t).2.Up →
      SetupComplete (PciTransport.initializeTransport o t).2 := by
  unfold PciTransport.initializeTransport
  cases undiscovered : o.undiscovered with
  | some failure =>
    intro up
    exact absurd up (condition (by rw [undiscovered]; exact Option.some_ne_none failure))
  | none =>
    simp only
    split
    · exact fun up => absurd rfl up.1
    · rename_i done
      exact fun _ => initializeDevice_complete PciTransport.laws (not_not.mp done)

def mmioMachine : Machine (TransportInput MmioOutcome) TransportReply (TransportState MmioRegs) :=
  transportMachine MmioTransport.impl MmioTransport.initializeTransport MmioTransport.shutdown

def pciMachine : Machine (TransportInput PciOutcome) TransportReply (TransportState PciRegs) :=
  transportMachine PciTransport.impl PciTransport.initializeTransport PciTransport.shutdown

def mmioTrustworthy : TransportInput MmioOutcome → TransportState MmioRegs → Prop :=
  Trustworthy MmioRegs.regs MmioTransport.queueSize fun o => o.unmapped ≠ none

def pciTrustworthy : TransportInput PciOutcome → TransportState PciRegs → Prop :=
  Trustworthy PciRegs.commonCfg (fun maxSize => PciTransport.queueSize maxSize.toUInt16)
    fun o => o.undiscovered ≠ none

/-- On both transports, over every run in which no reset stops late and no `Initialize` of a
transport in use loses the device. -/
theorem exchange_guard_sound {mmioInputs : List (TransportInput MmioOutcome)}
    {pciInputs : List (TransportInput PciOutcome)}
    (mmioMeets : mmioMachine.Meets mmioTrustworthy mmioInputs MmioTransport.fresh)
    (pciMeets : pciMachine.Meets pciTrustworthy pciInputs PciTransport.fresh) :
    GuardSound MmioTransport.impl (mmioMachine.run mmioInputs MmioTransport.fresh).2 ∧
      GuardSound PciTransport.impl (pciMachine.run pciInputs PciTransport.fresh).2 := by
  constructor
  · exact guard_sound MmioTransport.laws MmioTransport.reach mmioWait_keeps (fun _ => rfl)
      (fun o t => mmio_initialize_complete o) (fun up => up.1 rfl) mmioMeets
  · exact guard_sound PciTransport.laws PciTransport.reach pciWait_keeps (fun _ => rfl)
      (fun o t => pci_initialize_complete o) (fun up => up.1 rfl) pciMeets

theorem not_stopsLate_of_passes {κ : Type} {registers : κ → Bool} {queueSize : UInt32 → UInt16}
    {o : SetupOutcome} {t : TransportState κ}
    (passes : ∀ step, o.stop = some step → step.late = false) :
    ¬ StopsLate registers queueSize o t := by
  rintro ⟨-, -, step, stop, late⟩
  rw [passes step stop] at late
  cases late

def mmioFound (setup : SetupOutcome) : MmioOutcome := ⟨none, 0x74726976, 9, setup⟩

/-- An exchange that times out, a reset that stops at the request buffer, and a second
`Initialize` after `Shutdown`. -/
theorem exchange_guard_sound_restart :
    GuardSound MmioTransport.impl (mmioMachine.run
      [.initializeTransport (mmioFound (setupUntil none)), .exchange (silentExchange none),
        .resetDevice (setupUntil (some .requestOffset)), .shutdown,
        .initializeTransport (mmioFound (setupUntil none))] MmioTransport.fresh).2 ∧
    GuardSound PciTransport.impl (pciMachine.run
      [.initializeTransport ⟨none, setupUntil none⟩,
        .exchange (silentExchange (some .mapResponse))] PciTransport.fresh).2 := by
  have runs : ∀ step, (setupUntil none).stop = some step → step.late = false := by
    rintro _ ⟨⟩
  have requestOffset : ∀ step, (setupUntil (some .requestOffset)).stop = some step →
      step.late = false := by
    rintro _ ⟨⟩
    rfl
  have mapResponse : ∀ step, (setupUntil (some .mapResponse)).stop = some step →
      step.late = false := by
    rintro _ ⟨⟩
    rfl
  apply exchange_guard_sound
  · exact ⟨fun lost => absurd rfl lost, fun _ => not_stopsLate_of_passes runs,
      not_stopsLate_of_passes requestOffset, trivial, fun lost => absurd rfl lost, trivial⟩
  · exact ⟨fun lost => absurd rfl lost, fun _ => not_stopsLate_of_passes mapResponse, trivial⟩

/-- A setup with a new response buffer whose address cannot be read. -/
def unaddressedResponse : SetupOutcome :=
  { setupUntil (some .responseOffset) with response := ⟨0x50000, 0x150000⟩ }

/-- A `ResetDevice` that stops behind the mapping of the new response buffer leaves the
address of the old one, which the next `Exchange` gives to the device. -/
theorem reset_leaves_stale_address :
    let t := (mmioMachine.run [.initializeTransport (mmioFound (setupUntil none)),
      .resetDevice unaddressedResponse] MmioTransport.fresh).2
    t.Up ∧ t.dmaRespVirt = some ⟨0x50000, 0x150000⟩ ∧ t.dmaRespPhys = 0x130000 ∧ t.chid = -1 ∧
      ((MmioTransport.impl.exchange (silentExchange none) t).1.map ExchangeReply.added =
        some (some 0)) ∧
      ((t.virtqueue.map fun live => ((live.addBuf t.dmaReqPhys 3 t.dmaRespPhys
        maxMessageSize).2.queue.desc 1).addr) = some 0x130000) ∧
      ¬ GuardSound MmioTransport.impl t := by
  intro t
  have up : t.Up := ⟨by decide, by decide, by decide⟩
  refine ⟨up, by decide, by decide, by decide, by decide, by decide, ?_⟩
  intro sound
  exact absurd (sound.complete up).completed (by decide)

end Virtio9p
