import Virtio9p.Transport.Awaits

/-!
# Completions in time

The PCI transport gives the length of every completion that is published before the receive
timeout. The MMIO transport receives one pulse: it misses a completion that comes without
one, or later than 100 sleeps after the first one.
-/
namespace Virtio9p

/-- What `Exchange` sees of a wait. -/
def Waited.outcome (waited : Waited) : Option (Int32 × UInt32) :=
  waited.map fun result => (result.1.rc, result.1.outLen)

/-- A published completion is reported with its length, otherwise the result is negative. -/
def Reports (answer : Option UInt32) (outcome : Option (Int32 × UInt32)) : Prop :=
  match answer with
  | some outLen => outcome = some (0, outLen)
  | none => ∃ rc outLen, outcome = some (rc, outLen) ∧ rc < 0

/-- The wait for chain `c`, where `early` has happened since `AddBuf` and `es` is still to
happen before the receive timeout expires. -/
structure WaitContract (c : Chain) (early es : List WaitEvent) (s : WaitState) : Prop where
  mmio : Reports (published c (early ++ es))
    (Waited.outcome (mmioWaitForCompletion es (s.elapsed early)))
  pci : Reports (published c (early ++ es))
    (Waited.outcome (pciWaitForCompletion es (s.elapsed early)))
  same : Waited.outcome (mmioWaitForCompletion es (s.elapsed early)) =
    Waited.outcome (pciWaitForCompletion es (s.elapsed early))

/-- A pulse comes, and the completion before it or within 100 sleeps after it; or neither
a pulse nor the completion comes. -/
def PulseInTime (c : Chain) (early es : List WaitEvent) (s : WaitState) : Prop :=
  match mmioWindow (s.elapsed early).pulses es with
  -- the first pulse comes, and `seen` ends 100 sleeps after it
  | some seen => published c (early ++ seen) ≠ none
  | none => published c (early ++ es) = none

instance (c : Chain) (early es : List WaitEvent) (s : WaitState) :
    Decidable (PulseInTime c early es s) := by
  unfold PulseInTime
  split <;> infer_instance

section Contract

variable {queueSize : UInt16} {c : Chain} {s : WaitState}

/-- The PCI transport reports every completion. -/
theorem pciWait_outcome (awaits : Awaits queueSize c none s.live) (attached : s.channel = true)
    (early es : List WaitEvent) :
    Waited.outcome (pciWaitForCompletion es (s.elapsed early)) =
      match published c (early ++ es) with
      | some outLen => some (0, outLen)
      | none => some (-etimedout, 0) := by
  have waiting := awaits.elapsed early
  rw [Option.none_or] at waiting
  have attached' : (s.elapsed early).channel = true := by simpa using attached
  rw [published_append]
  cases answered : (published c early).or (published c es) with
  | some n =>
    obtain ⟨es', s', waited, -⟩ := pciWait_answered waiting attached' answered
    rw [waited]
    rfl
  | none =>
    obtain ⟨es', s', waited, -⟩ := pciWait_silent waiting attached' answered
    rw [waited]
    rfl

/-- The MMIO transport reports what it sees until 100 sleeps after the first pulse. -/
theorem mmioWait_outcome (awaits : Awaits queueSize c none s.live) (attached : s.channel = true)
    (early es : List WaitEvent) :
    Waited.outcome (mmioWaitForCompletion es (s.elapsed early)) =
      match mmioWindow (s.elapsed early).pulses es with
      | none => some (-etimedout, 0)
      | some seen =>
        match published c (early ++ seen) with
        | some outLen => some (0, outLen)
        | none => some (-eio, 0) := by
  have waiting := awaits.elapsed early
  rw [Option.none_or] at waiting
  have attached' : (s.elapsed early).channel = true := by simpa using attached
  cases pulsed : mmioWindow (s.elapsed early).pulses es with
  | none =>
    rw [mmioWait_timeout attached' pulsed]
    rfl
  | some seen =>
    simp only [published_append]
    cases answered : (published c early).or (published c seen) with
    | some n =>
      obtain ⟨es', s', waited, -⟩ := mmioWait_answered waiting attached' pulsed answered
      rw [waited]
      rfl
    | none =>
      obtain ⟨es', s', waited, -⟩ := mmioWait_silent waiting attached' pulsed answered
      rw [waited]
      rfl

theorem reports_failure {answer : Option UInt32} {rc : Int32} (negative : rc < 0) :
    Reports answer (some (rc, 0)) ↔ answer = none := by
  cases answer with
  | some n =>
    constructor
    · intro wrong
      have same : rc = 0 := congrArg Prod.fst (Option.some.inj wrong)
      exact absurd (same ▸ negative) Int32.lt_irrefl
    · rintro ⟨⟩
  | none => exact ⟨fun _ => rfl, fun _ => ⟨rc, 0, rfl, negative⟩⟩

theorem waitContract_iff (awaits : Awaits queueSize c none s.live) (attached : s.channel = true)
    (early es : List WaitEvent) : WaitContract c early es s ↔ PulseInTime c early es s := by
  have pci := pciWait_outcome awaits attached early es
  have mmio := mmioWait_outcome awaits attached early es
  unfold PulseInTime
  cases pulsed : mmioWindow (s.elapsed early).pulses es with
  | none =>
    rw [pulsed] at mmio
    simp only at mmio ⊢
    constructor
    · rintro ⟨reported, -, -⟩
      rw [mmio] at reported
      exact (reports_failure (by decide)).mp reported
    · intro silent
      rw [silent] at pci
      constructor
      · rw [mmio]
        exact (reports_failure (by decide)).mpr silent
      · rw [pci]
        exact (reports_failure (by decide)).mpr silent
      · rw [mmio, pci]
  | some seen =>
    -- both transports see `seen`, and the PCI transport sees `rest` too
    obtain ⟨rest, rfl⟩ := mmioWindow_append (by simpa using attached) pulsed
    rw [pulsed] at mmio
    simp only at mmio ⊢
    have whole : published c (early ++ (seen ++ rest)) =
        (published c (early ++ seen)).or (published c rest) := by
      rw [← List.append_assoc, published_append]
    cases answered : published c (early ++ seen) with
    | some n =>
      rw [answered] at mmio whole
      rw [whole] at pci
      constructor
      · rintro -
        simp
      · rintro -
        constructor
        · rw [whole]
          exact mmio
        · rw [whole]
          exact pci
        · exact mmio.trans pci.symm
    | none =>
      rw [answered] at mmio
      constructor
      · rintro ⟨reported, -, same⟩
        -- the MMIO transport fails with `-EIO`, which the PCI transport never returns
        rw [mmio] at reported same
        rw [(reports_failure (by decide)).mp reported] at pci
        rw [pci] at same
        exact absurd same (by decide)
      · intro wrong
        exact absurd rfl wrong

end Contract

/-- After every run that left no chain in flight, the waits for the next chain meet the
contract if and only if a pulse comes in time. -/
theorem completion_wait_iff (queueSize : UInt16) (room : 2 ≤ queueSize) (fuel : Nat)
    (inputs : List QueueInput)
    (conforming : (liveQueue (fuel + 2)).Meets Conforming inputs (LiveQueue.start queueSize))
    (quiet : ((liveQueue (fuel + 2)).run inputs (LiveQueue.start queueSize)).2.inFlight = [])
    (outPhys : UInt64) (outLen : UInt32) (inPhys : UInt64) (inLen : UInt32) (pulses : Nat)
    (early es : List WaitEvent) :
    let live := ((liveQueue (fuel + 2)).run inputs (LiveQueue.start queueSize)).2
    let c := live.queue.nextChain outPhys outLen inPhys inLen
    let s : WaitState := ⟨(live.addBuf outPhys outLen inPhys inLen).2, true, pulses⟩
    WaitContract c early es s ↔ PulseInTime c early es s := by
  intro live c s
  -- with nothing in flight the next chain is the only one
  have idle : Idle queueSize live :=
    ⟨conforming.invariant (sound_step fuel) (sound_start queueSize), quiet⟩
  have awaits := (idle.addBuf room outPhys outLen inPhys inLen).2
  exact waitContract_iff (s := s) awaits rfl early es

/-- A queue of four after the first `AddBuf`, and its chain. -/
def firstWait : WaitState := ⟨((LiveQueue.start 4).addBuf 0x1000 16 0x2000 64).2, true, 0⟩

def firstChain : Chain := (LiveQueue.start 4).queue.nextChain 0x1000 16 0x2000 64

/-- A spurious pulse is queued, and the completion comes during the second sleep. -/
theorem completion_wait_iff_spurious :
    WaitContract firstChain [.pulse] [.tick, .complete 0 7, .tick] firstWait ↔
      PulseInTime firstChain [.pulse] [.tick, .complete 0 7, .tick] firstWait :=
  completion_wait_iff 4 (by decide) 0 [] trivial rfl 0x1000 16 0x2000 64 0 [.pulse]
    [.tick, .complete 0 7, .tick]

/-- Without an interrupt the MMIO transport gives up on a completion that is in the used
ring, and the PCI transport reports it. -/
theorem completion_without_pulse :
    Waited.outcome (mmioWaitForCompletion [.complete 0 7] firstWait) = some (-etimedout, 0) ∧
    Waited.outcome (pciWaitForCompletion [.complete 0 7] firstWait) = some (0, 7) ∧
    ¬ WaitContract firstChain [] [.complete 0 7] firstWait := by
  have mmio : Waited.outcome (mmioWaitForCompletion [.complete 0 7] firstWait) =
      some (-etimedout, 0) := by decide
  have pci : Waited.outcome (pciWaitForCompletion [.complete 0 7] firstWait) =
      some (0, 7) := by decide
  refine ⟨mmio, pci, ?_⟩
  intro contract
  exact absurd (mmio.symm.trans (contract.same.trans pci)) (by decide)

end Virtio9p
