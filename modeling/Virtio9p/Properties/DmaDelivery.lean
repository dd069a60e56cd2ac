import Virtio9p.Properties.ExchangeRuns
import Virtio9p.Transport.DmaSteps

/-!
# Delivery through memory

Whatever the device does and when, each exchange of a run brings back the answer of the server to
its own request, or an error; and no request is executed twice.
-/
namespace Virtio9p

/-- A transport and the device behind it, between two exchanges. -/
def dmaMachine {κ S : Type} (impl : TransportImpl κ) (registers : κ → Bool)
    (serve : Bytes → S → Bytes × S) : Machine DmaInput (Option ExchangeReply) (Wired κ S) where
  step x w := dmaExchange impl registers serve x w

/-- Exchanges in a row, from the server's state before the first one to that behind the last. -/
inductive Transcript {S : Type} (serve : Bytes → S → Bytes × S) :
    List DmaInput → List (Option ExchangeReply) → S → S → Prop where
  | nil (s : S) : Transcript serve [] [] s s
  | cons {x : DmaInput} {xs : List DmaInput} {reply : ExchangeReply}
      {replies : List (Option ExchangeReply)} {s s' s'' : S}
      (now : Delivers serve x.request reply s s') (later : Transcript serve xs replies s' s'') :
      Transcript serve (x :: xs) (some reply :: replies) s s''

/-- The request fits its buffer. A reset does not stop between the response buffer and its address,
and does not find a queue with a single descriptor. -/
structure DmaInput.Sound (queueSize : UInt32 → UInt16) (x : DmaInput) : Prop where
  fits : x.request.length ≤ maxMessageSize.toNat
  passes : x.reset.stop ≠ some .responseOffset
  room : queueSize x.reset.queueNumMax ≠ 1

section Runs

variable {κ S : Type} {impl : TransportImpl κ} {registers : κ → Bool} {queueSize : UInt32 → UInt16}
  (laws : DmaLaws impl registers queueSize) (serve : Bytes → S → Bytes × S)

include laws

/-- One exchange, behind its guard or refused by it. -/
theorem dmaExchange_delivers {x : DmaInput} (sound : x.Sound queueSize) {w : Wired κ S}
    (ready : Ready registers w) :
    ∃ reply, (dmaExchange impl registers serve x w).1 = some reply ∧
      Delivers serve x.request reply w.host.server
        (dmaExchange impl registers serve x w).2.host.server ∧
      Ready registers (dmaExchange impl registers serve x w).2 := by
  by_cases up : w.transport.Up
  · obtain ⟨live, request, response, linked⟩ := ready up
    have short : x.request.length < 2 ^ 32 := Nat.lt_of_le_of_lt sound.fits (by decide)
    have delivered := linked.delivers serve x laws sound.passes sound.room
    rw [sentBytes_eq request response w short] at delivered
    exact delivered
  · have refused : dmaExchange impl registers serve x w =
        (some ⟨-einval, [], none, none⟩, w) := by
      unfold dmaExchange
      split
      · rename_i queue request response
        exact absurd ⟨by simp [queue], by simp [request], by simp [response]⟩ up
      · rfl
    rw [refused]
    exact ⟨_, rfl, .inr ⟨by decide, rfl, .inl rfl⟩, ready⟩

theorem dma_transcript {xs : List DmaInput} (sound : ∀ x ∈ xs, x.Sound queueSize) {w : Wired κ S}
    (ready : Ready registers w) :
    let ran := (dmaMachine impl registers serve).run xs w
    Transcript serve xs ran.1 w.host.server ran.2.host.server := by
  induction xs generalizing w with
  | nil => exact .nil _
  | cons x xs ih =>
    obtain ⟨reply, replied, delivered, next⟩ := dmaExchange_delivers laws serve
      (sound x List.mem_cons_self) ready
    have later := ih (fun y member => sound y (List.mem_cons_of_mem x member)) next
    simp only [Machine.run, dmaMachine, replied]
    exact .cons delivered later

/-- A device that was just set up has no entry before it, and its channel no pulse. -/
theorem initializeDevice_attending {o : SetupOutcome} {t : TransportState κ}
    (done : (impl.initializeDevice o t).1 = 0) (room : queueSize o.queueNumMax ≠ 1)
    (mapped : registers t.own = true) (request : t.dmaReqVirt = none)
    (response : t.dmaRespVirt = none) (memory : Memory UInt8) (server : S) (completed : Bool) :
    Attending registers (⟨{ (impl.initializeDevice o t).2 with completed := completed },
      ⟨memory, 0, [], server⟩⟩ : Wired κ S) := by
  rcases initializeDevice_cases laws.setup o t with
    ⟨failed, -⟩ | ⟨t', live, result, -, -, made, -, -⟩
  · exact absurd done failed
  · -- nothing has failed in `mapBuffers` either
    have runs : ∀ step, o.stop = some step → step.inMapBuffers = false := by
      intro step stop
      rw [result] at done
      by_contra inside
      exact TransportState.mapBuffers_failed stop (Bool.eq_true_of_not_eq_false inside) done
    have after : (impl.initializeDevice o t).2 = t'.mapped o := by
      rw [result, TransportState.mapBuffers_ok runs]
    have up : (impl.initializeDevice o t).2.Up := by
      rw [after]
      exact ⟨by simp [TransportState.mapped, made], by simp [TransportState.mapped],
        by simp [TransportState.mapped]⟩
    have passes : o.stop ≠ some .responseOffset := by
      intro stop
      exact absurd (runs _ stop) (by decide)
    have first : (Backend.mk memory 0 [] server).seenIdx = 0 := rfl
    obtain ⟨live, sent, received, linked⟩ :=
      initializeDevice_linked laws passes room mapped request response up first rfl
    refine ⟨⟨live, sent, received, ⟨linked.queue, linked.reqVirt, linked.respVirt, linked.reqPhys,
      linked.respPhys, linked.two, linked.idle, linked.seen, linked.jobs,
        linked.registers⟩⟩, ?_, ?_⟩
    · change 0 ≤ (impl.initializeDevice o t).2.chid
      rw [after]
      exact o.chid.property
    · change (impl.initializeDevice o t).2.pulses = 0
      rw [after]
      rfl

end Runs

theorem mmio_initialize_attending {S : Type} {o : MmioOutcome}
    (done : (MmioTransport.initializeTransport o MmioTransport.fresh).1 = 0)
    (room : MmioTransport.queueSize o.setup.queueNumMax ≠ 1) (memory : Memory UInt8) (server : S) :
    Attending MmioRegs.regs (⟨(MmioTransport.initializeTransport o MmioTransport.fresh).2,
      ⟨memory, 0, [], server⟩⟩ : Wired MmioRegs S) := by
  unfold MmioTransport.initializeTransport at done ⊢
  cases unmapped : o.unmapped with
  | some errno =>
    rw [unmapped] at done
    exact absurd done (negated_errno errno)
  | none =>
    rw [unmapped] at done
    simp only at done ⊢
    split at done
    · exact absurd done (by decide : (-enodev : Int32) ≠ 0)
    · split at done
      · exact absurd done (by decide : (-enodev : Int32) ≠ 0)
      · split at done
        · rename_i failed
          exact absurd done failed
        · rename_i magic device ok
          rw [if_neg magic, if_neg device, if_neg ok]
          exact initializeDevice_attending MmioTransport.dmaLaws (not_not.mp ok) room rfl rfl rfl
            memory server true

theorem pci_initialize_attending {S : Type} {o : PciOutcome}
    (done : (PciTransport.initializeTransport o PciTransport.fresh).1 = 0)
    (room : PciTransport.queueSize o.setup.queueNumMax.toUInt16 ≠ 1) (memory : Memory UInt8)
    (server : S) :
    Attending PciRegs.commonCfg (⟨(PciTransport.initializeTransport o PciTransport.fresh).2,
      ⟨memory, 0, [], server⟩⟩ : Wired PciRegs S) := by
  unfold PciTransport.initializeTransport at done ⊢
  cases undiscovered : o.undiscovered with
  | some failure =>
    rw [undiscovered] at done
    exact absurd done (negated_errno failure.1)
  | none =>
    rw [undiscovered] at done
    simp only at done ⊢
    split at done
    · rename_i failed
      exact absurd done failed
    · rename_i ok
      rw [if_neg ok]
      exact initializeDevice_attending PciTransport.dmaLaws (not_not.mp ok) room rfl rfl rfl
        memory server true

/-- On both transports, in every run of exchanges behind an `Initialize` that returned 0, with any
events of the device, timeouts and resets: an exchange that returns 0 has brought the server's
answer to its own request, which was executed once; one that returns an error has brought nothing,
and its request was executed once or not at all. -/
theorem exchanges_deliver {S : Type} (serve : Bytes → S → Bytes × S) (memory : Memory UInt8)
    (server : S) (xs : List DmaInput) :
    (∀ o, (MmioTransport.initializeTransport o MmioTransport.fresh).1 = 0 →
      MmioTransport.queueSize o.setup.queueNumMax ≠ 1 →
      (∀ x ∈ xs, x.Sound MmioTransport.queueSize) →
      let ran := (dmaMachine MmioTransport.impl MmioRegs.regs serve).run xs
        ⟨(MmioTransport.initializeTransport o MmioTransport.fresh).2, ⟨memory, 0, [], server⟩⟩
      Transcript serve xs ran.1 server ran.2.host.server) ∧
    ∀ o, (PciTransport.initializeTransport o PciTransport.fresh).1 = 0 →
      PciTransport.queueSize o.setup.queueNumMax.toUInt16 ≠ 1 →
      (∀ x ∈ xs, x.Sound fun maxSize => PciTransport.queueSize maxSize.toUInt16) →
      let ran := (dmaMachine PciTransport.impl PciRegs.commonCfg serve).run xs
        ⟨(PciTransport.initializeTransport o PciTransport.fresh).2, ⟨memory, 0, [], server⟩⟩
      Transcript serve xs ran.1 server ran.2.host.server := by
  constructor
  · intro o done room sound
    have linked := (mmio_initialize_attending done room memory server).linked
    exact dma_transcript MmioTransport.dmaLaws serve sound fun _ => linked
  · intro o done room sound
    have linked := (pci_initialize_attending done room memory server).linked
    exact dma_transcript PciTransport.dmaLaws serve sound fun _ => linked

/-- A server that counts the requests, and returns them. -/
def countingEcho (request : Bytes) (executed : Nat) : Bytes × Nat := (request, executed + 1)

/-- The device executes the request and has no time to publish the completion; the next one it
completes. -/
def interruptedRun : List DmaInput :=
  [⟨[1, 2, 3], [.take], [.execute 0, .tick], setupUntil none⟩,
    ⟨[4, 5], [.take], [.execute 0, .finish 0, .pulse], setupUntil none⟩]

def interruptedReplies : List (Option ExchangeReply) :=
  [some ⟨-etimedout, [], some 0, some (-1)⟩, some ⟨0, [4, 5], some 0, some 0⟩]

def mmioStart : Wired MmioRegs Nat :=
  ⟨(MmioTransport.initializeTransport ⟨none, 0x74726976, 9, setupUntil none⟩
    MmioTransport.fresh).2, ⟨fun _ => 0, 0, [], 0⟩⟩

def pciStart : Wired PciRegs Nat :=
  ⟨(PciTransport.initializeTransport ⟨none, setupUntil none⟩ PciTransport.fresh).2,
    ⟨fun _ => 0, 0, [], 0⟩⟩

/-- The first request is executed without an answer, and the reset does not repeat it. -/
theorem exchanges_deliver_interrupted :
    ((dmaMachine MmioTransport.impl MmioRegs.regs countingEcho).run interruptedRun mmioStart).1 =
        interruptedReplies ∧
      ((dmaMachine PciTransport.impl PciRegs.commonCfg countingEcho).run interruptedRun
        pciStart).1 = interruptedReplies ∧
      Transcript countingEcho interruptedRun interruptedReplies 0 2 := by
  have room : ∀ x ∈ interruptedRun, x.reset = setupUntil none ∧ x.request.length ≤ 3 := by
    simp [interruptedRun]
  have sound : ∀ x ∈ interruptedRun, x.Sound MmioTransport.queueSize := by
    intro x member
    obtain ⟨same, short⟩ := room x member
    exact ⟨Nat.le_trans short (by decide), by rw [same]; decide, by rw [same]; decide⟩
  have mmio := (exchanges_deliver countingEcho (fun _ => 0) 0 interruptedRun).1
    ⟨none, 0x74726976, 9, setupUntil none⟩ (by decide) (by decide) sound
  have ran : ((dmaMachine MmioTransport.impl MmioRegs.regs countingEcho).run interruptedRun
      mmioStart).1 = interruptedReplies := by decide +kernel
  have executed : ((dmaMachine MmioTransport.impl MmioRegs.regs countingEcho).run interruptedRun
      mmioStart).2.host.server = 2 := by decide +kernel
  refine ⟨ran, by decide +kernel, ?_⟩
  change Transcript countingEcho interruptedRun ((dmaMachine MmioTransport.impl MmioRegs.regs
    countingEcho).run interruptedRun mmioStart).1 0 ((dmaMachine MmioTransport.impl MmioRegs.regs
      countingEcho).run interruptedRun mmioStart).2.host.server at mmio
  rw [ran, executed] at mmio
  exact mmio

end Virtio9p
