import Mathlib.Data.List.ReduceOption
import Virtio9p.Server.FileService
import Virtio9p.Transport.DmaSteps

/-!
# A server behind the rings

A device that serves each request before it raises its interrupt makes the two transports ones
without failures.
-/
namespace Virtio9p

/-- What the device does during one exchange. -/
structure Window where
  early : List DeviceEvent
  events : List DeviceEvent
  deriving DecidableEq, Repr

/-- The device takes, executes and finishes the request before its first interrupt. -/
def Window.Prompt (window : Window) : Prop :=
  .pulse ∉ window.early ∧ ∃ before after, window.events = before ++ .pulse :: after ∧
    .pulse ∉ before ∧ Phase.posted.remaining.Sublist (window.early ++ before)

section Quiet

variable {S : Type} (serve : Bytes → S → Bytes × S) (vq : Virtqueue)

/-- The driver sees no other pulses than those of the device. -/
theorem pulse_mem_run {es : List DeviceEvent} {h : Backend S}
    (seen : some .pulse ∈ ((dmaDevice serve vq).run es h).1) : .pulse ∈ es := by
  induction es generalizing h with
  | nil => cases seen
  | cons e es ih =>
    rcases List.mem_cons.mp seen with now | later
    · cases e with
      | pulse => exact List.mem_cons_self
      | tick | take | execute which => cases now
      | finish which =>
        -- a completion is no pulse
        simp only [dmaDevice, Backend.finish] at now
        split at now <;> cases now
    · exact List.mem_cons_of_mem _ (ih later)

theorem quiet_run {es : List DeviceEvent} {h : Backend S} (quiet : .pulse ∉ es) :
    .pulse ∉ ((dmaDevice serve vq).run es h).1.reduceOption := by
  intro seen
  exact quiet (pulse_mem_run serve vq (List.reduceOption_mem_iff.mp seen))

theorem run_pulse (before after : List DeviceEvent) (h : Backend S) :
    ∃ rest, ((dmaDevice serve vq).run (before ++ .pulse :: after) h).1.reduceOption =
      ((dmaDevice serve vq).run before h).1.reduceOption ++ .pulse :: rest := by
  refine ⟨((dmaDevice serve vq).run after ((dmaDevice serve vq).run before h).2).1.reduceOption, ?_⟩
  rw [Machine.run_append, List.reduceOption_append]
  rfl

end Quiet

section Prompt

variable {κ S : Type} {impl : TransportImpl κ} {registers : κ → Bool} {queueSize : UInt32 → UInt16}
  (laws : DmaLaws impl registers queueSize) (serve : Bytes → S → Bytes × S)

include laws

/-- A prompt device is waited for with success. -/
theorem Linked.prompt_waits {live : LiveQueue} {request response : Mapping} {w : Wired κ S}
    (linked : Linked registers live request response w) {x : DmaInput}
    (prompt : (Window.mk x.early x.events).Prompt) (attached : 0 ≤ w.transport.chid)
    (quiet : w.transport.pulses = 0) :
    ∃ done s, Waits impl serve live request response x w done s ∧ done.rc = 0 ∧ s.pulses = 0 := by
  obtain ⟨early, before, after, split, none, steps⟩ := prompt
  have split : x.events = before ++ .pulse :: after := split
  -- the same exchange up to the interrupt
  let x' : DmaInput := { x with events := before }
  obtain ⟨-, -, total⟩ := linked.ran serve x'
  have finished : Phase.posted.after (x'.early ++ x'.events) = .finished :=
    Phase.after_of_sublist steps
  rw [finished] at total
  let ran := duringExchange serve live request response x w
  let ran' := duringExchange serve live request response x' w
  obtain ⟨rest, pulsed⟩ := run_pulse serve
    (withRequest live x w.transport).queue before after
    ((dmaDevice serve (withRequest live x w.transport).queue).run x.early
      (notified request response x w)).2
  have seen : ran.1.2 = ran'.1.2 ++ .pulse :: rest := by
    change ((dmaDevice serve _).run x.events _).1.reduceOption = _
    rw [split]
    exact pulsed
  let s₀ : WaitState := ⟨withRequest live x w.transport, 0 ≤ w.transport.chid, w.transport.pulses⟩
  have waiting := Awaits.elapsed (s := s₀) (linked.awaits x).2 ran.1.1
  have channel : (s₀.elapsed ran.1.1).channel = true := by
    rw [WaitState.elapsed_channel]
    exact decide_eq_true attached
  have empty : (s₀.elapsed ran.1.1).pulses = 0 := (elapsed_quiet (quiet_run _ _ early)).trans quiet
  obtain ⟨es, s, waited, drained⟩ := laws.prompt _ _ _ _ _ ran'.1.2 rest waiting channel empty
    (quiet_run _ _ none) (by rw [Option.none_or]; exact total)
  rw [← seen] at waited
  exact ⟨_, s, ⟨es, waited⟩, rfl, drained⟩

/-- It answers, and is waited for again. -/
theorem Linked.prompt_answers {live : LiveQueue} {request response : Mapping} {w : Wired κ S}
    (linked : Linked registers live request response w) {x : DmaInput}
    (prompt : (Window.mk x.early x.events).Prompt) (attached : 0 ≤ w.transport.chid)
    (quiet : w.transport.pulses = 0) :
    let after := dmaExchange impl registers serve x w
    let served := serve (sentBytes request response x w) w.host.server
    (∃ reply, after.1 = some reply ∧ reply.rc = 0 ∧
        reply.response = served.1.take maxMessageSize.toNat) ∧
      after.2.host.server = served.2 ∧ Attending registers after.2 := by
  intro after served
  obtain ⟨done, s, waits, success, drained⟩ :=
    linked.prompt_waits laws serve prompt attached quiet
  have idle : Idle live.queue.queueSize s.live := by
    obtain ⟨es, waited⟩ := waits
    obtain ⟨done', s', ⟨es', waited'⟩, ⟨-, idle⟩ | failure⟩ := linked.waits serve x laws
    · cases waited.symm.trans waited'
      exact idle
    · cases waited.symm.trans waited'
      rw [success] at failure
      exact absurd failure Int32.lt_irrefl
  obtain ⟨replied, server, again, kept⟩ := linked.succeeds serve x laws waits success idle
  refine ⟨replied, server, ⟨_, _, _, again⟩, ?_, ?_⟩
  · rw [kept]
    exact attached
  · rw [kept]
    exact drained

theorem Attending.exchange {w : Wired κ S} (attending : Attending registers w) (request : Bytes)
    {window : Window} (prompt : window.Prompt) (reset : SetupOutcome) :
    Attending registers
      (dmaExchange impl registers serve ⟨request, window.early, window.events, reset⟩ w).2 := by
  obtain ⟨live, request, response, linked⟩ := attending.linked
  exact (linked.prompt_answers laws serve prompt attending.attached attending.quiet).2.2

end Prompt

/-! ### As a transport of the session -/

/-- A transport that is waiting for its next exchange. -/
structure Attended {κ : Type} (registers : κ → Bool) (S : Type) where
  wired : Wired κ S
  /-- The number of exchanges so far. -/
  count : Nat
  attending : Attending registers wired

section Transport

variable {κ : Type} {impl : TransportImpl κ} {registers : κ → Bool} {queueSize : UInt32 → UInt16}
  (laws : DmaLaws impl registers queueSize) {plan : Nat → Window} (prompt : ∀ n, (plan n).Prompt)
  (resets : Nat → SetupOutcome)

/-- `plan` says what the device does in each exchange. -/
def dmaTransport {S : Type} (serve : Bytes → S → Bytes × S) :
    Transport (Attended registers S) where
  exchange request s :=
    let window := plan s.count
    let x : DmaInput := ⟨request, window.early, window.events, resets s.count⟩
    let result := dmaExchange impl registers serve x s.wired
    (match result.1 with
      | some reply => (reply.rc, reply.response)
      | none => (-einval, []),
      ⟨result.2, s.count + 1, s.attending.exchange laws serve request (prompt s.count) _⟩)

theorem dmaTransport_provides {ν φ : Type} (f : FileService ν φ) :
    (dmaTransport laws prompt resets f.serveBytes).Provides f fun s => s.wired.host.server := by
  constructor
  intro s tag r sendable
  obtain ⟨live, request, response, linked⟩ := s.attending.linked
  have short : (r.build tag).data.length < 2 ^ 32 := by
    rw [Request.build_length]
    exact Nat.lt_of_le_of_lt sendable.2 (by decide)
  let x : DmaInput := ⟨(r.build tag).data, (plan s.count).early, (plan s.count).events,
    resets s.count⟩
  obtain ⟨⟨reply, replied, zero, bytes⟩, server, -⟩ := linked.prompt_answers laws
    f.serveBytes (x := x) (prompt s.count) s.attending.attached s.attending.quiet
  rw [sentBytes_eq request response s.wired short, f.serveBytes_build sendable] at bytes server
  -- the whole response fits its buffer
  have fits := f.serve_fits r s.wired.host.server
  rw [List.take_of_length_le] at bytes
  · let T : Transport (Attended registers (ServiceState ν φ)) :=
      dmaTransport laws prompt resets f.serveBytes
    refine ⟨(T.exchange (r.build tag).data s).2, Prod.ext ?_ rfl, server⟩
    have replied : (dmaExchange impl registers f.serveBytes x s.wired).1 = some reply := replied
    simp only [dmaTransport]
    rw [replied]
    exact Prod.ext zero bytes
  · rw [Response.encode_data, List.length_append, header_length]
    exact fits

end Transport

end Virtio9p
