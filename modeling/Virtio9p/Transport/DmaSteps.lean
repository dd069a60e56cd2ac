import Virtio9p.Transport.DmaExchange
import Virtio9p.Transport.Refinement

/-!
# What an exchange through memory delivers

One exchange between a driver and a device that agree on the queue and on the buffers. Either the
answer comes back and they still agree, or the device is reset and they start again.
-/
namespace Virtio9p

/-! ### The buffers of a device that was just set up -/

/-- The addresses that the device gets are those of the buffers. -/
structure Coherent {κ : Type} (o : SetupOutcome) (t : TransportState κ) : Prop where
  reqVirt : t.dmaReqVirt = some o.request
  respVirt : t.dmaRespVirt = some o.response
  reqPhys : t.dmaReqPhys = o.request.phys
  respPhys : t.dmaRespPhys = o.response.phys

section Setup

variable {κ : Type} {o : SetupOutcome} {t : TransportState κ}

theorem Coherent.attachInterrupt (coherent : Coherent o t) :
    Coherent o (t.attachInterrupt o).2 := by
  obtain ⟨reqVirt, respVirt, reqPhys, respPhys⟩ := coherent
  unfold TransportState.attachInterrupt
  split
  · exact ⟨reqVirt, respVirt, reqPhys, respPhys⟩
  · simp only
    split
    · exact ⟨reqVirt, respVirt, reqPhys, respPhys⟩
    · split <;> exact ⟨reqVirt, respVirt, reqPhys, respPhys⟩

/-- Only a step that fails right behind the mapping of the response buffer leaves that buffer with
the address of another one. -/
theorem mapBuffers_coherent (passes : o.stop ≠ some .responseOffset)
    (response : t.dmaRespVirt = none) (up : (t.mapBuffers o).2.Up) :
    Coherent o (t.mapBuffers o).2 := by
  revert up
  unfold TransportState.mapBuffers
  split
  · exact fun up => absurd rfl up.2.1
  · simp only
    split
    · exact fun up => absurd response up.2.2
    · split
      · exact fun up => absurd rfl up.2.2
      · exact fun _ => Coherent.attachInterrupt ⟨rfl, rfl, rfl, rfl⟩

variable {S : Type} {impl : TransportImpl κ} {registers : κ → Bool} {queueSize : UInt32 → UInt16}
  (laws : DmaLaws impl registers queueSize)

include laws

/-- A setup that gets past the guard of `Exchange` has made a queue without entries. -/
theorem initializeDevice_linked (passes : o.stop ≠ some .responseOffset)
    (room : queueSize o.queueNumMax ≠ 1) (mapped : registers t.own = true)
    (request : t.dmaReqVirt = none) (response : t.dmaRespVirt = none)
    (up : (impl.initializeDevice o t).2.Up) {h : Backend S} (seen : h.seenIdx = 0)
    (jobs : h.jobs = []) :
    ∃ live request response,
      Linked registers live request response ⟨(impl.initializeDevice o t).2, h⟩ := by
  have negotiated := laws.setup.negotiated o t
  have queued := laws.setup.queued o (impl.negotiateFeatures o t).2
  revert up
  unfold TransportImpl.initializeDevice
  simp only
  by_cases refused : (impl.negotiateFeatures o t).1 ≠ 0
  · rw [if_pos refused]
    exact fun up => absurd (negotiated.request.trans request) up.2.1
  · rw [if_neg refused]
    by_cases failed : (impl.setupVirtqueue o (impl.negotiateFeatures o t).2).1 ≠ 0
    · rw [if_pos failed]
      exact fun up => absurd (queued.request.trans (negotiated.request.trans request)) up.2.1
    · rw [if_neg failed]
      intro up
      have made := not_not.mp failed
      obtain ⟨size, live, queue, idle, -⟩ := laws.setup.made o _ made
      have coherent := mapBuffers_coherent passes
        (queued.response.trans (negotiated.response.trans response)) up
      have same := idle.sound.size
      have two : 2 ≤ live.queue.queueSize := by
        have none : (0 : UInt16).toNat = 0 := rfl
        have one : (1 : UInt16).toNat = 1 := rfl
        have least : (2 : UInt16).toNat = 2 := rfl
        rw [Ne, ← UInt16.toNat_inj] at size room
        rw [same, UInt16.le_iff_toNat_le]
        omega
      refine ⟨live, o.request, o.response, ?_⟩
      constructor
      · exact TransportState.mapBuffers_virtqueue.trans queue
      · exact coherent.reqVirt
      · exact coherent.respVirt
      · exact coherent.reqPhys
      · exact coherent.respPhys
      · exact two
      · exact same ▸ idle
      · rw [laws.fresh o _ live made queue]
        exact seen
      · exact jobs
      · rw [TransportState.mapBuffers_own, laws.kept, laws.reach.kept]
        exact mapped

/-- A reset leaves driver and device in agreement, or the guard of `Exchange` closed. -/
theorem resetDevice_linked (passes : o.stop ≠ some .responseOffset)
    (room : queueSize o.queueNumMax ≠ 1) (mapped : registers t.own = true) (h : Backend S) :
    Ready registers (⟨(impl.resetDevice o t).2, h.reset⟩ : Wired κ S) := by
  intro up
  let released := TransportState.release { impl.clearStatus t with virtqueue := none }
  have mapped' : registers released.own = true := (laws.reach.cleared t).trans mapped
  have up' : (impl.initializeDevice o released).2.Up := up
  have reset : h.reset.seenIdx = 0 := rfl
  obtain ⟨live, request, response, linked⟩ :=
    initializeDevice_linked laws passes room mapped' rfl rfl up' reset rfl
  exact ⟨live, request, response, linked.queue, linked.reqVirt, linked.respVirt, linked.reqPhys,
    linked.respPhys, linked.two, linked.idle, linked.seen, linked.jobs, linked.registers⟩

end Setup

/-! ### One exchange -/

/-- What comes of a request that finds the server in state `s`: its answer, as far as it fits the
response buffer, or an error. Then the server has executed the request or has not. -/
def Delivers {S : Type} (serve : Bytes → S → Bytes × S) (request : Bytes) (reply : ExchangeReply)
    (s s' : S) : Prop :=
  reply.rc = 0 ∧ reply.response = (serve request s).1.take maxMessageSize.toNat ∧
      s' = (serve request s).2 ∨
    reply.rc < 0 ∧ reply.response = [] ∧ (s' = s ∨ s' = (serve request s).2)

section Step

variable {κ S : Type} {impl : TransportImpl κ} {registers : κ → Bool}
  (serve : Bytes → S → Bytes × S)

/-- The chain of the request, and the queue with it in flight. -/
def requestChain (live : LiveQueue) (x : DmaInput) (t : TransportState κ) : Chain :=
  live.queue.nextChain t.dmaReqPhys (UInt32.ofNat x.request.length) t.dmaRespPhys maxMessageSize

def withRequest (live : LiveQueue) (x : DmaInput) (t : TransportState κ) : LiveQueue :=
  (live.addBuf t.dmaReqPhys (UInt32.ofNat x.request.length) t.dmaRespPhys maxMessageSize).2

/-- The device when it is notified. -/
def notified (request response : Mapping) (x : DmaInput) (w : Wired κ S) : Backend S :=
  { w.host with memory := fillBuffers request response x.request w.host.memory }

/-- The bytes that the device reads. -/
def sentBytes (request response : Mapping) (x : DmaInput) (w : Wired κ S) : Bytes :=
  (notified request response x w).memory.load request.phys (UInt32.ofNat x.request.length).toNat

/-- A request that fits its length field is sent as it is. -/
theorem sentBytes_eq (request response : Mapping) {x : DmaInput} (w : Wired κ S)
    (short : x.request.length < 2 ^ 32) : sentBytes request response x w = x.request := by
  have length : (UInt32.ofNat x.request.length).toNat = x.request.length := by
    rw [UInt32.toNat_ofNat']
    exact Nat.mod_eq_of_lt short
  rw [sentBytes, length]
  exact Memory.load_store _ _ (by omega)

variable {live : LiveQueue} {request response : Mapping} {w : Wired κ S}
  (linked : Linked registers live request response w) (x : DmaInput)

include linked

theorem Linked.awaits :
    (live.addBuf w.transport.dmaReqPhys (UInt32.ofNat x.request.length) w.transport.dmaRespPhys
      maxMessageSize).1 = (requestChain live x w.transport).head.toUInt32.toInt32 ∧
    Awaits live.queue.queueSize (requestChain live x w.transport) none
      (withRequest live x w.transport) :=
  linked.idle.addBuf linked.two _ _ _ _

theorem Linked.withRequest_eq : (withRequest live x w.transport).queue =
    live.queue.added (requestChain live x w.transport) := by
  have room : ¬ live.queue.numFree < 2 := by
    rw [linked.idle.numFree]
    exact UInt16.not_lt.mpr linked.two
  rw [withRequest, linked.idle.sound.addBuf_eq room]
  rfl

theorem Linked.posted :
    Posted (withRequest live x w.transport).queue (requestChain live x w.transport) := by
  have awaits := (linked.awaits x).2
  have member : requestChain live x w.transport ∈ (withRequest live x w.transport).inFlight :=
    awaits.alone ▸ List.mem_singleton_self _
  refine ⟨awaits.sound.holds _ member, ?_, ?_⟩
  · rw [linked.withRequest_eq x]
    change Function.update _ _ _ (_ % _) = _
    simp [Virtqueue.added, Virtqueue.slot]
  · rw [linked.withRequest_eq x]
    exact linked.two

/-- The device is notified of the one request. -/
theorem Linked.atPhase : AtPhase serve (sentBytes request response x w) w.host.server
    (withRequest live x w.transport).queue (requestChain live x w.transport) .posted
    (notified request response x w) := by
  apply AtPhase.posted
  · rw [linked.withRequest_eq x]
    exact congrArg (· + 1) linked.seen
  · exact linked.jobs
  · rfl
  · change Memory.load _ w.transport.dmaReqPhys _ = _
    rw [linked.reqPhys]
    rfl

/-- The device during the exchange. -/
def duringExchange (serve : Bytes → S → Bytes × S) (live : LiveQueue) (request response : Mapping)
    (x : DmaInput) (w : Wired κ S) : (List WaitEvent × List WaitEvent) × Backend S :=
  deviceRuns serve (withRequest live x w.transport).queue x (notified request response x w)

omit linked in
theorem answerFor_length (c : Chain) (bytes : Bytes) (s : S) :
    (answerFor serve c bytes s).length =
      (UInt32.ofNat (answerFor serve c bytes s).length).toNat := by
  have fits : (answerFor serve c bytes s).length ≤ c.inLen.toNat := List.length_take_le _ _
  have small := c.inLen.toNat_lt
  rw [UInt32.toNat_ofNat', Nat.mod_eq_of_lt (by omega)]

/-- The length that is published for the request. -/
def answerLength (serve : Bytes → S → Bytes × S) (live : LiveQueue) (request response : Mapping)
    (x : DmaInput) (w : Wired κ S) : UInt32 :=
  UInt32.ofNat (answerFor serve (requestChain live x w.transport) (sentBytes request response x w)
    w.host.server).length

/-- How far the device gets, and what the driver sees of it before the wait and in all. -/
theorem Linked.ran :
    let ran := duringExchange serve live request response x w
    let c := requestChain live x w.transport
    let n := answerLength serve live request response x w
    AtPhase serve (sentBytes request response x w) w.host.server
        (withRequest live x w.transport).queue c (Phase.posted.after (x.early ++ x.events)) ran.2 ∧
      published c ran.1.1 = (Phase.posted.after x.early).answered n ∧
      (published c ran.1.1).or (published c ran.1.2) =
        (Phase.posted.after (x.early ++ x.events)).answered n := by
  intro ran c n
  have posted := linked.posted x
  have start := linked.atPhase serve x
  obtain ⟨first, early⟩ := start.run posted x.early (answerFor_length serve _ _ _)
  obtain ⟨last, late⟩ := first.run posted x.events (answerFor_length serve _ _ _)
  have all : Phase.posted.after (x.early ++ x.events) =
      (Phase.posted.after x.early).after x.events := List.foldl_append
  have before : published c ran.1.1 = (Phase.posted.after x.early).answered n := early
  refine ⟨all ▸ last, before, ?_⟩
  rw [all, before]
  exact late

/-- `Exchange` once the wait has returned. -/
theorem Linked.exchange_eq {done : Completion} {es : List WaitEvent} {s : WaitState}
    (waited : impl.waitForCompletion (duringExchange serve live request response x w).1.2
      (WaitState.elapsed ⟨withRequest live x w.transport, 0 ≤ w.transport.chid,
        w.transport.pulses⟩ (duringExchange serve live request response x w).1.1) =
          some (done, es, s)) :
    dmaExchange impl registers serve x w =
      let ran := duringExchange serve live request response x w
      let head := (requestChain live x w.transport).head.toUInt32.toInt32
      let t : TransportState κ :=
        { w.transport with virtqueue := some s.live, pulses := s.pulses }
      if done.rc < 0 then
        (some ⟨done.rc, [], some head, some done.head⟩,
          ⟨(impl.resetDevice x.reset t).2, ran.2.reset⟩)
      else
        (some ⟨0, ran.2.memory.load response.phys done.outLen.toNat, some head, some done.head⟩,
          ⟨t, ran.2⟩) := by
  have head := (linked.awaits x).1
  have room : ¬ (live.addBuf w.transport.dmaReqPhys (UInt32.ofNat x.request.length)
      w.transport.dmaRespPhys maxMessageSize).1 < 0 := by
    rw [head]
    exact head_not_neg _
  rw [dmaExchange, linked.queue, linked.reqVirt, linked.respVirt]
  simp only
  rw [if_neg room, TransportImpl.exchange_eq, linked.queue, linked.reqVirt, linked.respVirt]
  simp only
  rw [if_neg room]
  simp only [duringExchange, withRequest, notified] at waited ⊢
  rw [waited]
  simp only [head, requestChain]
  by_cases failed : done.rc < 0
  · simp only [Option.any_some, decide_eq_true_eq, failed, linked.registers, and_self, if_true]
  · have zero : ¬ (0 : Int32) < 0 := by decide
    simp only [if_neg failed, Option.any_some, decide_eq_true_eq, zero, false_and, if_false]
    rfl

/-- After the answer is read, driver and device agree again. -/
theorem Linked.answered (leaves : WaitLeaves impl.waitForCompletion) {done : Completion}
    {es : List WaitEvent} {s : WaitState}
    (waited : impl.waitForCompletion (duringExchange serve live request response x w).1.2
      (WaitState.elapsed ⟨withRequest live x w.transport, 0 ≤ w.transport.chid,
        w.transport.pulses⟩ (duringExchange serve live request response x w).1.1) =
          some (done, es, s))
    (idle : Idle live.queue.queueSize s.live)
    (finished : Phase.posted.after (x.early ++ x.events) = .finished) :
    Linked registers s.live request response
      (⟨{ w.transport with virtqueue := some s.live, pulses := s.pulses },
        (duringExchange serve live request response x w).2⟩ : Wired κ S) := by
  have last := (linked.ran serve x).1
  rw [finished] at last
  have index : s.live.queue.availIdx = (withRequest live x w.transport).queue.availIdx :=
    (leaves _ availIdx_fixed _ _ _ _ _ waited).trans (availIdx_fixed.elapsed _ _)
  have same := idle.sound.size
  cases last with
  | finished seen jobs =>
    constructor
    · rfl
    · exact linked.reqVirt
    · exact linked.respVirt
    · exact linked.reqPhys
    · exact linked.respPhys
    · rw [same]
      exact linked.two
    · rw [same]
      exact idle
    · exact seen.trans index.symm
    · exact jobs
    · exact linked.registers

variable {serve} in
omit linked in
/-- Whether the server has executed the request depends on how far the device has got. -/
theorem AtPhase.server_or {vq : Virtqueue} {c : Chain} {bytes : Bytes} {s : S} {phase : Phase}
    {h : Backend S} (here : AtPhase serve bytes s vq c phase h) :
    h.server = s ∨ h.server = (serve bytes s).2 := by
  cases here with
  | posted _ _ server | taken _ _ server => exact .inl server
  | executed _ _ server | finished _ _ server => exact .inr server

/-- The wait of the exchange. -/
def Waits (impl : TransportImpl κ) (serve : Bytes → S → Bytes × S) (live : LiveQueue)
    (request response : Mapping) (x : DmaInput) (w : Wired κ S) (done : Completion)
    (s : WaitState) : Prop :=
  ∃ es, impl.waitForCompletion (duringExchange serve live request response x w).1.2
    (WaitState.elapsed ⟨withRequest live x w.transport, 0 ≤ w.transport.chid,
      w.transport.pulses⟩ (duringExchange serve live request response x w).1.1) =
        some (done, es, s)

variable {queueSize : UInt32 → UInt16} (laws : DmaLaws impl registers queueSize)

include laws

theorem Linked.waits : ∃ done s, Waits impl serve live request response x w done s ∧
    (done.rc = 0 ∧ Idle live.queue.queueSize s.live ∨ done.rc < 0) := by
  let ran := duringExchange serve live request response x w
  let s₀ : WaitState := ⟨withRequest live x w.transport, 0 ≤ w.transport.chid, w.transport.pulses⟩
  have waiting := Awaits.elapsed (s := s₀) (linked.awaits x).2 ran.1.1
  obtain ⟨done, es, s, waited, outcome⟩ := laws.ends _ _ _ ran.1.2 _ waiting
  refine ⟨done, s, ⟨es, waited⟩, ?_⟩
  rcases outcome with ⟨success, -, idle⟩ | ⟨failure, -⟩
  · exact .inl ⟨success, idle⟩
  · exact .inr failure

/-- A wait that succeeds brings the answer to the request. -/
theorem Linked.succeeds {done : Completion} {s : WaitState}
    (waits : Waits impl serve live request response x w done s) (success : done.rc = 0)
    (idle : Idle live.queue.queueSize s.live) :
    let after := dmaExchange impl registers serve x w
    let served := serve (sentBytes request response x w) w.host.server
    (∃ reply, after.1 = some reply ∧ reply.rc = 0 ∧
        reply.response = served.1.take maxMessageSize.toNat) ∧
      after.2.host.server = served.2 ∧ Linked registers s.live request response after.2 ∧
      after.2.transport = { w.transport with virtqueue := some s.live, pulses := s.pulses } := by
  intro after served
  obtain ⟨es, waited⟩ := waits
  let s₀ : WaitState := ⟨withRequest live x w.transport, 0 ≤ w.transport.chid, w.transport.pulses⟩
  have waiting := Awaits.elapsed (s := s₀) (linked.awaits x).2
    (duringExchange serve live request response x w).1.1
  obtain ⟨here, -, total⟩ := linked.ran serve x
  -- the completion was read, so the device has finished
  have read := laws.reads _ _ _ _ _ waiting _ _ _ waited success
  rw [Option.none_or, total] at read
  have finished : Phase.posted.after (x.early ++ x.events) = .finished := by
    revert read
    cases Phase.posted.after (x.early ++ x.events) with
    | finished => exact fun _ => rfl
    | posted | taken | executed => rintro ⟨⟩
  have again := linked.answered serve x laws.leaves waited idle finished
  have result : after = _ := linked.exchange_eq serve x waited
  rw [if_neg (by rw [success]; exact Int32.lt_irrefl)] at result
  rw [finished] at here read
  simp only [Phase.answered, Option.some.injEq] at read
  rw [result]
  cases here with
  | finished _ _ server bytes =>
    refine ⟨⟨_, rfl, rfl, ?_⟩, server, again, rfl⟩
    -- what is copied is what the device has written
    have length := answerFor_length serve (requestChain live x w.transport)
      (sentBytes request response x w) w.host.server
    have written : (requestChain live x w.transport).inPhys = response.phys := linked.respPhys
    rw [written] at bytes
    rw [← read, answerLength, ← length, bytes]
    rfl

theorem Linked.delivers (passes : x.reset.stop ≠ some .responseOffset)
    (room : queueSize x.reset.queueNumMax ≠ 1) :
    ∃ reply, (dmaExchange impl registers serve x w).1 = some reply ∧
      Delivers serve (sentBytes request response x w) reply w.host.server
        (dmaExchange impl registers serve x w).2.host.server ∧
      Ready registers (dmaExchange impl registers serve x w).2 := by
  obtain ⟨done, s, waits, ⟨success, idle⟩ | failure⟩ := linked.waits serve x laws
  · obtain ⟨⟨reply, replied, zero, bytes⟩, server, again, -⟩ :=
      linked.succeeds serve x laws waits success idle
    exact ⟨reply, replied, .inl ⟨zero, bytes, server⟩, fun _ => ⟨_, _, _, again⟩⟩
  · obtain ⟨es, waited⟩ := waits
    have here := (linked.ran serve x).1
    rw [linked.exchange_eq serve x waited, if_pos failure]
    refine ⟨_, rfl, .inr ⟨failure, rfl, here.server_or⟩, ?_⟩
    let t : TransportState κ := { w.transport with virtqueue := some s.live, pulses := s.pulses }
    exact resetDevice_linked (t := t) laws passes room linked.registers _

end Step

end Virtio9p
