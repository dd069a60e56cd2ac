import Virtio9p.Server.FileServer

/-!
# The payload of a write

What `IoWrite` puts on the wire is the client's payload, cut into consecutive Twrites,
exactly when the part read from the client's memory is the same without the second
`ctp->offset`, and no acknowledgement but the last turns negative.
-/
namespace Virtio9p

open NinePMessage

/-- Position of the payload in the client's message. -/
def IoWrite.payloadStart (q : Qnx) (msg : IoWrite) : Nat :=
  msg.ctpOffset +
    match msg.xtype with
    | .offset _ => q.sizeofIoWrite + q.sizeofXtypeOffset
    | _ => q.sizeofIoWrite

/-- File offset of the write. -/
def IoWrite.fileOffset (msg : IoWrite) (ocb : ExtOcb) : UInt64 :=
  match msg.xtype with
  | .offset offset => offset
  | _ => ocb.data.offset

/-- The Twrites of a list of chunks, at consecutive file offsets. -/
def twrites (fid : UInt32) : UInt64 → UInt16 → List Bytes → List Bytes
  | _, _, [] => []
  | offset, tag, data :: rest =>
    (buildTwrite tag fid offset data (UInt32.ofNat data.length)).data ::
      twrites fid (offset + UInt64.ofNat data.length) (tag + 1) rest

/-- The requests sent so far. -/
def Link.requests {σ : Type} (w : Link σ) : List Bytes := w.sent.map Prod.snd

/-- The handler sends the payload of the message in consecutive Twrites, and nothing else. -/
def SendsPayload {σ : Type} (T : Transport σ) (q : Qnx) (fuel : Nat) (msg : IoWrite)
    (client : Nat → UInt8) (ocb : ExtOcb) (w : Link σ) : Prop :=
  ∃ chunks : List Bytes, (∀ c ∈ chunks, c.length < 2 ^ 32) ∧
    (ioWrite T q fuel msg ocb w).2.requests =
      w.requests ++ twrites ocb.data.fid (msg.fileOffset ocb) w.session.nextTag chunks ∧
    chunks.flatten = segment client (msg.payloadStart q) msg.nbytes.toNat

/-- Where the payload does not fit the receive buffer, the client's message reads the same
`ctp->offset` bytes further on. -/
def OverflowUnmoved (q : Qnx) (msg : IoWrite) (client : Nat → UInt8) : Prop :=
  ∀ i, (inlineBytes msg (msg.payloadStart q - msg.ctpOffset)).toNat ≤ i → i < msg.nbytes.toNat →
    client (msg.ctpOffset + (msg.payloadStart q + i)) = client (msg.payloadStart q + i)

/-! ### The requests of a list of chunks -/

theorem requests_sendWrites {σ : Type} (T : Transport σ) (fid : UInt32) (offset : UInt64)
    (chunks : List Bytes) (w : Link σ) :
    (w.sendWrites T fid offset chunks).requests =
      w.requests ++ twrites fid offset w.session.nextTag chunks := by
  induction chunks generalizing offset w with
  | nil => simp [Link.sendWrites, twrites]
  | cons data rest ih =>
    rw [Link.sendWrites, ih, twrites]
    simp [Link.callOnce, Link.tagged, Link.exchanged, Link.requests, NinePSession.takeTag]

theorem buildTwrite_drop (tag : UInt16) (fid : UInt32) (offset : UInt64) {data : Bytes}
    (bound : data.length < 2 ^ 32) :
    (buildTwrite tag fid offset data (UInt32.ofNat data.length)).data.drop 23 = data := by
  have count : (UInt32.ofNat data.length).toNat = data.length := by
    rw [UInt32.toNat_ofNat']
    omega
  have framed := (Request.twrite fid offset data).build_data tag
  change (Request.build tag (.twrite fid offset data)).data.drop 23 = data
  rw [framed, Request.payload, count, List.take_length, ← List.append_assoc, ← List.append_assoc,
    ← List.append_assoc]
  exact List.drop_left' (by simp)

theorem twrites_inj {fid : UInt32} {offset offset' : UInt64} {tag tag' : UInt16}
    {chunks chunks' : List Bytes} (bounds : ∀ c ∈ chunks, c.length < 2 ^ 32)
    (bounds' : ∀ c ∈ chunks', c.length < 2 ^ 32)
    (same : twrites fid offset tag chunks = twrites fid offset' tag' chunks') :
    chunks = chunks' := by
  induction chunks generalizing chunks' offset offset' tag tag' with
  | nil =>
    cases chunks' with
    | nil => rfl
    | cons data rest => cases same
  | cons data rest ih =>
    cases chunks' with
    | nil => cases same
    | cons data' rest' =>
      obtain ⟨head, tail⟩ := List.cons.inj same
      -- behind the 23 bytes of the fixed fields stands the chunk itself
      have first : data = data' := by
        rw [← buildTwrite_drop tag fid offset (bounds data List.mem_cons_self), head,
          buildTwrite_drop tag' fid offset' (bounds' data' List.mem_cons_self)]
      rw [first, ih (fun c member => bounds c (List.mem_cons_of_mem _ member))
        (fun c member => bounds' c (List.mem_cons_of_mem _ member)) tail]

/-! ### The handler -/

section Handler

variable {σ : Type} {T : Transport σ} {q : Qnx} {msg : IoWrite} {client : Nat → UInt8}
  {ocb : ExtOcb}

theorem writePlan_eq (known : msg.xtype ≠ .other) :
    writePlan q msg ocb =
      .ok (planAt msg ocb (msg.fileOffset ocb) (msg.payloadStart q - msg.ctpOffset)) := by
  unfold writePlan IoWrite.fileOffset IoWrite.payloadStart
  cases xtype : msg.xtype with
  | none => simp
  | offset offset => simp
  | other => exact absurd xtype known

private theorem ioWrite_eq (verified : msg.verify = eok) (nonempty : msg.nbytes ≠ 0)
    (known : msg.xtype ≠ .other) (plan : WritePlan)
    (planned : plan = planAt msg ocb (msg.fileOffset ocb) (msg.payloadStart q - msg.ctpOffset))
    (fuel : Nat) (w : Link σ) :
    ioWrite T q fuel msg ocb w =
      match writeLoop T msg plan fuel 0 0 w with
      | (none, w) => ((.stuck, ocb), w)
      | (some (.error errno), w) => ((.errno errno, ocb), w)
      | (some (.ok totalWritten), w) =>
        ((.nbytes totalWritten.toInt32, writtenOcb msg plan.offset totalWritten ocb), w) :=
  ioWrite_planned verified nonempty ((writePlan_eq known).trans (planned ▸ rfl)) fuel w

/-- Sequential writes move the cursor of the OCB. -/
def movedBy (msg : IoWrite) (n : UInt32) (data : Virtio9pOcb) : Virtio9pOcb :=
  match msg.xtype with
  | .offset _ => data
  | _ => { data with offset := data.offset + n.toUInt64 }

/-- With acknowledgements that stay positive the handler sends the whole payload as it
assembles it, and reports it written. -/
theorem ioWrite_complete (acks : T.Acknowledges ocb.data.fid) (source : msg.From client)
    (verified : msg.verify = eok) (known : msg.xtype ≠ .other)
    (small : min msg.nbytes.toNat (chunkSize ocb).toNat < 2 ^ 31) (fuel : Nat)
    (enough : msg.nbytes.toNat ≤ fuel) (w : Link σ) :
    ∃ chunks : List Bytes, (∀ c ∈ chunks, c.length < 2 ^ 32) ∧
      chunks.flatten = segment (sentByte msg
        (planAt msg ocb (msg.fileOffset ocb) (msg.payloadStart q - msg.ctpOffset)) client) 0
        msg.nbytes.toNat ∧
      (ioWrite T q fuel msg ocb w).2 = w.sendWrites T ocb.data.fid (msg.fileOffset ocb) chunks ∧
      (ioWrite T q fuel msg ocb w).1.1 = .nbytes msg.nbytes.toInt32 ∧
      (ioWrite T q fuel msg ocb w).1.2.data = movedBy msg msg.nbytes ocb.data := by
  have zero : (0 : UInt32).toNat = 0 := rfl
  -- an empty write returns before the chunk loop
  by_cases empty : msg.nbytes = 0
  · refine ⟨[], by simp, ?_, ?_⟩
    · rw [empty]
      simp [segment]
    · rw [ioWrite, if_neg (not_not_intro verified), if_pos empty, empty]
      refine ⟨rfl, rfl, ?_⟩
      unfold movedBy
      cases msg.xtype <;> simp
  · let plan := planAt msg ocb (msg.fileOffset ocb) (msg.payloadStart q - msg.ctpOffset)
    obtain ⟨chunks, bounds, joined, run⟩ := writeLoop_acknowledged plan acks source rfl small
      fuel 0 0 w (UInt32.le_iff_toNat_le.mpr (by rw [zero]; omega)) enough
    have whole : ioWrite T q fuel msg ocb w = ((.nbytes msg.nbytes.toInt32,
        writtenOcb msg plan.offset msg.nbytes ocb),
        w.sendWrites T plan.fid (plan.offset + (0 : UInt32).toUInt64) chunks) := by
      rw [ioWrite_eq verified empty known plan rfl, run]
      rfl
    refine ⟨chunks, bounds, joined, ?_⟩
    rw [whole]
    refine ⟨?_, rfl, ?_⟩
    · simp [plan, planAt]
    · cases xtype : msg.xtype <;> simp only [writtenOcb, movedBy, xtype]

/-- What the handler sends, as far as the loop gets. -/
theorem ioWrite_sent (acks : T.Acknowledges ocb.data.fid) (source : msg.From client)
    (verified : msg.verify = eok) (known : msg.xtype ≠ .other) (fuel : Nat)
    (enough : msg.nbytes.toNat ≤ fuel) (w : Link σ) :
    ∃ chunks : List Bytes, (∀ c ∈ chunks, c.length < 2 ^ 32) ∧
      (ioWrite T q fuel msg ocb w).2 =
        w.sendWrites T ocb.data.fid (msg.fileOffset ocb) chunks ∧
      chunks.flatten = segment (sentByte msg
        (planAt msg ocb (msg.fileOffset ocb) (msg.payloadStart q - msg.ctpOffset)) client) 0
        (if 2 ^ 31 ≤ (chunkSize ocb).toNat then min msg.nbytes.toNat (chunkSize ocb).toNat
          else msg.nbytes.toNat) := by
  by_cases small : min msg.nbytes.toNat (chunkSize ocb).toNat < 2 ^ 31
  · obtain ⟨chunks, bounds, joined, run, _⟩ := ioWrite_complete (q := q) acks source verified known
      small fuel enough w
    refine ⟨chunks, bounds, run, ?_⟩
    rw [joined]
    congr 1
    split <;> omega
  · let plan := planAt msg ocb (msg.fileOffset ocb) (msg.payloadStart q - msg.ctpOffset)
    have nonempty : msg.nbytes ≠ 0 := by
      intro empty
      have zero : msg.nbytes.toNat = 0 := by
        rw [empty]
        rfl
      omega
    obtain ⟨fuel, rfl⟩ : ∃ n, fuel = n + 1 := ⟨fuel - 1, by omega⟩
    -- the first acknowledgement is negative and ends the loop
    obtain ⟨errno, run⟩ := writeLoop_negative plan acks source rfl (Nat.le_of_not_lt small) fuel w
    refine ⟨[segment (sentByte msg plan client) 0
      (min msg.nbytes.toNat (chunkSize ocb).toNat)], ?_, ?_, ?_⟩
    · intro c member
      rw [List.mem_singleton.mp member, segment_length]
      have bound := msg.nbytes.toNat_lt
      omega
    · rw [ioWrite_eq verified nonempty known plan rfl, run]
      rfl
    · rw [List.flatten_cons, List.flatten_nil, List.append_nil]
      congr 1
      split <;> omega

/-- The assembled payload is the client's exactly if the overflow is unmoved. -/
theorem sent_eq_payload_iff (offset : UInt64) :
    segment (sentByte msg (planAt msg ocb offset (msg.payloadStart q - msg.ctpOffset)) client) 0
        msg.nbytes.toNat = segment client (msg.payloadStart q) msg.nbytes.toNat ↔
      OverflowUnmoved q msg client := by
  have start : msg.ctpOffset + (msg.payloadStart q - msg.ctpOffset) = msg.payloadStart q := by
    unfold IoWrite.payloadStart
    omega
  -- the offset of a message read counts `ctp->offset` twice
  have byte (i : Nat) : sentByte msg
      (planAt msg ocb offset (msg.payloadStart q - msg.ctpOffset)) client (0 + i) =
      if i < (inlineBytes msg (msg.payloadStart q - msg.ctpOffset)).toNat
      then client (msg.payloadStart q + i)
      else client (msg.ctpOffset + (msg.payloadStart q + i)) := by
    simp only [sentByte, planAt, start, Nat.zero_add]
  constructor
  · intro same i beyond inside
    have here := segment_inj same inside
    rwa [byte, if_neg (Nat.not_lt.mpr beyond)] at here
  · intro unmoved
    apply segment_congr
    intro i inside
    rw [byte]
    by_cases within : i < (inlineBytes msg (msg.payloadStart q - msg.ctpOffset)).toNat
    · rw [if_pos within]
    · rw [if_neg within]
      exact unmoved i (Nat.le_of_not_lt within) inside

/-- The requests determine the chunks. -/
private theorem sendsPayload_iff {fuel : Nat} {w : Link σ} {chunks : List Bytes}
    (bounds : ∀ c ∈ chunks, c.length < 2 ^ 32)
    (run : (ioWrite T q fuel msg ocb w).2 =
      w.sendWrites T ocb.data.fid (msg.fileOffset ocb) chunks) :
    SendsPayload T q fuel msg client ocb w ↔
      chunks.flatten = segment client (msg.payloadStart q) msg.nbytes.toNat := by
  have requests : (ioWrite T q fuel msg ocb w).2.requests =
      w.requests ++ twrites ocb.data.fid (msg.fileOffset ocb) w.session.nextTag chunks := by
    rw [run, requests_sendWrites]
  constructor
  · rintro ⟨chunks', bounds', requests', joined⟩
    rw [requests] at requests'
    rw [twrites_inj bounds bounds' (List.append_cancel_left requests')]
    exact joined
  · intro joined
    exact ⟨chunks, bounds, requests, joined⟩

theorem ioWrite_sendsPayload_iff (acks : T.Acknowledges ocb.data.fid) (source : msg.From client)
    (verified : msg.verify = eok) (known : msg.xtype ≠ .other) (fuel : Nat)
    (enough : msg.nbytes.toNat ≤ fuel) (w : Link σ) :
    SendsPayload T q fuel msg client ocb w ↔
      OverflowUnmoved q msg client ∧
        ¬ (2 ^ 31 ≤ (chunkSize ocb).toNat ∧ (chunkSize ocb).toNat < msg.nbytes.toNat) := by
  obtain ⟨chunks, bounds, run, joined⟩ := ioWrite_sent (q := q) acks source verified known fuel
    enough w
  rw [sendsPayload_iff bounds run, joined]
  by_cases stops : 2 ^ 31 ≤ (chunkSize ocb).toNat ∧ (chunkSize ocb).toNat < msg.nbytes.toNat
  · -- only the first chunk is sent
    constructor
    · intro same
      have size := congrArg List.length same
      rw [segment_length, segment_length, if_pos stops.1] at size
      omega
    · intro holds
      exact absurd stops holds.2
  · have whole : (if 2 ^ 31 ≤ (chunkSize ocb).toNat then
        min msg.nbytes.toNat (chunkSize ocb).toNat else msg.nbytes.toNat) = msg.nbytes.toNat := by
      split <;> omega
    rw [whole, sent_eq_payload_iff]
    constructor
    · intro unmoved
      exact ⟨unmoved, stops⟩
    · intro holds
      exact holds.1

end Handler

/-! ### A write inside a combine message -/

/-- The client's message holds byte `i` at position `i`; what was received ends with the
header. -/
def combineWrite (ctpOffset : Nat) (nbytes : UInt32) : IoWrite where
  nbytes := nbytes
  xtype := .none
  memory i := UInt8.ofNat (ctpOffset + i)
  ctpOffset := ctpOffset
  msglen := ctpOffset + 16
  verify := eok
  msgread _ n off := .ok (segment UInt8.ofNat (ctpOffset + off) n)
  bounded _ n off bytes read := by
    cases read
    exact Nat.le_of_eq (segment_length _ _ n)

private theorem combineWrite_from (ctpOffset : Nat) (nbytes : UInt32) :
    (combineWrite ctpOffset nbytes).From UInt8.ofNat :=
  ⟨fun _ _ => rfl, fun _ _ _ => rfl⟩

def plainOcb : ExtOcb := ⟨0, 0o100644, 0, ⟨1, 0, 0, false, 0⟩⟩

def emptyFile : Link Bytes := ⟨NinePSession.new, [], []⟩

theorem ioWrite_sendsPayload_iff_alone :
    SendsPayload fileServer Qnx.headers 3 (combineWrite 0 3) UInt8.ofNat plainOcb emptyFile ↔
      OverflowUnmoved Qnx.headers (combineWrite 0 3) UInt8.ofNat ∧
        ¬ (2 ^ 31 ≤ (chunkSize plainOcb).toNat ∧
          (chunkSize plainOcb).toNat < (combineWrite 0 3).nbytes.toNat) :=
  ioWrite_sendsPayload_iff (q := Qnx.headers) (fileServer_serves plainOcb.data.fid).acknowledges
    (combineWrite_from 0 3) rfl Xtype.noConfusion 3 (Nat.le_refl 3) emptyFile

/-- Eight bytes into a combine message the handler sends byte 32 in place of byte 24. -/
theorem combineWrite_wrong_payload :
    ¬ SendsPayload fileServer Qnx.headers 1 (combineWrite 8 1) UInt8.ofNat plainOcb emptyFile := by
  obtain ⟨chunks, bounds, run, joined⟩ := ioWrite_sent (q := Qnx.headers)
    (fileServer_serves plainOcb.data.fid).acknowledges (combineWrite_from 8 1) rfl
    Xtype.noConfusion 1
    (Nat.le_refl 1) emptyFile
  rw [sendsPayload_iff bounds run, joined]
  decide

end Virtio9p
