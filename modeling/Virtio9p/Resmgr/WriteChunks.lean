import Virtio9p.Protocol.Transact
import Virtio9p.Resmgr.Handlers

/-!
# The chunk loop of IoWrite

Which bytes the loop sends and at which file offsets, when the server acknowledges
every chunk in full and every message read returns what was asked.
-/
namespace Virtio9p

open Cursor NinePMessage

/-! ### Segments of a byte stream -/

/-- The `n` bytes of a stream from `start` on. -/
def segment (stream : Nat → UInt8) (start n : Nat) : Bytes :=
  (List.range n).map fun i => stream (start + i)

@[simp] theorem segment_length (stream : Nat → UInt8) (start n : Nat) :
    (segment stream start n).length = n := by simp [segment]

theorem segment_append (stream : Nat → UInt8) (start m n : Nat) :
    segment stream start m ++ segment stream (start + m) n = segment stream start (m + n) := by
  simp only [segment, List.range_add, List.map_append, List.map_map]
  congr 1
  apply List.map_congr_left
  intro i _
  simp [Nat.add_assoc]

theorem segment_take (stream : Nat → UInt8) (start n k : Nat) :
    (segment stream start n).take k = segment stream start (min k n) := by
  rw [segment, ← List.map_take, List.take_range, segment]

theorem segment_drop (stream : Nat → UInt8) (start n k : Nat) :
    (segment stream start n).drop k = segment stream (start + k) (n - k) := by
  apply List.ext_getElem
  · simp
  · intro i _ _
    simp [segment, Nat.add_assoc]

/-- What a piece of at most `k` bytes leaves; nothing is left of a segment that fits in it. -/
theorem segment_rest (stream : Nat → UInt8) (start n k : Nat) :
    (segment stream start n).drop k =
      segment stream (start + min n k) (n - min n k) := by
  rw [segment_drop]
  obtain fits | short : k ≤ n ∨ n ≤ k := Nat.le_total k n
  · rw [Nat.min_eq_right fits]
  · rw [Nat.min_eq_left short, Nat.sub_self, Nat.sub_eq_zero_of_le short]
    rfl

theorem segment_congr {stream stream' : Nat → UInt8} {start start' n : Nat}
    (same : ∀ i < n, stream (start + i) = stream' (start' + i)) :
    segment stream start n = segment stream' start' n := by
  apply List.map_congr_left
  intro i member
  exact same i (List.mem_range.mp member)

theorem segment_inj {stream stream' : Nat → UInt8} {start start' n : Nat}
    (same : segment stream start n = segment stream' start' n) {i : Nat} (inside : i < n) :
    stream (start + i) = stream' (start' + i) := by
  have at' : (segment stream start n)[i]? = (segment stream' start' n)[i]? := by rw [same]
  simpa [segment, inside] using at'

/-! ### The client's message -/

/-- `client` is the client's message, byte by byte from its start. The receive buffer
holds its first `msglen` bytes, and `msg` points at byte `ctp->offset` of it;
`resmgr_msgread` reads from position `ctp->offset + off`. -/
structure IoWrite.From (msg : IoWrite) (client : Nat → UInt8) : Prop where
  received : ∀ i, msg.ctpOffset + i < msg.msglen → msg.memory i = client (msg.ctpOffset + i)
  msgread : ∀ round n off,
    msg.msgread round n off = .ok (segment client (msg.ctpOffset + off) n)

/-- Byte `i` of the payload as the loop assembles it: behind the inline bytes, the offset
handed to `resmgr_msgread` already counts `ctp->offset`. -/
def sentByte (msg : IoWrite) (plan : WritePlan) (client : Nat → UInt8) (i : Nat) : UInt8 :=
  if i < plan.inlineBytes.toNat then client (msg.ctpOffset + plan.headerSize + i)
  else client (msg.ctpOffset + (msg.ctpOffset + plan.headerSize + i))

section Chunk

variable {msg : IoWrite} {ocb : ExtOcb} {client : Nat → UInt8} {offset : UInt64} {headerSize : Nat}

/-- The inline bytes all lie before the end of what was received. -/
theorem inlineBytes_received {i : Nat} (inside : i < (inlineBytes msg headerSize).toNat) :
    msg.ctpOffset + headerSize + i < msg.msglen := by
  have bound := msg.nbytes.toNat_lt
  unfold inlineBytes at inside
  -- either the buffer ends before the payload does, or the payload is all in it
  by_cases some : msg.msglen > msg.ctpOffset + headerSize
  · simp only [if_pos some] at inside
    by_cases few : msg.msglen - (msg.ctpOffset + headerSize) < msg.nbytes.toNat
    · rw [if_pos few, UInt32.toNat_ofNat'] at inside
      omega
    · rw [if_neg few] at inside
      omega
  · simp only [if_neg some] at inside
    by_cases few : 0 < msg.nbytes.toNat
    · rw [if_pos few] at inside
      exact absurd inside (Nat.not_lt_zero i)
    · rw [if_neg few] at inside
      omega

theorem chunkSize_pos (ocb : ExtOcb) : 0 < (chunkSize ocb).toNat := by
  unfold chunkSize
  by_cases unit : ocb.data.iounit > 0
  · rw [if_pos unit]
    exact UInt32.lt_iff_toNat_lt.mp unit
  · rw [if_neg unit]
    decide

theorem writePlan_same {q : Qnx} {plan : WritePlan} (planned : writePlan q msg ocb = .ok plan) :
    plan.fid = ocb.data.fid ∧ plan.nbytes = msg.nbytes ∧ plan.chunkSize = chunkSize ocb := by
  unfold writePlan at planned
  cases xtype : msg.xtype with
  | other =>
    rw [xtype] at planned
    cases planned
  | _ =>
    rw [xtype] at planned
    cases planned
    exact ⟨rfl, rfl, rfl⟩

/-- Length of the chunk that starts behind `totalWritten` bytes. -/
def chunkLength (plan : WritePlan) (totalWritten : Nat) : Nat :=
  min (plan.nbytes.toNat - totalWritten) plan.chunkSize.toNat

theorem nextChunk_toNat {plan : WritePlan} {totalWritten : UInt32}
    (started : totalWritten ≤ plan.nbytes) :
    (nextChunk plan totalWritten).toNat = chunkLength plan totalWritten.toNat := by
  have restNat : (plan.nbytes - totalWritten).toNat = plan.nbytes.toNat - totalWritten.toNat :=
    UInt32.toNat_sub_of_le _ _ started
  unfold nextChunk chunkLength
  by_cases big : plan.nbytes - totalWritten > plan.chunkSize
  · have bigNat := UInt32.lt_iff_toNat_lt.mp big
    rw [if_pos big]
    omega
  · have bigNat := UInt32.lt_iff_toNat_lt.not.mp big
    rw [if_neg big]
    omega

theorem inlinePart_toNat (plan : WritePlan) (totalWritten toWrite : UInt32) :
    (inlinePart plan totalWritten toWrite).toNat =
      min (plan.inlineBytes.toNat - totalWritten.toNat) toWrite.toNat := by
  unfold inlinePart
  -- behind the inline bytes nothing is copied
  by_cases early : totalWritten < plan.inlineBytes
  · have earlyNat := UInt32.lt_iff_toNat_lt.mp early
    have inlineNat : (plan.inlineBytes - totalWritten).toNat =
        plan.inlineBytes.toNat - totalWritten.toNat :=
      UInt32.toNat_sub_of_le _ _ (UInt32.le_of_lt early)
    rw [if_pos early]
    by_cases big : plan.inlineBytes - totalWritten > toWrite
    · have bigNat := UInt32.lt_iff_toNat_lt.mp big
      rw [if_pos big]
      omega
    · have bigNat := UInt32.lt_iff_toNat_lt.not.mp big
      rw [if_neg big]
      omega
  · have earlyNat := UInt32.lt_iff_toNat_lt.not.mp early
    have zero : (0 : UInt32).toNat = 0 := rfl
    rw [if_neg early]
    omega

/-- A chunk is the next segment of the payload as the loop assembles it. -/
theorem writeChunk_eq (source : msg.From client) {plan : WritePlan}
    (planned : plan = planAt msg ocb offset headerSize) (round : Nat) {totalWritten : UInt32}
    (started : totalWritten ≤ plan.nbytes) :
    writeChunk msg plan round totalWritten =
      .ok (segment (sentByte msg plan client) totalWritten.toNat
        (chunkLength plan totalWritten.toNat)) := by
  have sizeNat := nextChunk_toNat started
  have copiedNat := inlinePart_toNat plan totalWritten (nextChunk plan totalWritten)
  simp only [writeChunk]
  generalize nextChunk plan totalWritten = size at sizeNat copiedNat ⊢
  generalize inlinePart plan totalWritten size = copied at copiedNat ⊢
  -- the part that was received with the message
  have inlineBuffer : ((List.range copied.toNat).map fun i =>
      msg.memory (plan.headerSize + totalWritten.toNat + i)) =
      segment (sentByte msg plan client) totalWritten.toNat copied.toNat := by
    apply List.map_congr_left
    intro i member
    have inside : totalWritten.toNat + i < plan.inlineBytes.toNat := by
      have bound := List.mem_range.mp member
      omega
    have held : msg.ctpOffset + plan.headerSize + (totalWritten.toNat + i) < msg.msglen := by
      rw [planned] at inside ⊢
      exact inlineBytes_received inside
    have byte := source.received (plan.headerSize + totalWritten.toNat + i) (by omega)
    rw [byte, sentByte, if_pos inside]
    congr 1
    omega
  simp only [inlineBuffer, source.msgread]
  by_cases more : copied < size
  · have moreNat := UInt32.lt_iff_toNat_lt.mp more
    have overflowNat : (size - copied).toNat = size.toNat - copied.toNat :=
      UInt32.toNat_sub_of_le _ _ (UInt32.le_of_lt more)
    -- only the part behind the inline bytes is left to be read
    have overflowPart : segment client (msg.ctpOffset +
        (msg.ctpOffset + plan.headerSize + totalWritten.toNat + copied.toNat))
        (size.toNat - copied.toNat) =
        segment (sentByte msg plan client) (totalWritten.toNat + copied.toNat)
          (size.toNat - copied.toNat) := by
      apply segment_congr
      intro i _
      rw [sentByte, if_neg (by omega)]
      congr 1
      omega
    rw [if_pos more, overflowNat, overflowPart, segment_append]
    congr 2
    omega
  · have allNat := UInt32.lt_iff_toNat_lt.not.mp more
    rw [if_neg more]
    congr 2
    omega

omit client offset headerSize ocb in
/-- Whatever is read from the client, a chunk is not too long. -/
theorem writeChunk_length {plan : WritePlan} {round : Nat} {totalWritten : UInt32} {buf : Bytes}
    (chunk : writeChunk msg plan round totalWritten = .ok buf)
    (started : totalWritten ≤ plan.nbytes) :
    buf.length ≤ chunkLength plan totalWritten.toNat := by
  have sizeNat := nextChunk_toNat started
  have copiedNat := inlinePart_toNat plan totalWritten (nextChunk plan totalWritten)
  simp only [writeChunk] at chunk
  generalize nextChunk plan totalWritten = size at sizeNat copiedNat chunk
  generalize inlinePart plan totalWritten size = copied at copiedNat chunk
  by_cases more : copied < size
  · rw [if_pos more] at chunk
    cases read : msg.msgread round (size - copied).toNat
        (msg.ctpOffset + plan.headerSize + totalWritten.toNat + copied.toNat) with
    | error errno =>
      rw [read] at chunk
      cases chunk
    | ok bytes =>
      rw [read] at chunk
      cases chunk
      -- a message read may be short
      have asked := msg.bounded _ _ _ _ read
      rw [UInt32.toNat_sub_of_le _ _ (UInt32.le_of_lt more)] at asked
      rw [List.length_append, List.length_map, List.length_range]
      omega
  · rw [if_neg more] at chunk
    cases chunk
    rw [List.length_map, List.length_range]
    omega

end Chunk

/-! ### A server that acknowledges in full -/

variable {σ : Type}

/-- Every Twrite on `fid` is answered with an Rwrite of all of its data. -/
def Transport.Acknowledges (T : Transport σ) (fid : UInt32) : Prop :=
  ∀ s tag offset data, data.length < 2 ^ 32 →
    ∃ s', T.exchange (buildTwrite tag fid offset data (UInt32.ofNat data.length)).data s =
      ((0, ((Response.rwrite (UInt32.ofNat data.length)).encode tag).data), s')

/-- Send chunks one behind the other. -/
def Link.sendWrites (T : Transport σ) (fid : UInt32) : UInt64 → List Bytes → Link σ → Link σ
  | _, [], w => w
  | offset, data :: rest, w =>
    sendWrites T fid (offset + UInt64.ofNat data.length) rest
      (w.callOnce T fun tag => buildTwrite tag fid offset data (UInt32.ofNat data.length))

theorem write_acknowledged {T : Transport σ} {fid : UInt32} (acks : T.Acknowledges fid)
    (offset : UInt64) (data : Bytes) (bound : data.length < 2 ^ 32) (w : Link σ) :
    write T fid offset data (UInt32.ofNat data.length) w =
      ((UInt32.ofNat data.length).toInt32, w.sendWrites T fid offset [data]) := by
  have answers : w.Answers T (fun tag => buildTwrite tag fid offset data
      (UInt32.ofNat data.length)) (.rwrite (UInt32.ofNat data.length)) :=
    acks w.transport w.session.nextTag offset data bound
  have parsed : (parseRwrite (ofData ((Response.rwrite (UInt32.ofNat data.length)).encode
      w.session.nextTag).data)).1 = some (UInt32.ofNat data.length) :=
    parsed_encode (.rwrite (UInt32.ofNat data.length)) _ (consumes_getU32 _)
      (by simp [Response.payload])
  have call := call_answered answers (fun m => (parseRwrite m).1) (by simp [Response.type]) parsed
  rw [write, call]
  rfl

private theorem toInt_toInt32 (n : Nat) :
    (UInt32.ofNat n).toInt32.toInt = (n : Int).bmod (2 ^ 32) := by
  rw [UInt32.toInt32_ofNat', Int32.toInt_ofNat']
  rfl

/-- Byte counts from `2 ^ 31` on come back from `Write` as negative numbers. -/
theorem toInt32_neg_iff {n : Nat} (bound : n < 2 ^ 32) :
    (UInt32.ofNat n).toInt32 < 0 ↔ 2 ^ 31 ≤ n := by
  -- `Write` returns the count as a signed number
  rw [Int32.lt_iff_toInt_lt, toInt_toInt32, Int32.toInt_zero, Int.bmod_def]
  omega

section Loop

variable {T : Transport σ} {msg : IoWrite} {ocb : ExtOcb} {client : Nat → UInt8}
  {offset : UInt64} {headerSize : Nat} {plan : WritePlan}

theorem chunkLength_lt (plan : WritePlan) (totalWritten : Nat) :
    chunkLength plan totalWritten < 2 ^ 32 := by
  have bound := plan.chunkSize.toNat_lt
  unfold chunkLength
  omega

/-- One round that is acknowledged in full. -/
private theorem writeLoop_round (acks : T.Acknowledges plan.fid) (source : msg.From client)
    (planned : plan = planAt msg ocb offset headerSize) (fuel round : Nat)
    {totalWritten : UInt32} (more : totalWritten < plan.nbytes) (w : Link σ) :
    let chunk := segment (sentByte msg plan client) totalWritten.toNat
      (chunkLength plan totalWritten.toNat)
    let w' := w.sendWrites T plan.fid (plan.offset + totalWritten.toUInt64) [chunk]
    writeLoop T msg plan (fuel + 1) round totalWritten w =
      if 2 ^ 31 ≤ chunk.length then
        (some (.error (-(UInt32.ofNat chunk.length).toInt32)), w')
      else
        writeLoop T msg plan fuel (round + 1) (totalWritten + UInt32.ofNat chunk.length) w' := by
  intro chunk w'
  have bound : chunk.length < 2 ^ 32 := by
    rw [segment_length]
    exact chunkLength_lt plan _
  have piece := writeChunk_eq source planned round (UInt32.le_of_lt more)
  have sent := write_acknowledged acks (plan.offset + totalWritten.toUInt64) chunk bound w
  rw [writeLoop, if_pos more]
  simp only [piece]
  change (if (write T plan.fid (plan.offset + totalWritten.toUInt64) chunk
    (UInt32.ofNat chunk.length) w).1 < 0 then _ else _) = _
  rw [sent]
  simp only [toInt32_neg_iff bound, UInt32.toUInt32_toInt32]
  -- the whole chunk was acknowledged
  have full : ¬ UInt32.ofNat chunk.length < UInt32.ofNat chunk.length := UInt32.lt_irrefl _
  rw [if_neg full]

/-- As long as every chunk is acknowledged as a positive number, round after round sends
the next chunk until the whole payload is sent. -/
theorem writeLoop_acknowledged (plan : WritePlan) (acks : T.Acknowledges plan.fid)
    (source : msg.From client)
    (planned : plan = planAt msg ocb offset headerSize)
    (small : min plan.nbytes.toNat plan.chunkSize.toNat < 2 ^ 31) (fuel round : Nat)
    (totalWritten : UInt32) (w : Link σ) (started : totalWritten ≤ plan.nbytes)
    (enough : plan.nbytes.toNat - totalWritten.toNat ≤ fuel) :
    ∃ chunks : List Bytes, (∀ c ∈ chunks, c.length < 2 ^ 32) ∧
      chunks.flatten = segment (sentByte msg plan client) totalWritten.toNat
        (plan.nbytes.toNat - totalWritten.toNat) ∧
      writeLoop T msg plan fuel round totalWritten w = (some (.ok plan.nbytes),
        w.sendWrites T plan.fid (plan.offset + totalWritten.toUInt64) chunks) := by
  -- on the fuel: every round sends a byte at least
  induction fuel generalizing round totalWritten w with
  | zero =>
    have startedNat := UInt32.le_iff_toNat_le.mp started
    have all : totalWritten = plan.nbytes := UInt32.toNat_inj.mp (by omega)
    refine ⟨[], by simp, ?_, ?_⟩
    · rw [all, Nat.sub_self]
      rfl
    · rw [writeLoop, all, if_neg (UInt32.lt_irrefl _)]
      rfl
  | succ fuel ih =>
    have startedNat := UInt32.le_iff_toNat_le.mp started
    by_cases more : totalWritten < plan.nbytes
    · have moreNat := UInt32.lt_iff_toNat_lt.mp more
      have progress : 0 < plan.chunkSize.toNat := by
        rw [planned]
        exact chunkSize_pos ocb
      have roundEq := writeLoop_round acks source planned fuel round more w
      let chunk := segment (sentByte msg plan client) totalWritten.toNat
        (chunkLength plan totalWritten.toNat)
      have size : chunk.length = chunkLength plan totalWritten.toNat := segment_length _ _ _
      have within : chunk.length ≤ plan.nbytes.toNat - totalWritten.toNat := by
        rw [size]
        exact Nat.min_le_left _ _
      have nonempty : 0 < chunk.length := by
        rw [size, chunkLength]
        omega
      have positive : ¬ 2 ^ 31 ≤ chunk.length := by
        rw [size, chunkLength]
        omega
      have bound := plan.nbytes.toNat_lt
      have countNat : (UInt32.ofNat chunk.length).toNat = chunk.length := by
        rw [UInt32.toNat_ofNat']
        omega
      have nextNat : (totalWritten + UInt32.ofNat chunk.length).toNat =
          totalWritten.toNat + chunk.length := by
        rw [UInt32.toNat_add, countNat]
        omega
      obtain ⟨chunks, bounds, joined, run⟩ := ih (round + 1)
        (totalWritten + UInt32.ofNat chunk.length)
        (w.sendWrites T plan.fid (plan.offset + totalWritten.toUInt64) [chunk])
        (UInt32.le_iff_toNat_le.mpr (by omega)) (by omega)
      refine ⟨chunk :: chunks, ?_, ?_, ?_⟩
      · intro c member
        rcases List.mem_cons.mp member with rfl | later
        · omega
        · exact bounds c later
      · rw [List.flatten_cons, joined, nextNat, size, segment_append]
        congr 1
        omega
      · rw [roundEq]
        change (if 2 ^ 31 ≤ chunk.length then _ else _) = _
        rw [if_neg positive, run]
        -- the file offset moves by what was sent
        have moved : plan.offset + (totalWritten + UInt32.ofNat chunk.length).toUInt64 =
            plan.offset + totalWritten.toUInt64 + UInt64.ofNat chunk.length := by
          rw [UInt64.add_assoc]
          congr 1
          apply UInt64.toNat_inj.mp
          rw [UInt32.toNat_toUInt64, nextNat, UInt64.toNat_add, UInt32.toNat_toUInt64,
            UInt64.toNat_ofNat']
          omega
        rw [moved]
        rfl
    · have moreNat := UInt32.lt_iff_toNat_lt.not.mp more
      have all : totalWritten = plan.nbytes := UInt32.toNat_inj.mp (by omega)
      refine ⟨[], by simp, ?_, ?_⟩
      · rw [all, Nat.sub_self]
        rfl
      · rw [writeLoop, if_neg more, all]
        rfl

/-- A chunk of `2 ^ 31` bytes or more is sent, but its acknowledgement ends the loop. -/
theorem writeLoop_negative (plan : WritePlan) (acks : T.Acknowledges plan.fid)
    (source : msg.From client)
    (planned : plan = planAt msg ocb offset headerSize)
    (big : 2 ^ 31 ≤ min plan.nbytes.toNat plan.chunkSize.toNat) (fuel : Nat) (w : Link σ) :
    ∃ errno, writeLoop T msg plan (fuel + 1) 0 0 w = (some (.error errno),
      w.sendWrites T plan.fid plan.offset
        [segment (sentByte msg plan client) 0 (min plan.nbytes.toNat plan.chunkSize.toNat)]) := by
  have zero : (0 : UInt32).toNat = 0 := rfl
  have more : 0 < plan.nbytes := UInt32.lt_iff_toNat_lt.mpr (by rw [zero]; omega)
  have roundEq := writeLoop_round acks source planned fuel 0 more w
  simp only [segment_length, chunkLength, zero, Nat.sub_zero, if_pos big] at roundEq
  exact ⟨_, by simpa using roundEq⟩

end Loop

end Virtio9p
