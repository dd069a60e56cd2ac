import Virtio9p.Foundation.Loop
import Virtio9p.Protocol.ReturnCodes
import Virtio9p.Resmgr.WriteChunks

/-!
# Rounds of the chunk loop

What becomes of one chunk, and how the loop of `IoWrite` goes on from it, when the server may
acknowledge a part of a chunk or refuse it and a message read may be short or fail.
-/
namespace Virtio9p

open Cursor NinePMessage

variable {σ : Type}

/-- Every Twrite on `fid` is acknowledged for a first part of its data, or refused. `stored`
relates the states before and after that part is taken in. -/
def Transport.TakesWrites (T : Transport σ) (fid : UInt32)
    (stored : σ → UInt64 → Bytes → σ → Prop) : Prop :=
  ∀ s tag offset data, data.length < 2 ^ 32 → ∃ s',
    (∃ count ≤ data.length,
      T.exchange (buildTwrite tag fid offset data (UInt32.ofNat data.length)).data s =
        ((0, ((Response.rwrite (UInt32.ofNat count)).encode tag).data), s') ∧
      stored s offset (data.take count) s') ∨
    (∃ ecode : UInt32, ecode.toNat ≤ 2 ^ 31 ∧
      T.exchange (buildTwrite tag fid offset data (UInt32.ofNat data.length)).data s =
        ((0, ((Response.rlerror ecode).encode tag).data), s') ∧
      stored s offset [] s')

/-- What becomes of a chunk: it cannot be read from the client, the server refuses it, or the
server acknowledges some of the bytes sent. -/
inductive ChunkOutcome where
  | unread (errno : Int32)
  | refused (ecode : UInt32)
  | acknowledged (sent count : Nat)
  deriving DecidableEq

namespace ChunkOutcome

def Fails : ChunkOutcome → Prop
  | unread _ => True
  | refused _ => True
  | acknowledged _ _ => False

/-- The bytes acknowledged. -/
def count : ChunkOutcome → Nat
  | acknowledged _ count => count
  | _ => 0

end ChunkOutcome

section Outcome

variable (T : Transport σ) (msg : IoWrite) (plan : WritePlan)

def chunkRequest (totalWritten : UInt32) (buf : Bytes) (tag : UInt16) : NinePMessage :=
  buildTwrite tag plan.fid (plan.offset + totalWritten.toUInt64) buf (UInt32.ofNat buf.length)

/-- The link after a chunk was sent. -/
def Link.chunkSent (totalWritten : UInt32) (buf : Bytes) (w : Link σ) : Link σ :=
  w.callOnce T (chunkRequest plan totalWritten buf)

/-- The outcome of the chunk that the loop sends in a round, read off the response. -/
def chunkOutcome (round : Nat) (totalWritten : UInt32) (w : Link σ) : ChunkOutcome :=
  match writeChunk msg plan round totalWritten with
  | .error errno => .unread errno
  | .ok buf =>
    let response :=
      (T.exchange (chunkRequest plan totalWritten buf w.session.nextTag).data w.transport).1.2
    match isRlerror (ofData response) with
    | some ecode => .refused ecode
    | none => .acknowledged buf.length (LittleEndian.decode ((response.drop 7).take 4))

/-- The chunk loop: its state is the round, the bytes written so far and the link. -/
def chunkLoop : Loop (Nat × UInt32 × Link σ) (Except Int32 UInt32 × Link σ) where
  round
    | (round, totalWritten, w) =>
      if totalWritten < plan.nbytes then
        match writeChunk msg plan round totalWritten with
        | .error errno => .inl (.error errno, w)
        | .ok buf =>
          let copied := UInt32.ofNat buf.length
          let sent := write T plan.fid (plan.offset + totalWritten.toUInt64) buf copied w
          if sent.1 < 0 then .inl (.error (-sent.1), sent.2)
          else if sent.1.toUInt32 < copied then
            .inl (.ok (totalWritten + sent.1.toUInt32), sent.2)
          else .inr (round + 1, totalWritten + sent.1.toUInt32, sent.2)
      else .inl (.ok totalWritten, w)

end Outcome

section Handler

variable {T : Transport σ} {msg : IoWrite} {plan : WritePlan}

/-- The loop of the handler, one round unfolded. -/
private theorem writeLoop_succ (fuel round : Nat) (totalWritten : UInt32) (w : Link σ) :
    writeLoop T msg plan (fuel + 1) round totalWritten w =
      match (chunkLoop T msg plan).round (round, totalWritten, w) with
      | .inl (result, w') => (some result, w')
      | .inr (round', totalWritten', w') => writeLoop T msg plan fuel round' totalWritten' w' := by
  rw [writeLoop]
  simp only [chunkLoop]
  by_cases more : totalWritten < plan.nbytes
  · simp only [if_pos more]
    cases writeChunk msg plan round totalWritten with
    | error errno => rfl
    | ok buf =>
      simp only
      split
      · rfl
      · split <;> rfl
  · simp only [if_neg more]

/-- A write that is not empty runs the chunk loop. -/
theorem ioWrite_planned {q : Qnx} {ocb : ExtOcb} (verified : msg.verify = eok)
    (nonempty : msg.nbytes ≠ 0) (planned : writePlan q msg ocb = .ok plan) (fuel : Nat)
    (w : Link σ) :
    ioWrite T q fuel msg ocb w =
      match writeLoop T msg plan fuel 0 0 w with
      | (none, w) => ((.stuck, ocb), w)
      | (some (.error errno), w) => ((.errno errno, ocb), w)
      | (some (.ok totalWritten), w) =>
        ((.nbytes totalWritten.toInt32, writtenOcb msg plan.offset totalWritten ocb), w) := by
  unfold ioWrite
  exact (if_neg (not_not_intro verified)).trans ((if_neg nonempty).trans (planned ▸ rfl))

/-- Where the handler's loop has ended, this one has. -/
theorem run_of_writeLoop {fuel round : Nat} {totalWritten : UInt32} {w w' : Link σ}
    {result : Except Int32 UInt32}
    (ended : writeLoop T msg plan fuel round totalWritten w = (some result, w')) :
    (chunkLoop T msg plan).run (fuel + 1) (round, totalWritten, w) = some (result, w') := by
  induction fuel generalizing round totalWritten w with
  | zero =>
    -- without fuel the loop can only have written all
    rw [writeLoop] at ended
    by_cases more : totalWritten < plan.nbytes
    · rw [if_pos more] at ended
      cases ended
    · rw [if_neg more] at ended
      cases ended
      exact Loop.run_leaves (by simp only [chunkLoop, if_neg more]) 0
  | succ fuel ih =>
    rw [writeLoop_succ] at ended
    cases step : (chunkLoop T msg plan).round (round, totalWritten, w) with
    | inl left =>
      rw [step] at ended
      cases ended
      exact Loop.run_leaves step _
    | inr next =>
      rw [step] at ended
      rw [Loop.run_goes step]
      exact ih ended

theorem writeLoop_of_run {fuel round : Nat} {totalWritten : UInt32} {w w' : Link σ}
    {result : Except Int32 UInt32}
    (left : (chunkLoop T msg plan).run fuel (round, totalWritten, w) = some (result, w')) :
    writeLoop T msg plan fuel round totalWritten w = (some result, w') := by
  induction fuel generalizing round totalWritten w with
  | zero => cases left
  | succ fuel ih =>
    rw [writeLoop_succ]
    cases step : (chunkLoop T msg plan).round (round, totalWritten, w) with
    | inl out =>
      rw [Loop.run_leaves step] at left
      cases left
      rfl
    | inr next =>
      rw [Loop.run_goes step] at left
      exact ih left

end Handler

/-! ### One round -/

/-- What the handler makes of the end of the loop. -/
def writeResult (msg : IoWrite) (ocb : ExtOcb) (offset : UInt64) :
    Except Int32 UInt32 → Reply × ExtOcb
  | .error errno => (.errno errno, ocb)
  | .ok totalWritten => (.nbytes totalWritten.toInt32, writtenOcb msg offset totalWritten ocb)

/-- What a round with something left to write does. -/
inductive ChunkRound (T : Transport σ) (msg : IoWrite) (plan : WritePlan)
    (stored : σ → UInt64 → Bytes → σ → Prop) (round : Nat) (totalWritten : UInt32) (w : Link σ) :
    Prop where
  | unread (errno : Int32)
      (outcome : chunkOutcome T msg plan round totalWritten w = .unread errno)
      (leaves : (chunkLoop T msg plan).round (round, totalWritten, w) = .inl (.error errno, w))
  | refused (buf : Bytes) (ecode : UInt32) (code : Int32) (failed : code ≠ 0)
      (outcome : chunkOutcome T msg plan round totalWritten w = .refused ecode)
      (same : stored w.transport (plan.offset + totalWritten.toUInt64) []
        (w.chunkSent T plan totalWritten buf).transport)
      (leaves : (chunkLoop T msg plan).round (round, totalWritten, w) =
        .inl (.error code, w.chunkSent T plan totalWritten buf))
  | acknowledged (buf : Bytes) (count : Nat) (within : count ≤ buf.length)
      (chunk : writeChunk msg plan round totalWritten = .ok buf)
      (outcome : chunkOutcome T msg plan round totalWritten w = .acknowledged buf.length count)
      (takenIn : stored w.transport (plan.offset + totalWritten.toUInt64) (buf.take count)
        (w.chunkSent T plan totalWritten buf).transport)
      (goesOn : (chunkLoop T msg plan).round (round, totalWritten, w) =
        if 2 ^ 31 ≤ count then
          .inl (.error (-(UInt32.ofNat count).toInt32), w.chunkSent T plan totalWritten buf)
        else if count < buf.length then
          .inl (.ok (totalWritten + UInt32.ofNat count), w.chunkSent T plan totalWritten buf)
        else
          .inr (round + 1, totalWritten + UInt32.ofNat count, w.chunkSent T plan totalWritten buf))

private theorem ofNat_lt_iff {m n : Nat} (hm : m < 2 ^ 32) (hn : n < 2 ^ 32) :
    UInt32.ofNat m < UInt32.ofNat n ↔ m < n := by
  rw [UInt32.lt_iff_toNat_lt, UInt32.toNat_ofNat', UInt32.toNat_ofNat', Nat.mod_eq_of_lt hm,
    Nat.mod_eq_of_lt hn]

/-- The count of an acknowledgement stands behind the header. -/
private theorem decode_rwrite {count : Nat} (bound : count < 2 ^ 32) (tag : UInt16) :
    LittleEndian.decode
      ((((Response.rwrite (UInt32.ofNat count)).encode tag).data.drop 7).take 4) = count := by
  have countNat : (UInt32.ofNat count).toNat = count := by
    rw [UInt32.toNat_ofNat']
    omega
  rw [Response.encode_data, List.drop_left' (by simp), Response.payload,
    List.take_of_length_le (by simp), Wire.u32, countNat,
    LittleEndian.decode_encode_of_lt bound]

theorem write_acknowledges {T : Transport σ} {fid : UInt32} {offset : UInt64} {data : Bytes}
    {count : Nat} {w : Link σ} {s : σ}
    (exchange : T.exchange (buildTwrite w.session.nextTag fid offset data
      (UInt32.ofNat data.length)).data w.transport =
        ((0, ((Response.rwrite (UInt32.ofNat count)).encode w.session.nextTag).data), s)) :
    write T fid offset data (UInt32.ofNat data.length) w =
      ((UInt32.ofNat count).toInt32,
        w.callOnce T fun tag => buildTwrite tag fid offset data (UInt32.ofNat data.length)) := by
  have parsed : (parseRwrite (ofData ((Response.rwrite (UInt32.ofNat count)).encode
      w.session.nextTag).data)).1 = some (UInt32.ofNat count) :=
    parsed_encode (.rwrite (UInt32.ofNat count)) _ (consumes_getU32 _)
      (by simp [Response.payload])
  have answers : w.Answers T (fun tag => buildTwrite tag fid offset data
      (UInt32.ofNat data.length)) (.rwrite (UInt32.ofNat count)) := ⟨s, exchange⟩
  have call := call_answered answers (fun m => (parseRwrite m).1) (by simp [Response.type]) parsed
  rw [write, call]

theorem write_refused {T : Transport σ} {fid : UInt32} {offset : UInt64} {data : Bytes}
    {ecode : UInt32} {w : Link σ} {s : σ}
    (exchange : T.exchange (buildTwrite w.session.nextTag fid offset data
      (UInt32.ofNat data.length)).data w.transport =
        ((0, ((Response.rlerror ecode).encode w.session.nextTag).data), s)) :
    write T fid offset data (UInt32.ofNat data.length) w =
      (refusal ecode,
        w.callOnce T fun tag => buildTwrite tag fid offset data (UInt32.ofNat data.length)) := by
  have only : ParsesOnly .rwrite fun m => (parseRwrite m).1 := parsesOnly_payload .rwrite getU32
  rw [write, call_rlerror only (by decide) ⟨s, exchange⟩]

theorem refusal_neg {ecode : UInt32} (small : ecode.toNat ≤ 2 ^ 31) : refusal ecode < 0 := by
  unfold refusal
  by_cases zero : ecode = 0
  · rw [if_pos zero]
    decide
  · rw [if_neg zero]
    exact negated_code zero small

section Round

variable {T : Transport σ} {msg : IoWrite} {plan : WritePlan}
  {stored : σ → UInt64 → Bytes → σ → Prop}

theorem chunkRound (msg : IoWrite) (takes : T.TakesWrites plan.fid stored) (round : Nat)
    {totalWritten : UInt32} (more : totalWritten < plan.nbytes) (w : Link σ) :
    ChunkRound T msg plan stored round totalWritten w := by
  cases chunk : writeChunk msg plan round totalWritten with
  | error errno =>
    refine .unread errno ?_ ?_
    · simp only [chunkOutcome, chunk]
    · simp only [chunkLoop, if_pos more, chunk]
  | ok buf =>
    have bound : buf.length < 2 ^ 32 :=
      Nat.lt_of_le_of_lt (writeChunk_length chunk (UInt32.le_of_lt more)) (chunkLength_lt plan _)
    obtain ⟨s, answer⟩ := takes w.transport w.session.nextTag
      (plan.offset + totalWritten.toUInt64) buf bound
    have reached : (w.chunkSent T plan totalWritten buf).transport =
      (T.exchange (chunkRequest plan totalWritten buf w.session.nextTag).data w.transport).2 := rfl
    rcases answer with ⟨count, within, exchange, takenIn⟩ | ⟨ecode, small, exchange, same⟩
    · have countBound : count < 2 ^ 32 := Nat.lt_of_le_of_lt within bound
      refine .acknowledged buf count within chunk ?_ ?_ ?_
      · simp only [chunkOutcome, chunk, chunkRequest, exchange,
          isRlerror_encode (.rwrite (UInt32.ofNat count)) _ (by simp [Response.type]),
          decode_rwrite countBound]
      · rw [reached, chunkRequest, exchange]
        exact takenIn
      · simp only [chunkLoop, if_pos more, chunk, write_acknowledges exchange,
          toInt32_neg_iff countBound, UInt32.toUInt32_toInt32, ofNat_lt_iff countBound bound]
        rfl
    · have negative := refusal_neg small
      refine .refused buf ecode (-refusal ecode) (neg_ne_eok (refusal_ne_zero ecode)) ?_ ?_ ?_
      · simp only [chunkOutcome, chunk, chunkRequest, exchange, isRlerror_encode_rlerror]
      · rw [reached, chunkRequest, exchange]
        exact same
      · simp only [chunkLoop, if_pos more, chunk, write_refused exchange, if_pos negative]
        rfl

/-- What is known when a round goes on: the whole chunk was acknowledged. -/
structure GoesOn (T : Transport σ) (msg : IoWrite) (plan : WritePlan)
    (stored : σ → UInt64 → Bytes → σ → Prop) (round : Nat) (totalWritten : UInt32) (w : Link σ)
    (next : Nat × UInt32 × Link σ) (buf : Bytes) : Prop where
  more : totalWritten < plan.nbytes
  chunk : writeChunk msg plan round totalWritten = .ok buf
  small : buf.length < 2 ^ 31
  outcome : chunkOutcome T msg plan round totalWritten w =
    .acknowledged buf.length buf.length
  takenIn : stored w.transport (plan.offset + totalWritten.toUInt64) buf
    (w.chunkSent T plan totalWritten buf).transport
  state : next =
    (round + 1, totalWritten + UInt32.ofNat buf.length, w.chunkSent T plan totalWritten buf)
  /-- The total does not wrap. -/
  total : next.2.1.toNat = totalWritten.toNat + buf.length
  within : totalWritten.toNat + buf.length ≤ plan.nbytes.toNat

theorem added_toNat {totalWritten nbytes : UInt32} {n : Nat}
    (within : totalWritten.toNat + n ≤ nbytes.toNat) :
    (totalWritten + UInt32.ofNat n).toNat = totalWritten.toNat + n := by
  have bound := nbytes.toNat_lt
  rw [UInt32.toNat_add, UInt32.toNat_ofNat']
  omega

omit T stored in
/-- A chunk stays within what is left to write. -/
theorem chunk_within {round : Nat} {totalWritten : UInt32} {buf : Bytes}
    (more : totalWritten < plan.nbytes)
    (chunk : writeChunk msg plan round totalWritten = .ok buf) :
    totalWritten.toNat + buf.length ≤ plan.nbytes.toNat := by
  have moreNat := UInt32.lt_iff_toNat_lt.mp more
  have size := writeChunk_length chunk (UInt32.le_of_lt more)
  unfold chunkLength at size
  omega

theorem round_goesOn (takes : T.TakesWrites plan.fid stored) {round : Nat}
    {totalWritten : UInt32} {w : Link σ} {next : Nat × UInt32 × Link σ}
    (goes : (chunkLoop T msg plan).round (round, totalWritten, w) = .inr next) :
    ∃ buf, GoesOn T msg plan stored round totalWritten w next buf := by
  by_cases more : totalWritten < plan.nbytes
  · cases chunkRound msg takes round more w with
    | unread errno outcome leaves =>
      rw [leaves] at goes
      cases goes
    | refused buf ecode code failed outcome same leaves =>
      rw [leaves] at goes
      cases goes
    | acknowledged buf count within chunk outcome takenIn goesOn =>
      rw [goesOn] at goes
      by_cases negative : 2 ^ 31 ≤ count
      · rw [if_pos negative] at goes
        cases goes
      · rw [if_neg negative] at goes
        by_cases short : count < buf.length
        · rw [if_pos short] at goes
          cases goes
        · rw [if_neg short] at goes
          cases goes
          have full : count = buf.length := by omega
          have inside := chunk_within more chunk
          rw [full, List.take_length] at takenIn
          rw [full] at outcome negative ⊢
          exact ⟨buf, more, chunk, Nat.lt_of_not_le negative, outcome, takenIn, rfl,
            added_toNat inside, inside⟩
  · simp only [chunkLoop, if_neg more] at goes
    cases goes

/-- What is taken in piece by piece is taken in as a whole. -/
structure Accumulates (stored : σ → UInt64 → Bytes → σ → Prop) : Prop where
  nothing : ∀ s offset, stored s offset [] s
  append : ∀ {s s' s'' offset xs ys}, stored s offset xs s' →
    stored s' (offset + UInt64.ofNat xs.length) ys s'' → stored s offset (xs ++ ys) s''

/-- A condition on every chunk that the loop sends. -/
def EveryChunk (T : Transport σ) (msg : IoWrite) (plan : WritePlan) (w : Link σ)
    (cond : Nat → UInt32 → Link σ → Prop) : Prop :=
  ∀ n round totalWritten w',
    (chunkLoop T msg plan).after n (0, 0, w) = some (round, totalWritten, w') →
      totalWritten < plan.nbytes → cond round totalWritten w'

/-- A condition that every round meets that goes on is one on the round that ends the loop. -/
theorem everyChunk_iff (takes : T.TakesWrites plan.fid stored)
    {cond : Nat → UInt32 → Link σ → Prop}
    (passes : ∀ {round totalWritten w next buf},
      GoesOn T msg plan stored round totalWritten w next buf → cond round totalWritten w)
    {n round : Nat} {totalWritten : UInt32} {w w' : Link σ} {out : Except Int32 UInt32 × Link σ}
    (reached : (chunkLoop T msg plan).after n (0, 0, w) = some (round, totalWritten, w'))
    (leaves : (chunkLoop T msg plan).round (round, totalWritten, w') = .inl out) :
    EveryChunk T msg plan w cond ↔ (totalWritten < plan.nbytes → cond round totalWritten w') := by
  constructor
  · intro every
    exact every n round totalWritten w' reached
  · intro last m round' totalWritten' w'' going more
    rcases Loop.goes_on reached leaves going with same | ⟨next, -, goes, -⟩
    · cases same
      exact last more
    · obtain ⟨buf, goesOn⟩ := round_goesOn takes goes
      exact passes goesOn

/-- The total never falls. -/
theorem total_grows (takes : T.TakesWrites plan.fid stored) {n : Nat} {s s' : Nat × UInt32 × Link σ}
    (reached : (chunkLoop T msg plan).after n s = some s') : s.2.1.toNat ≤ s'.2.1.toNat := by
  have preserved : ∀ t t', s.2.1.toNat ≤ t.2.1.toNat → (chunkLoop T msg plan).round t = .inr t' →
      s.2.1.toNat ≤ t'.2.1.toNat ∧ 0 ≤ 0 := by
    rintro ⟨round, totalWritten, w⟩ t' lower goes
    obtain ⟨buf, goesOn⟩ := round_goesOn takes goes
    have total := goesOn.total
    exact ⟨by simp only at lower; omega, Nat.le_refl 0⟩
  exact (Loop.after_invariant preserved (Nat.le_refl _) reached).1

/-- How the loop ends in a round: all is written, the chunk fails, its acknowledgement turns
negative, or it is acknowledged in part. -/
inductive LastRound (T : Transport σ) (msg : IoWrite) (plan : WritePlan)
    (stored : σ → UInt64 → Bytes → σ → Prop) (round : Nat) (totalWritten : UInt32) (w : Link σ) :
    Except Int32 UInt32 × Link σ → Prop where
  | complete (done : ¬ totalWritten < plan.nbytes) :
      LastRound T msg plan stored round totalWritten w (.ok totalWritten, w)
  | failed (errno : Int32) (w' : Link σ) (more : totalWritten < plan.nbytes)
      (fails : (chunkOutcome T msg plan round totalWritten w).Fails)
      (same : stored w.transport (plan.offset + totalWritten.toUInt64) [] w'.transport) :
      LastRound T msg plan stored round totalWritten w (.error errno, w')
  | negative (errno : Int32) (w' : Link σ) (sent : Nat) (data : Bytes)
      (more : totalWritten < plan.nbytes)
      (outcome : chunkOutcome T msg plan round totalWritten w = .acknowledged sent data.length)
      (huge : 2 ^ 31 ≤ data.length)
      (takenIn : stored w.transport (plan.offset + totalWritten.toUInt64) data w'.transport) :
      LastRound T msg plan stored round totalWritten w (.error errno, w')
  | short (w' : Link σ) (sent : Nat) (data : Bytes) (more : totalWritten < plan.nbytes)
      (outcome : chunkOutcome T msg plan round totalWritten w = .acknowledged sent data.length)
      (part : data.length < sent) (small : data.length < 2 ^ 31)
      (within : totalWritten.toNat + data.length ≤ plan.nbytes.toNat)
      (takenIn : stored w.transport (plan.offset + totalWritten.toUInt64) data w'.transport) :
      LastRound T msg plan stored round totalWritten w
        (.ok (totalWritten + UInt32.ofNat data.length), w')

theorem round_leaves (takes : T.TakesWrites plan.fid stored) (accumulates : Accumulates stored)
    {round : Nat} {totalWritten : UInt32} {w : Link σ} {out : Except Int32 UInt32 × Link σ}
    (leaves : (chunkLoop T msg plan).round (round, totalWritten, w) = .inl out) :
    LastRound T msg plan stored round totalWritten w out := by
  by_cases more : totalWritten < plan.nbytes
  · cases chunkRound msg takes round more w with
    | unread errno outcome left =>
      rw [left] at leaves
      cases leaves
      exact .failed errno w more (by rw [outcome]; trivial) (accumulates.nothing _ _)
    | refused buf ecode code failed outcome same left =>
      rw [left] at leaves
      cases leaves
      exact .failed code _ more (by rw [outcome]; trivial) same
    | acknowledged buf count within chunk outcome takenIn goesOn =>
      have inside := chunk_within more chunk
      have length : (buf.take count).length = count := List.length_take_of_le within
      rw [goesOn] at leaves
      by_cases huge : 2 ^ 31 ≤ count
      · rw [if_pos huge] at leaves
        cases leaves
        exact .negative _ _ buf.length (buf.take count) more (by rw [length]; exact outcome)
          (by rw [length]; exact huge) takenIn
      · rw [if_neg huge] at leaves
        by_cases short : count < buf.length
        · rw [if_pos short] at leaves
          cases leaves
          rw [← length]
          exact .short _ buf.length (buf.take count) more (by rw [length]; exact outcome)
            (by omega) (by omega) (by omega) takenIn
        · rw [if_neg short] at leaves
          cases leaves
  · simp only [chunkLoop, if_neg more] at leaves
    cases leaves
    exact .complete more

/-- What the server has taken in before a round: the bytes written so far. -/
structure TakenBefore (plan : WritePlan) (stored : σ → UInt64 → Bytes → σ → Prop) (w : Link σ)
    (s : Nat × UInt32 × Link σ) (before : Bytes) : Prop where
  length : before.length = s.2.1.toNat
  takenIn : stored w.transport plan.offset before s.2.2.transport

theorem TakenBefore.more {s : Nat × UInt32 × Link σ} {before data : Bytes} {s' : σ}
    (accumulates : Accumulates stored) (taken : TakenBefore plan stored w s before)
    (takenIn : stored s.2.2.transport (plan.offset + s.2.1.toUInt64) data s') :
    stored w.transport plan.offset (before ++ data) s' := by
  refine accumulates.append taken.takenIn ?_
  rw [taken.length, UInt64.ofNat_uInt32ToNat]
  exact takenIn

theorem taken_before (takes : T.TakesWrites plan.fid stored) (accumulates : Accumulates stored)
    (w : Link σ) {n : Nat} {s : Nat × UInt32 × Link σ}
    (reached : (chunkLoop T msg plan).after n (0, 0, w) = some s) :
    ∃ before, TakenBefore plan stored w s before := by
  have preserved : ∀ s s', (∃ before, TakenBefore plan stored w s before) →
      (chunkLoop T msg plan).round s = .inr s' →
      (∃ before, TakenBefore plan stored w s' before) ∧ 0 ≤ 0 := by
    rintro ⟨round, totalWritten, w'⟩ s' ⟨before, taken⟩ goes
    obtain ⟨buf, goesOn⟩ := round_goesOn takes goes
    have total := goesOn.total
    have length := taken.length
    refine ⟨⟨before ++ buf, ?_, ?_⟩, Nat.le_refl 0⟩
    · rw [total, List.length_append, length]
    · rw [goesOn.state]
      exact taken.more accumulates goesOn.takenIn
  have start : TakenBefore plan stored w (0, 0, w) [] := ⟨rfl, accumulates.nothing _ _⟩
  exact (Loop.after_invariant preserved ⟨[], start⟩ reached).1

end Round

end Virtio9p
