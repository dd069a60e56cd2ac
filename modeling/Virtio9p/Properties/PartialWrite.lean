import Virtio9p.Properties.ChunkEnd

/-!
# Writes that end early

A write of which the server has acknowledged some bytes has to report them. The handler does
so exactly if no chunk fails behind an acknowledged byte and the acknowledged bytes fit an `int`.
-/
namespace Virtio9p

open NinePMessage

variable {σ : Type}

/-- `acked` counts the bytes that the server acknowledges. -/
def Counts (acked : σ → Nat) : σ → UInt64 → Bytes → σ → Prop :=
  fun s _ data s' => acked s' = acked s + data.length

/-- After `k` acknowledged bytes the handler reports `k` and moves the cursor of a sequential
write by `k`; an error means that there were none, and leaves the OCB alone. -/
structure Reported (msg : IoWrite) (ocb : ExtOcb) (k : Nat) (result : Reply × ExtOcb) : Prop where
  count : 0 < k → (∃ n : Int32, n.toInt = k ∧ result.1 = .nbytes n) ∧
    result.2.data = movedBy msg (UInt32.ofNat k) ocb.data
  error : ∀ e, result.1 = .errno e → k = 0 ∧ result.2 = ocb

/-- A chunk fails only before the first acknowledged byte, and what is acknowledged with this chunk
and before it is less than 2^31 bytes. -/
structure ChunkHarmless (T : Transport σ) (msg : IoWrite) (plan : WritePlan) (acked : σ → Nat)
    (start : σ) (round : Nat) (totalWritten : UInt32) (w : Link σ) : Prop where
  fails : (chunkOutcome T msg plan round totalWritten w).Fails → acked w.transport = acked start
  small : acked w.transport + (chunkOutcome T msg plan round totalWritten w).count <
    acked start + 2 ^ 31

/-- Every chunk that the loop sends is harmless. -/
def NothingLost (T : Transport σ) (msg : IoWrite) (plan : WritePlan) (acked : σ → Nat)
    (w : Link σ) : Prop :=
  EveryChunk T msg plan w (ChunkHarmless T msg plan acked w.transport)

theorem counts_accumulates (acked : σ → Nat) : Accumulates (Counts acked) where
  nothing _ _ := rfl
  append first second := by
    simp only [Counts, List.length_append] at first second ⊢
    omega

section Write

variable {T : Transport σ} {q : Qnx} {msg : IoWrite} {ocb : ExtOcb} {plan : WritePlan}
  {acked : σ → Nat} {w : Link σ}

/-- The total of the loop is what the server has acknowledged since. -/
private theorem acked_before (takes : T.TakesWrites plan.fid (Counts acked)) {n round : Nat}
    {totalWritten : UInt32} {w' : Link σ}
    (reached : (chunkLoop T msg plan).after n (0, 0, w) = some (round, totalWritten, w')) :
    acked w'.transport = acked w.transport + totalWritten.toNat := by
  obtain ⟨before, taken⟩ := taken_before takes (counts_accumulates acked) w reached
  have sum : acked w'.transport = acked w.transport + before.length := taken.takenIn
  have length : before.length = totalWritten.toNat := taken.length
  omega

/-- A round that goes on is harmless if the total behind it is small. -/
private theorem harmless_iff_of_goesOn {round : Nat} {totalWritten : UInt32} {w' : Link σ}
    {next : Nat × UInt32 × Link σ} {buf : Bytes} {start : σ}
    (goesOn : GoesOn T msg plan (Counts acked) round totalWritten w' next buf)
    (sum : acked w'.transport = acked start + totalWritten.toNat) :
    ChunkHarmless T msg plan acked start round totalWritten w' ↔ next.2.1.toNat < 2 ^ 31 := by
  rw [goesOn.total]
  constructor
  · intro harmless
    have small := harmless.small
    simp only [goesOn.outcome, ChunkOutcome.count] at small
    omega
  · intro few
    constructor
    · rw [goesOn.outcome]
      exact False.elim
    · simp only [goesOn.outcome, ChunkOutcome.count]
      omega

/-- All that counts is the round that ends the loop. -/
private theorem nothingLost_iff (takes : T.TakesWrites plan.fid (Counts acked)) {n round : Nat}
    {totalWritten : UInt32} {w' : Link σ} {out : Except Int32 UInt32 × Link σ}
    (reached : (chunkLoop T msg plan).after n (0, 0, w) = some (round, totalWritten, w'))
    (leaves : (chunkLoop T msg plan).round (round, totalWritten, w') = .inl out) :
    NothingLost T msg plan acked w ↔ totalWritten.toNat < 2 ^ 31 ∧
      (totalWritten < plan.nbytes →
        ChunkHarmless T msg plan acked w.transport round totalWritten w') := by
  constructor
  · intro every
    refine ⟨?_, every n round totalWritten w' reached⟩
    cases n with
    | zero =>
      cases reached
      decide
    | succ n =>
      -- the round before has led to this total
      obtain ⟨⟨round₀, totalWritten₀, w₀⟩, before, goes⟩ := Loop.after_succ reached
      obtain ⟨buf, goesOn⟩ := round_goesOn takes goes
      exact (harmless_iff_of_goesOn goesOn (acked_before takes before)).mp
        (every n round₀ totalWritten₀ w₀ before goesOn.more)
  · rintro ⟨small, last⟩ m round' totalWritten' w'' going more
    rcases Loop.goes_on reached leaves going with same | ⟨next, k, goes, later⟩
    · cases same
      exact last more
    · obtain ⟨buf, goesOn⟩ := round_goesOn takes goes
      have grows : next.2.1.toNat ≤ totalWritten.toNat := total_grows takes later
      exact (harmless_iff_of_goesOn goesOn (acked_before takes going)).mpr
        (Nat.lt_of_le_of_lt grows small)

/-- The `int` of a count stands for it exactly below 2^31. -/
private theorem toInt_toInt32_iff (n : UInt32) : n.toInt32.toInt = n.toNat ↔ n.toNat < 2 ^ 31 := by
  have sign := toInt32_neg_iff n.toNat_lt
  rw [UInt32.ofNat_toNat, Int32.lt_iff_toInt_lt] at sign
  constructor
  · intro same
    by_contra huge
    have negative : n.toInt32.toInt < 0 := sign.mpr (Nat.le_of_not_lt huge)
    omega
  · intro small
    have cast : n.toInt32 = Int32.ofNat n.toNat := by
      rw [← UInt32.toInt32_ofNat', UInt32.ofNat_toNat]
    rw [cast, Int32.toInt_ofNat_of_lt small]

private theorem reported_written_iff {n : UInt32} {k : Nat} (count : n.toNat = k)
    (offset : UInt64) :
    Reported msg ocb k (.nbytes n.toInt32, writtenOcb msg offset n ocb) ↔ k < 2 ^ 31 := by
  subst count
  constructor
  · intro reported
    by_cases some : 0 < n.toNat
    · obtain ⟨⟨m, same, reply⟩, -⟩ := reported.count some
      rw [← Reply.nbytes.inj reply] at same
      exact (toInt_toInt32_iff n).mp same
    · omega
  · intro small
    refine ⟨fun _ => ⟨⟨n.toInt32, (toInt_toInt32_iff n).mpr small, rfl⟩, ?_⟩, nofun⟩
    rw [UInt32.ofNat_toNat]
    unfold movedBy writtenOcb
    cases msg.xtype <;> rfl

private theorem reported_failed_iff {errno : Int32} {k : Nat} :
    Reported msg ocb k (.errno errno, ocb) ↔ k = 0 := by
  constructor
  · intro reported
    exact (reported.error errno rfl).1
  · intro none
    refine ⟨fun some => absurd none (Nat.ne_of_gt some), fun _ _ => ⟨none, rfl⟩⟩

/-- By the way in which the loop ends. -/
private theorem lastRound_reported_iff {round : Nat} {totalWritten : UInt32} {w' w'' : Link σ}
    {result : Except Int32 UInt32} {before : Bytes}
    (taken : TakenBefore plan (Counts acked) w (round, totalWritten, w') before)
    (last : LastRound T msg plan (Counts acked) round totalWritten w' (result, w'')) :
    Reported msg ocb (acked w''.transport - acked w.transport)
        (writeResult msg ocb plan.offset result) ↔
      totalWritten.toNat < 2 ^ 31 ∧ (totalWritten < plan.nbytes →
        ChunkHarmless T msg plan acked w.transport round totalWritten w') := by
  have sum : acked w'.transport = acked w.transport + before.length := taken.takenIn
  have length : before.length = totalWritten.toNat := taken.length
  cases last with
  | complete done =>
    have count : acked w'.transport - acked w.transport = totalWritten.toNat := by omega
    refine (reported_written_iff count.symm plan.offset).trans ?_
    rw [count]
    exact (and_iff_left fun more => absurd more done).symm
  | failed errno w'' more fails same =>
    have same : acked w''.transport = acked w'.transport := same
    -- nothing is acknowledged in a round that fails
    have none : (chunkOutcome T msg plan round totalWritten w').count = 0 := by
      cases outcome : chunkOutcome T msg plan round totalWritten w' with
      | acknowledged sent count =>
        rw [outcome] at fails
        exact fails.elim
      | _ => rfl
    refine reported_failed_iff.trans ⟨fun first => ?_, fun harmless => ?_⟩
    · exact ⟨by omega, fun _ => ⟨fun _ => by omega, by omega⟩⟩
    · have before := (harmless.2 more).fails fails
      omega
  | negative errno w'' sent data more outcome huge takenIn =>
    have takenIn : acked w''.transport = acked w'.transport + data.length := takenIn
    refine reported_failed_iff.trans (iff_of_false (by omega) fun harmless => ?_)
    have small := (harmless.2 more).small
    simp only [outcome, ChunkOutcome.count] at small
    omega
  | short w'' sent data more outcome part small within takenIn =>
    have takenIn : acked w''.transport = acked w'.transport + data.length := takenIn
    have count : (totalWritten + UInt32.ofNat data.length).toNat =
        acked w''.transport - acked w.transport := by
      rw [added_toNat within]
      omega
    refine (reported_written_iff count plan.offset).trans ?_
    rw [← count, added_toNat within]
    constructor
    · intro few
      refine ⟨by omega, fun _ => ?_⟩
      constructor
      · rw [outcome]
        exact False.elim
      · simp only [outcome, ChunkOutcome.count]
        omega
    · intro harmless
      have few := (harmless.2 more).small
      simp only [outcome, ChunkOutcome.count] at few
      omega

end Write

/-- A write that is not starved returns, and it reports what the server has acknowledged exactly
if nothing is lost. -/
theorem ioWrite_reports_iff {T : Transport σ} {q : Qnx} {msg : IoWrite} {ocb : ExtOcb}
    {plan : WritePlan} {acked : σ → Nat} (takes : T.TakesWrites plan.fid (Counts acked))
    (verified : msg.verify = eok) (nonempty : msg.nbytes ≠ 0)
    (planned : writePlan q msg ocb = .ok plan) (w : Link σ) (fed : ¬ Starves T msg plan w) :
    ∃ enough, ∀ fuel ≥ enough,
      let result := ioWrite T q fuel msg ocb w
      result.1.1 ≠ .stuck ∧
        (Reported msg ocb (acked result.2.transport - acked w.transport) result.1 ↔
          NothingLost T msg plan acked w) := by
  obtain ⟨enough, ⟨result, w'⟩, left⟩ := (chunkLoop_ends_iff planned takes w).mpr fed
  refine ⟨enough, fun fuel more => ?_⟩
  have ended : writeLoop T msg plan fuel 0 0 w = (some result, w') := by
    obtain ⟨k, rfl⟩ := Nat.le.dest more
    exact writeLoop_of_run (Loop.run_more left k)
  have whole : ioWrite T q fuel msg ocb w = (writeResult msg ocb plan.offset result, w') := by
    rw [ioWrite_planned verified nonempty planned, ended]
    cases result <;> rfl
  simp only [whole]
  refine ⟨by cases result <;> exact nofun, ?_⟩
  obtain ⟨n, ⟨round, totalWritten, last⟩, reached, leaves⟩ := Loop.run_some left
  obtain ⟨before, taken⟩ := taken_before takes (counts_accumulates acked) w reached
  rw [nothingLost_iff takes reached leaves]
  exact lastRound_reported_iff taken (round_leaves takes (counts_accumulates acked) leaves)

/-! ### A full disk -/

/-- A server whose disk holds a number of bytes: a Twrite that does not fit is refused with
`ENOSPC`. Its state is the number of bytes stored. -/
def fullDisk (size : Nat) : Transport Nat where
  exchange request used :=
    let tag := UInt16.ofNat (LittleEndian.decode ((request.drop 5).take 2))
    let count := (request.drop 23).length
    if used + count ≤ size then
      ((0, ((Response.rwrite (UInt32.ofNat count)).encode tag).data), used + count)
    else ((0, ((Response.rlerror 28).encode tag).data), used)

theorem fullDisk_takes (size : Nat) (fid : UInt32) :
    (fullDisk size).TakesWrites fid (Counts id) := by
  intro used tag offset data bound
  have tagField : UInt16.ofNat (LittleEndian.decode (((buildTwrite tag fid offset data
      (UInt32.ofNat data.length)).data.drop 5).take 2)) = tag :=
    (Request.twrite fid offset data).tag_build tag
  have dataField := buildTwrite_drop tag fid offset bound
  by_cases fits : used + data.length ≤ size
  · refine ⟨used + data.length, .inl ⟨data.length, Nat.le_refl _, ?_, ?_⟩⟩
    · simp only [fullDisk, dataField, tagField, if_pos fits]
    · rw [List.take_length]
      rfl
  · refine ⟨used, .inr ⟨28, by decide, ?_, rfl⟩⟩
    simp only [fullDisk, dataField, tagField, if_neg fits]

/-- An open file that is written byte by byte. -/
def bytewiseOcb : ExtOcb := ⟨0, 0o100644, 0, ⟨1, 0, 1, false, 0⟩⟩

def emptyDisk : Link Nat := ⟨NinePSession.new, 0, []⟩

theorem nothing_bounded {n : Nat} {bytes : Bytes}
    (read : (.ok [] : Except Int32 Bytes) = .ok bytes) : bytes.length ≤ n := by
  cases read
  exact Nat.zero_le n

/-- A write of two bytes that are in the receive buffer. -/
def twoBytes : IoWrite where
  nbytes := 2
  xtype := .none
  memory i := UInt8.ofNat i
  ctpOffset := 0
  msglen := 18
  verify := eok
  msgread _ _ _ := .ok []
  bounded _ _ _ _ read := nothing_bounded read

def bytewisePlan : WritePlan := planAt twoBytes bytewiseOcb 0 16

private theorem twoBytes_fed (size : Nat) :
    ¬ Starves (fullDisk size) twoBytes bytewisePlan emptyDisk := by
  rintro ⟨n, round, totalWritten, w', -, starved⟩
  -- all of it is inline
  exact absurd starved.more (UInt32.not_lt.mpr starved.behind)

theorem ioWrite_reports_iff_fits :
    ∃ enough, ∀ fuel ≥ enough,
      let result := ioWrite (fullDisk 2) Qnx.headers fuel twoBytes bytewiseOcb emptyDisk
      result.1.1 ≠ .stuck ∧
        (Reported twoBytes bytewiseOcb (id result.2.transport - id emptyDisk.transport) result.1 ↔
          NothingLost (fullDisk 2) twoBytes bytewisePlan id emptyDisk) :=
  ioWrite_reports_iff (fullDisk_takes 2 bytewisePlan.fid) rfl (by decide)
    (show writePlan Qnx.headers twoBytes bytewiseOcb = .ok bytewisePlan from rfl) emptyDisk
    (twoBytes_fed 2)

/-- The first byte is acknowledged and the second one refused: the handler returns `ENOSPC`, and
the cursor stays. -/
theorem full_disk_hides_count :
    (fullDisk 1).TakesWrites bytewiseOcb.data.fid (Counts id) ∧
      ¬ Reported twoBytes bytewiseOcb
        (ioWrite (fullDisk 1) Qnx.headers 2 twoBytes bytewiseOcb emptyDisk).2.transport
        (ioWrite (fullDisk 1) Qnx.headers 2 twoBytes bytewiseOcb emptyDisk).1 := by
  refine ⟨fullDisk_takes 1 _, fun reported => ?_⟩
  have failed : (ioWrite (fullDisk 1) Qnx.headers 2 twoBytes bytewiseOcb emptyDisk).1.1 =
      .errno 28 := by decide +kernel
  have stored : (ioWrite (fullDisk 1) Qnx.headers 2 twoBytes bytewiseOcb emptyDisk).2.transport =
      1 := by decide +kernel
  have none := (reported.error 28 failed).1
  omega

end Virtio9p
