import Virtio9p.Properties.WritePayload

/-!
# The size of an open file

The handlers keep the size of an open file in the attributes of its OCB, where lseek looks for
the end of the file. It stays the size on the server exactly in the runs whose reads transfer
nothing or the whole file, and whose writes neither fail after the file has grown nor are
acknowledged with nothing behind its end.
-/
namespace Virtio9p

open NinePMessage

variable {σ : Type}

/-- A Twrite stores what it acknowledges. -/
def Stores (contents : σ → Bytes) : σ → UInt64 → Bytes → σ → Prop :=
  fun s offset data s' => contents s' = writeAt (contents s) offset data

/-- A server on which `fid` stands for a file that only this fid writes. A read gives bytes of
the file or an error, a write stores a first part of the data or gives an error; a file never
grows beyond a signed offset. -/
structure Transport.KeepsFile (T : Transport σ) (fid : UInt32) (contents : σ → Bytes) : Prop where
  bounded : ∀ s, (contents s).length < 2 ^ 63
  write : T.TakesWrites fid (Stores contents)
  read : ∀ s tag offset count, ∃ s', contents s' = contents s ∧
    ((∃ data, data <+: readAt (contents s) offset count.toNat ∧ 11 + data.length < 2 ^ 32 ∧
      T.exchange (buildTread tag fid offset count).data s =
        ((0, ((Response.rread data).encode tag).data), s')) ∨
    ∃ ecode : UInt32, ecode.toNat ≤ 2 ^ 31 ∧
      T.exchange (buildTread tag fid offset count).data s =
        ((0, ((Response.rlerror ecode).encode tag).data), s'))

/-! ### Requests -/

inductive FileCall where
  | read (msg : IoRead)
  | write (msg : IoWrite) (fuel : Nat)

/-- `IoRead` and `IoWrite` on one OCB. -/
def fileCalls (T : Transport σ) (q : Qnx) : Machine FileCall Reply (ExtOcb × Link σ) where
  step
    | .read msg, (ocb, w) =>
      let result := ioRead T q msg ocb w
      (result.1.1, result.1.2, result.2)
    | .write msg fuel, (ocb, w) =>
      let result := ioWrite T q fuel msg ocb w
      (result.1.1, result.1.2, result.2)

/-- The handler returns. -/
def Returns (T : Transport σ) (q : Qnx) (call : FileCall) (d : ExtOcb × Link σ) : Prop :=
  ((fileCalls T q).step call d).1 ≠ .stuck

/-- The size in the attributes is that of the file. -/
def SizeRight (contents : σ → Bytes) (d : ExtOcb × Link σ) : Prop :=
  d.1.attrNbytes.toInt = (contents d.2.transport).length

/-- The response to the Tread of a read. -/
def readResponseBytes (T : Transport σ) (msg : IoRead) (ocb : ExtOcb) (w : Link σ) : Bytes :=
  (T.exchange (buildTread w.session.nextTag ocb.data.fid ocb.data.offset msg.nbytes).data
    w.transport).1.2

/-- If data comes back it is none, the whole file or more than `Read` can report. -/
def ReadsWhole (T : Transport σ) (contents : σ → Bytes) (msg : IoRead) (ocb : ExtOcb)
    (w : Link σ) : Prop :=
  let response := readResponseBytes T msg ocb w
  typeByte response = MessageType.rread.code → response.drop 11 = [] ∨
    (response.drop 11).length = (contents w.transport).length ∨
    2 ^ 31 ≤ (response.drop 11).length

/-- What a chunk must not do to a file that had its size in `start`. -/
structure ChunkKeepsSize (T : Transport σ) (msg : IoWrite) (plan : WritePlan)
    (contents : σ → Bytes) (start : σ) (round : Nat) (totalWritten : UInt32) (w : Link σ) :
    Prop where
  /-- It does not fail after the file has grown. -/
  fails : (chunkOutcome T msg plan round totalWritten w).Fails →
    (contents w.transport).length = (contents start).length
  /-- It does not grow the file with an acknowledgement that is a negative 32-bit value. -/
  negative : ∀ sent count, chunkOutcome T msg plan round totalWritten w = .acknowledged sent count →
    2 ^ 31 ≤ count → plan.offset.toNat + (totalWritten.toNat + count) ≤ (contents start).length
  /-- It is not the first one, beyond the end of the file, and not taken in at all. -/
  nothing : ∀ sent, chunkOutcome T msg plan round totalWritten w = .acknowledged sent 0 →
    0 < sent → totalWritten = 0 → plan.offset.toInt64.toInt ≤ (contents start).length

/-- The condition on a request. -/
def KeepsSize (T : Transport σ) (q : Qnx) (contents : σ → Bytes) :
    FileCall → ExtOcb × Link σ → Prop
  | .read msg, (ocb, w) => msg.verify = eok → ReadsWhole T contents msg ocb w
  | .write msg _, (ocb, w) => msg.verify = eok → ∀ plan, writePlan q msg ocb = .ok plan →
    EveryChunk T msg plan w (ChunkKeepsSize T msg plan contents w.transport)

theorem stores_accumulates (contents : σ → Bytes) : Accumulates (Stores contents) where
  nothing _ _ := rfl
  append first second := by
    unfold Stores at first second ⊢
    rw [second, first, writeAt_append]

/-! ### Reads -/

section Read

variable {T : Transport σ} {q : Qnx} {contents : σ → Bytes} {ocb : ExtOcb} {msg : IoRead}
  {w : Link σ}

private theorem drop_rread {data : Bytes} (small : data.length < 2 ^ 32) (tag : UInt16) :
    ((Response.rread data).encode tag).data.drop 11 = data := by
  have count : (UInt32.ofNat data.length).toNat = data.length := by
    rw [UInt32.toNat_ofNat']
    omega
  rw [Response.encode_data, Response.payload, count, List.take_length, ← List.append_assoc]
  exact List.drop_left' (by simp)

/-- What `Read` returns for `2 ^ 31` bytes or more is a negative number. -/
private theorem ofNat_neg_iff {n : Nat} (small : n < 2 ^ 32) :
    Int32.ofNat n < 0 ↔ 2 ^ 31 ≤ n := by
  rw [← UInt32.toInt32_ofNat', toInt32_neg_iff small]

/-- A read leaves the size right exactly if it reads nothing or the whole file: the size of what
was read takes the place of the size of the file. -/
private theorem ioRead_size_iff (keeps : T.KeepsFile ocb.data.fid contents)
    (file : ocb.data.isDirectory = false) (verified : msg.verify = eok)
    (size : SizeRight contents (ocb, w)) :
    let result := ioRead T q msg ocb w
    SizeRight contents (result.1.2, result.2) ↔ ReadsWhole T contents msg ocb w := by
  intro result
  unfold SizeRight at size
  obtain ⟨s', same, answer⟩ :=
    keeps.read w.transport w.session.nextTag ocb.data.offset msg.nbytes
  let w' := w.callOnce T fun tag => buildTread tag ocb.data.fid ocb.data.offset msg.nbytes
  have after (answer) (exchange : T.exchange (buildTread w.session.nextTag ocb.data.fid
      ocb.data.offset msg.nbytes).data w.transport = (answer, s')) :
      contents w'.transport = contents w.transport := by
    change contents (T.exchange _ w.transport).2 = _
    rw [exchange]
    exact same
  rcases answer with ⟨data, ordered, small, exchange⟩ | ⟨ecode, errno, exchange⟩
  · -- an answer with data: the reply depends on their length
    have bound : data.length < 2 ^ 32 := by omega
    have reads : ReadsWhole T contents msg ocb w ↔ data = [] ∨
        data.length = (contents w.transport).length ∨ 2 ^ 31 ≤ data.length := by
      simp only [ReadsWhole, readResponseBytes, exchange, typeByte_encode, drop_rread bound,
        Response.type, forall_true_left]
    have run := read_answered small ⟨s', exchange⟩
    have whole : result = if 2 ^ 31 ≤ data.length then
        ((.errno (-Int32.ofNat data.length), ocb), w') else if data = [] then ((.nbytes 0, ocb), w')
        else ((.data data,
          { ocb with
            data := { ocb.data with offset := ocb.data.offset + UInt64.ofNat data.length }
            attrNbytes := Int64.ofNat data.length }), w') := by
      simp only [result, ioRead, if_neg (not_not_intro verified), file, Bool.false_eq_true,
        if_false, run, ofNat_neg_iff bound]
      rfl
    rw [reads, whole, SizeRight]
    by_cases huge : 2 ^ 31 ≤ data.length
    · rw [if_pos huge, after _ exchange]
      exact iff_of_true size (.inr (.inr huge))
    · rw [if_neg huge]
      by_cases eof : data = []
      · rw [if_pos eof, after _ exchange]
        exact iff_of_true size (.inl eof)
      · rw [if_neg eof, after _ exchange, Int64.toInt_ofNat_of_lt (by omega)]
        constructor
        · intro equal
          exact .inr (.inl (by omega))
        · rintro (none | equal | above)
          · exact absurd none eof
          · rw [equal]
          · exact absurd above huge
  · -- an Rlerror leaves the size as it is
    have reads : ReadsWhole T contents msg ocb w := by
      simp only [ReadsWhole, readResponseBytes, exchange, typeByte_encode]
      intro type
      cases MessageType.code_injective type
    have refused : w.Answers T (fun tag => buildTread tag ocb.data.fid ocb.data.offset msg.nbytes)
        (.rlerror ecode) := ⟨s', exchange⟩
    have run := read_refused refused
    have whole : result = ((.errno (-refusal ecode), ocb), w') := by
      simp only [result, ioRead, if_neg (not_not_intro verified), file, Bool.false_eq_true,
        if_false, run, if_pos (refusal_neg errno)]
      rfl
    rw [whole, SizeRight, after _ exchange]
    exact iff_of_true size reads

end Read

/-! ### Writes -/

section Write

variable {T : Transport σ} {q : Qnx} {contents : σ → Bytes} {ocb : ExtOcb} {msg : IoWrite}
  {plan : WritePlan} {w : Link σ}

/-- After a write the size is the end of the write or what it was, so it is right unless nothing
was written beyond the end. -/
private theorem writtenOcb_size_iff {file all : Bytes} {n : UInt32} (length : n.toNat = all.length)
    (size : ocb.attrNbytes.toInt = file.length) {offset : UInt64}
    (small : (writeAt file offset all).length < 2 ^ 63) :
    (writtenOcb msg offset n ocb).attrNbytes.toInt = (writeAt file offset all).length ↔
      (all = [] → offset.toInt64.toInt ≤ file.length) := by
  simp only [writtenOcb, gt_iff_lt, Int64.lt_iff_toInt_lt, size]
  by_cases none : all = []
  · have zero : n = 0 := UInt32.toNat_inj.mp (by rw [length, none]; rfl)
    have here : offset + (0 : UInt32).toUInt64 = offset := UInt64.add_zero offset
    rw [none, zero, here, writeAt, imp_iff_right rfl]
    split <;> omega
  · have grown := writeAt_length none small
    have kept := length_le_writeAt file offset all
    have endNat : (offset + n.toUInt64).toNat = offset.toNat + all.length := by
      rw [UInt64.toNat_add, UInt32.toNat_toUInt64, length]
      omega
    have endInt : (offset + n.toUInt64).toInt64.toInt = (offset.toNat + all.length : Nat) := by
      rw [← UInt64.ofNat_toNat (x := offset + n.toUInt64), UInt64.toInt64_ofNat', endNat]
      exact Int64.toInt_ofNat_of_lt (by omega)
    rw [endInt]
    refine iff_of_true ?_ fun empty => absurd empty none
    split <;> omega

private theorem chunkKeepsSize_failed {round : Nat} {totalWritten : UInt32} {w' : Link σ}
    (fails : (chunkOutcome T msg plan round totalWritten w').Fails) (start : σ) :
    ChunkKeepsSize T msg plan contents start round totalWritten w' ↔
      (contents w'.transport).length = (contents start).length := by
  constructor
  · intro keeps
    exact keeps.fails fails
  · intro kept
    constructor
    · intro _
      exact kept
    · intro sent count outcome
      rw [outcome] at fails
      exact fails.elim
    · intro sent outcome
      rw [outcome] at fails
      exact fails.elim

private theorem chunkKeepsSize_acknowledged {round : Nat} {totalWritten : UInt32} {w' : Link σ}
    {sent count : Nat}
    (outcome : chunkOutcome T msg plan round totalWritten w' = .acknowledged sent count)
    (start : σ) :
    ChunkKeepsSize T msg plan contents start round totalWritten w' ↔
      (2 ^ 31 ≤ count → plan.offset.toNat + (totalWritten.toNat + count) ≤
        (contents start).length) ∧
      (count = 0 → 0 < sent → totalWritten = 0 →
        plan.offset.toInt64.toInt ≤ (contents start).length) := by
  constructor
  · intro keeps
    refine ⟨keeps.negative sent count outcome, ?_⟩
    rintro rfl
    exact keeps.nothing sent outcome
  · rintro ⟨negative, nothing⟩
    constructor
    · rw [outcome]
      exact False.elim
    · intro sent' count' is
      rw [outcome] at is
      cases is
      exact negative
    · intro sent' is
      rw [outcome] at is
      injection is with same none
      rw [← same]
      exact nothing none

/-- A round that goes on keeps the size. -/
private theorem keepsSize_of_goesOn {round : Nat} {totalWritten : UInt32} {w' : Link σ}
    {next : Nat × UInt32 × Link σ} {buf : Bytes}
    (goesOn : GoesOn T msg plan (Stores contents) round totalWritten w' next buf) (start : σ) :
    ChunkKeepsSize T msg plan contents start round totalWritten w' := by
  have small := goesOn.small
  rw [chunkKeepsSize_acknowledged goesOn.outcome]
  constructor
  · intro huge
    omega
  · intro none some
    omega

/-- By the way in which the loop ends. -/
private theorem lastRound_size_iff (keeps : T.KeepsFile plan.fid contents)
    (size : SizeRight contents (ocb, w)) (nonempty : msg.nbytes ≠ 0)
    (same : plan.nbytes = msg.nbytes)
    {round : Nat} {totalWritten : UInt32} {w' w'' : Link σ} {result : Except Int32 UInt32}
    {before : Bytes}
    (taken : TakenBefore plan (Stores contents) w (round, totalWritten, w') before)
    (last : LastRound T msg plan (Stores contents) round totalWritten w' (result, w'')) :
    SizeRight contents ((writeResult msg ocb plan.offset result).2, w'') ↔
      (totalWritten < plan.nbytes →
        ChunkKeepsSize T msg plan contents w.transport round totalWritten w') := by
  have length : before.length = totalWritten.toNat := taken.length
  have stored : contents w'.transport = writeAt (contents w.transport) plan.offset before :=
    taken.takenIn
  have size : ocb.attrNbytes.toInt = (contents w.transport).length := size
  have bounded := keeps.bounded w''.transport
  cases last with
  | complete done =>
    -- something was written
    have some : before ≠ [] := by
      rintro rfl
      have zero : totalWritten = 0 := UInt32.toNat_inj.mp length.symm
      rw [zero, same, UInt32.not_lt] at done
      exact nonempty (UInt32.le_zero_iff.mp done)
    refine iff_of_true ?_ fun more => absurd more done
    unfold SizeRight
    rw [stored] at bounded ⊢
    exact (writtenOcb_size_iff length.symm size bounded).mpr fun none => absurd none some
  | failed errno w'' more fails unchanged =>
    have unchanged : contents w''.transport = contents w'.transport := unchanged
    have right : SizeRight contents (ocb, w'') ↔
        (contents w'.transport).length = (contents w.transport).length := by
      change ocb.attrNbytes.toInt = (contents w''.transport).length ↔ _
      rw [unchanged]
      omega
    rw [writeResult, right, chunkKeepsSize_failed fails, imp_iff_right more]
  | negative errno w'' sent data more outcome huge takenIn =>
    have all : contents w''.transport = writeAt (contents w.transport) plan.offset
      (before ++ data) :=
      taken.more (stores_accumulates contents) takenIn
    have some : before ++ data ≠ [] := by
      intro none
      have zero := congrArg List.length none
      rw [List.length_append, List.length_nil] at zero
      omega
    rw [all] at bounded
    have grown := writeAt_length some bounded
    rw [List.length_append, length] at grown
    have right : SizeRight contents (ocb, w'') ↔
        plan.offset.toNat + (totalWritten.toNat + data.length) ≤ (contents w.transport).length := by
      change ocb.attrNbytes.toInt = (contents w''.transport).length ↔ _
      rw [all]
      omega
    have other : ¬ data.length = 0 := by omega
    rw [writeResult, right, chunkKeepsSize_acknowledged outcome, imp_iff_right more,
      imp_iff_right huge, and_iff_left fun none => absurd none other]
  | short w'' sent data more outcome part small within takenIn =>
    have all : contents w''.transport = writeAt (contents w.transport) plan.offset
      (before ++ data) :=
      taken.more (stores_accumulates contents) takenIn
    have total : (totalWritten + UInt32.ofNat data.length).toNat = (before ++ data).length := by
      rw [added_toNat within, List.length_append, length]
    have right : SizeRight contents
        (writtenOcb msg plan.offset (totalWritten + UInt32.ofNat data.length) ocb, w'') ↔
        (before ++ data = [] → plan.offset.toInt64.toInt ≤ (contents w.transport).length) := by
      unfold SizeRight
      rw [all] at bounded ⊢
      exact writtenOcb_size_iff total size bounded
    have none : before ++ data = [] ↔ totalWritten = 0 ∧ data.length = 0 := by
      rw [List.append_eq_nil_iff, ← List.length_eq_zero_iff, length, List.length_eq_zero_iff,
        ← UInt32.toNat_inj]
      rfl
    have notHuge : ¬ 2 ^ 31 ≤ data.length := by omega
    rw [writeResult, right, chunkKeepsSize_acknowledged outcome, imp_iff_right more,
      and_iff_right fun huge => absurd huge notHuge, none]
    constructor
    · intro keeps count _ first
      exact keeps ⟨first, count⟩
    · rintro keeps ⟨first, count⟩
      exact keeps count (by omega) first

/-- A write that returns leaves the size right exactly if every chunk keeps it. -/
private theorem ioWrite_size_iff (keeps : T.KeepsFile ocb.data.fid contents)
    (size : SizeRight contents (ocb, w)) (verified : msg.verify = eok) (fuel : Nat)
    (returns : (ioWrite T q fuel msg ocb w).1.1 ≠ .stuck) :
    let result := ioWrite T q fuel msg ocb w
    SizeRight contents (result.1.2, result.2) ↔ ∀ plan, writePlan q msg ocb = .ok plan →
      EveryChunk T msg plan w (ChunkKeepsSize T msg plan contents w.transport) := by
  by_cases empty : msg.nbytes = 0
  · -- no chunk is sent
    rw [ioWrite, if_neg (not_not_intro verified), if_pos empty]
    refine iff_of_true size fun plan planned n round totalWritten w' _ more => ?_
    rw [(writePlan_same planned).2.1, empty] at more
    exact absurd more UInt32.not_lt_zero
  · cases planned : writePlan q msg ocb with
    | error errno =>
      rw [ioWrite, if_neg (not_not_intro verified), if_neg empty, planned]
      exact iff_of_true size fun plan granted => by cases granted
    | ok plan =>
      obtain ⟨fid, same, -⟩ := writePlan_same planned
      rw [← fid] at keeps
      have loop := ioWrite_planned (T := T) verified empty planned fuel w
      rcases run : writeLoop T msg plan fuel 0 0 w with ⟨ended, w'⟩
      cases ended with
      | none =>
        rw [loop, run] at returns
        exact absurd rfl returns
      | some result =>
        have whole : ioWrite T q fuel msg ocb w = (writeResult msg ocb plan.offset result, w') := by
          rw [loop, run]
          cases result <;> rfl
        obtain ⟨n, ⟨round, totalWritten, last⟩, reached, leaves⟩ :=
          Loop.run_some (run_of_writeLoop run)
        obtain ⟨before, taken⟩ :=
          taken_before keeps.write (stores_accumulates contents) w reached
        have ends := lastRound_size_iff keeps size empty same taken
          (round_leaves keeps.write (stores_accumulates contents) leaves)
        rw [whole]
        change SizeRight contents ((writeResult msg ocb plan.offset result).2, w') ↔ _
        rw [ends, ← everyChunk_iff keeps.write
          (fun goesOn => keepsSize_of_goesOn goesOn w.transport) reached leaves]
        constructor
        · intro every plan' granted
          cases granted
          exact every
        · intro every
          exact every plan rfl

end Write

/-! ### Runs -/

/-- An OCB of a regular file, with its size in the attributes. -/
structure OpenRegular (T : Transport σ) (contents : σ → Bytes) (d : ExtOcb × Link σ) : Prop where
  regular : d.1.data.isDirectory = false
  keeps : T.KeepsFile d.1.data.fid contents
  size : SizeRight contents d

section Runs

variable {T : Transport σ} {q : Qnx} {contents : σ → Bytes}

private theorem sizeRight_step_iff (call : FileCall) (d : ExtOcb × Link σ)
    (opened : OpenRegular T contents d) (returns : Returns T q call d) :
    SizeRight contents ((fileCalls T q).step call d).2 ↔ KeepsSize T q contents call d := by
  obtain ⟨ocb, w⟩ := d
  cases call with
  | read msg =>
    by_cases verified : msg.verify = eok
    · exact (ioRead_size_iff opened.keeps opened.regular verified opened.size).trans
        (imp_iff_right verified).symm
    · -- a read that is not permitted does nothing
      have refused : ioRead T q msg ocb w = ((.errno msg.verify, ocb), w) := by
        rw [ioRead, if_pos verified]
      simp only [fileCalls, refused]
      exact iff_of_true opened.size fun permitted => absurd permitted verified
  | write msg fuel =>
    by_cases verified : msg.verify = eok
    · exact (ioWrite_size_iff opened.keeps opened.size verified fuel returns).trans
        (imp_iff_right verified).symm
    · have refused : ioWrite T q fuel msg ocb w = ((.errno msg.verify, ocb), w) := by
        rw [ioWrite, if_pos verified]
      simp only [fileCalls, refused]
      exact iff_of_true opened.size fun permitted => absurd permitted verified

private theorem openRegular_step (call : FileCall) (d : ExtOcb × Link σ)
    (opened : OpenRegular T contents d)
    (size : SizeRight contents ((fileCalls T q).step call d).2) :
    OpenRegular T contents ((fileCalls T q).step call d).2 := by
  obtain ⟨ocb, w⟩ := d
  have same : ((fileCalls T q).step call (ocb, w)).2.1.data.isDirectory = ocb.data.isDirectory ∧
      ((fileCalls T q).step call (ocb, w)).2.1.data.fid = ocb.data.fid := by
    cases call with
    | read msg => exact ioRead_same T q msg ocb w
    | write msg fuel => exact ioWrite_same T q fuel msg ocb w
  exact ⟨same.1.trans opened.regular, by rw [same.2]; exact opened.keeps, size⟩

/-- `ConnectOpen` of a file that is there takes its size from the Rgetattr. -/
theorem connectOpen_sizeRight {openDefault : UInt32 → UInt32 → Int32} {msg : IoConnect}
    {w w₁ w₂ w₃ : Link σ} {fid iounit : UInt32} {stat : NinePStat} {ocb : ExtOcb}
    (walked : walk T (openPath msg) w = (.ok fid, w₁))
    (opened : openFid T fid (translateQnxToLinuxFlags q msg.ioflag) w₁ = (.ok iounit, w₂))
    (stated : getAttr T fid w₂ = (.ok stat, w₃)) (keeps : T.KeepsFile fid contents)
    (size : stat.size.toNat = (contents w₃.transport).length)
    (done : (connectOpen T q openDefault msg w).1 = (eok, some ocb)) :
    SizeRight contents (ocb, (connectOpen T q openDefault msg w).2) := by
  have bounded := keeps.bounded w₃.transport
  have attributes : stat.size.toInt64.toInt = (contents w₃.transport).length := by
    rw [← UInt64.ofNat_toNat (x := stat.size), UInt64.toInt64_ofNat', size,
      Int64.toInt_ofNat_of_lt bounded]
  simp only [connectOpen, walked, opened, stated, openOcb] at done ⊢
  by_cases failed :
      openDefault stat.mode (msg.ioflag &&& ~~~(q.oCreat ||| q.oExcl ||| q.oTrunc)) = eok
  · simp only [failed, ne_eq, not_true_eq_false, if_false] at done ⊢
    cases done
    exact attributes
  · simp only [ne_eq, failed, not_false_eq_true, if_true] at done
    exact absurd (congrArg Prod.fst done) failed

end Runs

/-- In every run of reads and writes that return, the attributes show the size of the file after
each request exactly if every request keeps it. -/
theorem size_right_iff {T : Transport σ} {q : Qnx} {contents : σ → Bytes} {ocb : ExtOcb}
    {w : Link σ} (opened : OpenRegular T contents (ocb, w)) (calls : List FileCall)
    (returns : (fileCalls T q).Meets (Returns T q) calls (ocb, w)) :
    (fileCalls T q).Meets (fun call d => SizeRight contents ((fileCalls T q).step call d).2) calls
        (ocb, w) ↔
      (fileCalls T q).Meets (KeepsSize T q contents) calls (ocb, w) :=
  returns.congr (fun call d opened returns => sizeRight_step_iff call d opened returns)
    (fun call d opened _ size => openRegular_step call d opened size) opened

/-! ### A file on a small disk -/

/-- A file server whose file may have a number of bytes. -/
def smallDisk (size : Nat) : Transport {file : Bytes // file.length ≤ size} where
  exchange request file :=
    let served := fileServer.exchange request file
    if fits : served.2.length ≤ size then (served.1, ⟨served.2, fits⟩)
    else
      let tag := UInt16.ofNat (LittleEndian.decode ((request.drop 5).take 2))
      ((0, ((Response.rlerror 28).encode tag).data), file)

theorem smallDisk_keeps {size : Nat} (small : 11 + size < 2 ^ 32) (fid : UInt32) :
    (smallDisk size).KeepsFile fid Subtype.val where
  bounded file := by
    have fits := file.property
    omega
  write file tag offset data bound := by
    obtain ⟨file', exchange, written⟩ := (fileServer_serves fid).write file tag offset data bound
    by_cases fits : file'.length ≤ size
    · refine ⟨⟨file', fits⟩, .inl ⟨data.length, Nat.le_refl _, ?_, ?_⟩⟩
      · simp only [smallDisk, exchange, dif_pos fits]
      · rw [List.take_length]
        exact written
    · refine ⟨file, .inr ⟨28, by decide, ?_, rfl⟩⟩
      have tagField : UInt16.ofNat (LittleEndian.decode (((buildTwrite tag fid offset data
          (UInt32.ofNat data.length)).data.drop 5).take 2)) = tag :=
        (Request.twrite fid offset data).tag_build tag
      simp only [smallDisk, exchange, dif_neg fits, tagField]
  read file tag offset count := by
    obtain ⟨file', exchange, same⟩ := (fileServer_serves fid).read file tag offset count
    have same : file' = file := same
    subst same
    have short : (readAt file offset count.toNat).length ≤ file.val.length := by
      rw [readAt, List.length_take, List.length_drop]
      omega
    have fits := file.property
    refine ⟨file, rfl, .inl ⟨_, List.prefix_refl _, by omega, ?_⟩⟩
    simp only [smallDisk, exchange, dif_pos fits]
    rfl

def threeByteFile : ExtOcb × Link {file : Bytes // file.length ≤ 16} :=
  (⟨0, 0o100644, 3, ⟨1, 0, 0, false, 0⟩⟩, ⟨NinePSession.new, ⟨[10, 20, 30], by decide⟩, []⟩)

private theorem threeByteFile_opened : OpenRegular (smallDisk 16) Subtype.val threeByteFile :=
  ⟨rfl, smallDisk_keeps (by decide) 1, by unfold SizeRight; decide⟩

/-- Read all of the file, and write a byte behind it. -/
def readAndAppend : List FileCall := [.read ⟨3, .none, eok⟩, .write (combineWrite 0 1) 1]

theorem size_right_iff_appended :
    (fileCalls (smallDisk 16) Qnx.headers).Meets
        (fun call d => SizeRight Subtype.val ((fileCalls (smallDisk 16) Qnx.headers).step call d).2)
        readAndAppend threeByteFile ↔
      (fileCalls (smallDisk 16) Qnx.headers).Meets
        (KeepsSize (smallDisk 16) Qnx.headers Subtype.val) readAndAppend threeByteFile :=
  size_right_iff threeByteFile_opened readAndAppend
    ⟨by unfold Returns; decide +kernel, by unfold Returns; decide +kernel, trivial⟩

/-- After a read of one byte the attributes say that the file has one byte. -/
theorem short_read_shrinks_size :
    OpenRegular (smallDisk 16) Subtype.val threeByteFile ∧
      ¬ (fileCalls (smallDisk 16) Qnx.headers).Meets
        (fun call d => SizeRight Subtype.val ((fileCalls (smallDisk 16) Qnx.headers).step call d).2)
        [.read ⟨1, .none, eok⟩] threeByteFile := by
  refine ⟨threeByteFile_opened, ?_⟩
  rintro ⟨right, -⟩
  unfold SizeRight at right
  exact absurd right (by decide +kernel)

end Virtio9p
