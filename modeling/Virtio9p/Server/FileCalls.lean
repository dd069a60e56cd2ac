import Virtio9p.Server.ConnectCalls

/-!
# I/O handlers on a file service

Reads, writes and queries of attributes on an open file: the reply, the cursor and the host's
files are the same on both sides.
-/
namespace Virtio9p

open NinePMessage Attempt

variable {σ ν φ : Type}

/-- The two sides of a use of an open file. -/
structure UsedAlike (view : σ → ServiceState ν φ) (root : ν) (spare : Nat)
    (held : List (UInt32 × ν))
    (fid : UInt32) (object : ν) (x : (Reply × ExtOcb) × Link σ) (y : (Reply × OpenFile ν) × φ) :
    Prop where
  reply : x.1.1 = y.1.1
  stands : Stands x.1.2.data y.1.2
  fid : x.1.2.data.fid = fid
  object : y.1.2.object = object
  tracks : Tracks view root spare held x.2 y.2

open FileService

/-- What the chunk loop returns: nothing if `fuel` did not suffice. -/
def loopResult : Except Int32 (Option UInt32) → Option (Except Int32 UInt32)
  | .error errno => some (.error errno)
  | .ok none => none
  | .ok (some total) => some (.ok total)

section Handlers

variable {T : Transport σ} {f : FileService ν φ} {view : σ → ServiceState ν φ}
  (provides : T.Provides f view) {root : ν} {spare : Nat} {held : List (UInt32 × ν)} {q : Qnx}
  {ocb : ExtOcb} {file : OpenFile ν} (stands : Stands ocb.data file)
  (member : (ocb.data.fid, file.object) ∈ held) {w : Link σ} {s : φ}
  (tracks : Tracks view root spare held w s)

include stands in
/-- The plans of a write differ in the fid only. -/
theorem writePlan_stands (msg : IoWrite) :
    writePlan q msg ocb =
      (writePlan q msg file.ocb).map fun plan => { plan with fid := ocb.data.fid } := by
  have size : chunkSize ocb = chunkSize file.ocb := by
    simp only [chunkSize, stands.iounit]
    rfl
  have offset : ocb.data.offset = file.ocb.data.offset := stands.offset
  unfold writePlan
  cases msg.xtype <;> simp only [planAt, Except.map, size, offset]

omit stands in
theorem written_fid (msg : IoWrite) (offset : UInt64) (total : UInt32) (ocb : ExtOcb) :
    (writtenOcb msg offset total ocb).data.fid = ocb.data.fid := by
  simp only [writtenOcb]
  cases msg.xtype <;> rfl

include stands in
theorem written_stands (msg : IoWrite) (offset : UInt64) (total : UInt32) :
    Stands (writtenOcb msg offset total ocb).data (file.advanced msg.xtype total) := by
  obtain ⟨cursor, iounit, isDirectory, small⟩ := stands
  simp only [writtenOcb, OpenFile.advanced]
  cases msg.xtype
  · exact ⟨congrArg (· + total.toUInt64) cursor, iounit, isDirectory, small⟩
  · exact ⟨cursor, iounit, isDirectory, small⟩
  · exact ⟨congrArg (· + total.toUInt64) cursor, iounit, isDirectory, small⟩

omit stands in
theorem ocb_chunkSize (small : file.iounit.toNat + 24 ≤ maxMessageSize.toNat) :
    (chunkSize file.ocb).toNat + 24 ≤ maxMessageSize.toNat := by
  unfold chunkSize
  split
  · exact small
  · decide

include provides in
/-- The chunk loop, by induction on its rounds. -/
theorem writeLoop_agrees {fid : UInt32} {object : ν} (bound : (fid, object) ∈ held) (msg : IoWrite)
    {plan : WritePlan} (small : plan.chunkSize.toNat + 24 ≤ maxMessageSize.toNat)
    (fuel round : Nat) (total : UInt32) {w : Link σ} {s : φ}
    (tracks : Tracks view root spare held w s) :
    (writeLoop T msg { plan with fid := fid } fuel round total w).1 =
        loopResult (f.sendChunks msg plan object fuel round total s).1 ∧
      Tracks view root spare held (writeLoop T msg { plan with fid := fid } fuel round total w).2
        (f.sendChunks msg plan object fuel round total s).2 := by
  induction fuel generalizing round total w s with
  | zero =>
    rw [writeLoop, FileService.sendChunks]
    by_cases more : total < plan.nbytes
    · simp only [if_pos more]
      exact ⟨rfl, tracks⟩
    · simp only [if_neg more]
      exact ⟨rfl, tracks⟩
  | succ fuel ih =>
    rw [writeLoop, FileService.sendChunks]
    by_cases more : total < plan.nbytes
    · have same : writeChunk msg { plan with fid := fid } round total =
          writeChunk msg plan round total := rfl
      simp only [if_pos more, same]
      cases chunk : writeChunk msg plan round total with
      | error errno => exact ⟨rfl, tracks⟩
      | ok buf =>
        have size : maxMessageSize.toNat = 131072 := rfl
        have length : buf.length ≤ plan.chunkSize.toNat :=
          Nat.le_trans (writeChunk_length chunk (UInt32.le_of_lt more)) (Nat.min_le_right _ _)
        simp only [write, Attempt.bind, Attempt.fold]
        rcases (writeCall_couples provides bound (plan.offset + total.toUInt64) buf
          (by omega)).outcomes tracks with
          ⟨_, errno, w', s', called, served, ⟨rfl, negative⟩, tracks⟩ |
          ⟨count, _, w', s', called, served, within, rfl, tracks⟩
        · simp only [called, served, if_pos negative, Int32.neg_neg]
          exact ⟨rfl, tracks⟩
        · have positive : ¬ count.toInt32 < 0 := by
            have sign := toInt32_neg_iff count.toNat_lt
            rw [UInt32.ofNat_toNat] at sign
            rw [sign]
            omega
          simp only [called, served, if_neg positive, UInt32.toUInt32_toInt32]
          by_cases part : count < UInt32.ofNat buf.length
          · simp only [if_pos part]
            exact ⟨rfl, tracks⟩
          · simp only [if_neg part]
            exact ih (round + 1) (total + count) tracks
    · simp only [if_neg more]
      exact ⟨rfl, tracks⟩

include stands

theorem agrees_unused (tracks : Tracks view root spare held w s) (reply : Reply) :
    UsedAlike view root spare held ocb.data.fid file.object ((reply, ocb), w) ((reply, file), s) :=
  ⟨rfl, stands, rfl, rfl, tracks⟩

include provides member tracks

theorem ioRead_agrees (msg : IoRead) :
    UsedAlike view root spare held ocb.data.fid file.object (ioRead T q msg ocb w)
      (used (f.readFile q msg) file s) := by
  simp only [ioRead, used, FileService.readFile]
  by_cases verified : msg.verify ≠ eok
  · simp only [if_pos verified]
    exact agrees_unused stands tracks _
  · simp only [if_neg verified, stands.isDirectory]
    cases kind : file.isDirectory with
    | true =>
      simp only [if_true, readDir, ← stands.offset, Attempt.bind, Attempt.fold]
      rcases (readDirCall_couples provides member ocb.data.offset msg.nbytes).outcomes tracks with
        ⟨_, errno, w', s', called, served, ⟨rfl, -⟩, tracks⟩ |
        ⟨_, entries, w', s', called, served, rfl, tracks⟩
      · simp only [called, served, Int32.neg_neg]
        exact agrees_unused stands tracks _
      · simp only [called, served, Bool.false_eq_true, if_false, Attempt.pure]
        -- the cursor is the same on both sides if there are no entries
        split
        · exact ⟨rfl, ⟨rfl, stands.iounit, rfl, stands.small⟩, rfl, rfl, tracks⟩
        · exact ⟨rfl, ⟨rfl, stands.iounit, rfl, stands.small⟩, rfl, rfl, tracks⟩
    | false =>
      simp only [Bool.false_eq_true, if_false, read, ← stands.offset, Attempt.bind, Attempt.fold]
      rcases (readCall_couples provides member ocb.data.offset msg.nbytes).outcomes tracks with
        ⟨_, errno, w', s', called, served, ⟨rfl, negative⟩, tracks⟩ |
        ⟨_, data, w', s', called, served, short, rfl, tracks⟩
      · simp only [called, served, if_pos negative, Int32.neg_neg]
        exact agrees_unused stands tracks _
      · have size : maxMessageSize.toNat = 131072 := rfl
        have counted : ¬ Int32.ofNat data.length < 0 :=
          Int32.not_lt.mpr (Int32.zero_le_ofNat_of_lt (by omega))
        simp only [called, served, Bool.false_eq_true, if_false, if_neg counted, Attempt.pure]
        by_cases ended : data = []
        · have still : ocb.data.offset = ocb.data.offset + UInt64.ofNat data.length := by
            rw [ended]
            exact (UInt64.add_zero _).symm
          simp only [if_pos ended]
          exact ⟨rfl, ⟨still, stands.iounit, stands.isDirectory.trans kind, stands.small⟩, rfl, rfl,
            tracks⟩
        · simp only [if_neg ended]
          exact ⟨rfl, ⟨rfl, stands.iounit, rfl, stands.small⟩, rfl, rfl, tracks⟩

theorem ioStat_agrees :
    UsedAlike view root spare held ocb.data.fid file.object
      (((ioStat T q ocb w).1, ocb), (ioStat T q ocb w).2) (used (f.statFile q) file s) := by
  simp only [ioStat, used, FileService.statFile, Attempt.bind, Attempt.fold]
  rcases (getAttr_couples provides member).outcomes tracks with
    ⟨_, errno, w', s', called, served, ⟨rfl, -⟩, tracks⟩ |
    ⟨_, stat, w', s', called, served, rfl, tracks⟩
  · simp only [called, served, Int32.neg_neg]
    exact agrees_unused stands tracks _
  · simp only [called, served]
    exact agrees_unused stands tracks _

theorem ioWrite_agrees (fuel : Nat) (msg : IoWrite) :
    UsedAlike view root spare held ocb.data.fid file.object (ioWrite T q fuel msg ocb w)
      (used (f.writeFile q fuel msg) file s) := by
  simp only [ioWrite, used, FileService.writeFile]
  by_cases verified : msg.verify ≠ eok
  · simp only [if_pos verified]
    exact agrees_unused stands tracks _
  · by_cases empty : msg.nbytes = 0
    · simp only [if_neg verified, if_pos empty]
      exact agrees_unused stands tracks _
    · simp only [if_neg verified, if_neg empty]
      rw [writePlan_stands stands msg]
      cases planned : writePlan q msg file.ocb with
      | error errno => exact agrees_unused stands tracks _
      | ok plan =>
        have small : plan.chunkSize.toNat + 24 ≤ maxMessageSize.toNat :=
          (writePlan_same planned).2.2 ▸ ocb_chunkSize stands.small
        obtain ⟨result, tracks'⟩ := writeLoop_agrees provides member msg small fuel 0 0 tracks
        simp only [Except.map, Attempt.bind, Attempt.fold]
        revert result tracks'
        obtain ⟨sent, w'⟩ := writeLoop T msg { plan with fid := ocb.data.fid } fuel 0 0 w
        obtain ⟨errno | _ | total, s'⟩ := f.sendChunks msg plan file.object fuel 0 0 s <;>
          rintro rfl tracks'
        · exact agrees_unused stands tracks' _
        · exact agrees_unused stands tracks' _
        · -- the cursor moves by what was written, unless the message names the offset
          refine ⟨rfl, written_stands stands msg plan.offset total, ?_, ?_, tracks'⟩
          · exact written_fid msg plan.offset total ocb
          · cases msg.xtype <;> rfl

end Handlers

end Virtio9p
