import Virtio9p.Foundation.Machine
import Virtio9p.Properties.WritePayload
import Virtio9p.Server.FileServer

/-!
# One cursor per open file

The abstract file has its contents and one cursor. The driver's reads, writes and
seeks on one OCB refine it in every run that neither reads at an explicit offset nor
seeks away from the cursor: `IoRead` does not look at the xtype, and the position that
lseek stores is not the one the handlers use.
-/
namespace Virtio9p

open Cursor NinePMessage

/-! ### The abstract file -/

structure CursorFile where
  contents : Bytes
  cursor : UInt64
  deriving DecidableEq, Repr

inductive FileOp where
  | read (nbytes : UInt32)
  | pread (offset : UInt64) (nbytes : UInt32)
  | write (payload : Bytes)
  | pwrite (offset : UInt64) (payload : Bytes)
  | lseek (offset : UInt64)

/-- What the client of a read gets. -/
def readReplied (bytes : Bytes) : Reply := if bytes = [] then .nbytes 0 else .data bytes

/-- Sequential transfers move the cursor, explicit offsets do not. A count is reported as an
`int`. -/
def CursorFile.step : FileOp → CursorFile → Reply × CursorFile
  | .read nbytes, f =>
    let bytes := readAt f.contents f.cursor nbytes.toNat
    (readReplied bytes, { f with cursor := f.cursor + UInt64.ofNat bytes.length })
  | .pread offset nbytes, f => (readReplied (readAt f.contents offset nbytes.toNat), f)
  | .write payload, f =>
    (.nbytes (UInt32.ofNat payload.length).toInt32,
      ⟨writeAt f.contents f.cursor payload, f.cursor + UInt64.ofNat payload.length⟩)
  | .pwrite offset payload, f =>
    (.nbytes (UInt32.ofNat payload.length).toInt32,
      { f with contents := writeAt f.contents offset payload })
  | .lseek offset, f => (.errno eok, { f with cursor := offset })

/-! ### Requests on an open file -/

/-- A request as it reaches the resource manager. -/
inductive FileRequest where
  | read (msg : IoRead)
  | write (msg : IoWrite) (client : Nat → UInt8)
  | lseek (offset : UInt64)

namespace FileRequest

/-- The operation that the client asks for. -/
def op (q : Qnx) : FileRequest → FileOp
  | read msg =>
    match msg.xtype with
    | .offset offset => .pread offset msg.nbytes
    | _ => .read msg.nbytes
  | write msg client =>
    let payload := segment client (msg.payloadStart q) msg.nbytes.toNat
    match msg.xtype with
    | .offset offset => .pwrite offset payload
    | _ => .write payload
  | lseek offset => .lseek offset

/-- Passed the permission check, with a known xtype and the payload in the client's message. -/
def Valid : FileRequest → Prop
  | read msg => msg.verify = eok ∧ msg.xtype ≠ .other
  | write msg client => msg.verify = eok ∧ msg.xtype ≠ .other ∧ msg.From client
  | lseek _ => True

end FileRequest

variable {σ : Type}

/-- The handlers on one OCB; lseek is left to `iofunc_lseek_default`. -/
def openFile (T : Transport σ) (q : Qnx) : Machine FileRequest Reply (ExtOcb × Link σ) where
  step
    | .read msg, (ocb, w) =>
      let result := ioRead T q msg ocb w
      (result.1.1, result.1.2, result.2)
    | .write msg _, (ocb, w) =>
      let result := ioWrite T q msg.nbytes.toNat msg ocb w
      (result.1.1, result.1.2, result.2)
    | .lseek offset, (ocb, w) => (.errno eok, { ocb with iofuncOffset := offset }, w)

def cursorFile (q : Qnx) : Machine FileRequest Reply CursorFile where
  step request f := f.step (request.op q)

/-- The condition on a request in the state of the driver. -/
def KeepsCursor (q : Qnx) (contents : σ → Bytes) : FileRequest → ExtOcb × Link σ → Prop
  | .read msg, (ocb, w) =>
    let file := contents w.transport
    match msg.xtype with
    | .offset offset =>
      readAt file offset msg.nbytes.toNat = [] ∧ readAt file ocb.data.offset msg.nbytes.toNat = []
    | _ => (readAt file ocb.data.offset msg.nbytes.toNat).length < 2 ^ 31
  | .write msg client, (ocb, _) =>
    OverflowUnmoved q msg client ∧ min msg.nbytes.toNat (chunkSize ocb).toNat < 2 ^ 31
  | .lseek offset, (ocb, _) => offset = ocb.data.offset

/-- The driver's cursor is the abstract one. -/
def Refines (T : Transport σ) (contents : σ → Bytes) (d : ExtOcb × Link σ) (f : CursorFile) :
    Prop :=
  d.1.data.isDirectory = false ∧ T.ServesFile d.1.data.fid contents ∧
    f = ⟨contents d.2.transport, d.1.data.offset⟩

/-! ### One request -/

section Step

variable {T : Transport σ} {q : Qnx} {contents : σ → Bytes} {ocb : ExtOcb}

theorem read_served {fid : UInt32} (serves : T.ServesFile fid contents) (offset : UInt64)
    (count : UInt32) (w : Link σ)
    (small : (readAt (contents w.transport) offset count.toNat).length < 2 ^ 31) :
    ∃ w', read T fid offset count w =
        (some (Int32.ofNat (readAt (contents w.transport) offset count.toNat).length,
          readAt (contents w.transport) offset count.toNat), w') ∧
      contents w'.transport = contents w.transport := by
  generalize bytesEq : readAt (contents w.transport) offset count.toNat = bytes at small
  obtain ⟨s', exchange, same⟩ := serves.read w.transport w.session.nextTag offset count
  rw [bytesEq] at exchange
  have answers : w.Answers T (fun tag => buildTread tag fid offset count) (.rread bytes) :=
    ⟨s', exchange⟩
  refine ⟨w.callOnce T fun tag => buildTread tag fid offset count, ?_, ?_⟩
  · exact read_answered (by omega) answers
  · change contents (T.exchange (buildTread w.session.nextTag fid offset count).data
      w.transport).2 = _
    rw [exchange]
    exact same

private theorem ofNat_nonneg {n : Nat} (small : n < 2 ^ 31) : ¬ Int32.ofNat n < 0 := by
  rw [← UInt32.toInt32_ofNat', toInt32_neg_iff (by omega)]
  omega

/-- A read transfers at the driver's cursor, whatever its xtype. -/
theorem ioRead_served (serves : T.ServesFile ocb.data.fid contents) (msg : IoRead)
    (file : ocb.data.isDirectory = false) (verified : msg.verify = eok) (w : Link σ)
    (small : (readAt (contents w.transport) ocb.data.offset msg.nbytes.toNat).length < 2 ^ 31) :
    let bytes := readAt (contents w.transport) ocb.data.offset msg.nbytes.toNat
    let result := ioRead T q msg ocb w
    result.1.1 = readReplied bytes ∧
      result.1.2.data = { ocb.data with offset := ocb.data.offset + UInt64.ofNat bytes.length } ∧
      contents result.2.transport = contents w.transport := by
  obtain ⟨w', run, same⟩ := read_served serves ocb.data.offset msg.nbytes w small
  generalize readAt (contents w.transport) ocb.data.offset msg.nbytes.toNat = bytes at small run
  intro bytes result
  -- `IoRead` has no branch for the xtype
  have whole : result = if bytes = [] then ((.nbytes 0, ocb), w') else
      ((.data bytes,
        { ocb with
          data := { ocb.data with offset := ocb.data.offset + UInt64.ofNat bytes.length }
          attrNbytes := Int64.ofNat bytes.length }), w') := by
    simp only [result, bytes, ioRead, if_neg (not_not_intro verified), file, Bool.false_eq_true,
      if_false, run, if_neg (ofNat_nonneg small)]
  rw [whole]
  by_cases eof : bytes = []
  · rw [if_pos eof, eof]
    exact ⟨rfl, by simp, same⟩
  · rw [if_neg eof, readReplied, if_neg eof]
    exact ⟨rfl, rfl, same⟩

/-- A write stores the client's payload at its offset. -/
theorem ioWrite_served (serves : T.ServesFile ocb.data.fid contents) {msg : IoWrite}
    {client : Nat → UInt8} (source : msg.From client) (verified : msg.verify = eok)
    (known : msg.xtype ≠ .other) (unmoved : OverflowUnmoved q msg client)
    (small : min msg.nbytes.toNat (chunkSize ocb).toNat < 2 ^ 31) (w : Link σ) :
    let payload := segment client (msg.payloadStart q) msg.nbytes.toNat
    let result := ioWrite T q msg.nbytes.toNat msg ocb w
    result.1.1 = .nbytes msg.nbytes.toInt32 ∧ result.1.2.data = movedBy msg msg.nbytes ocb.data ∧
      contents result.2.transport =
        writeAt (contents w.transport) (msg.fileOffset ocb) payload := by
  intro payload result
  obtain ⟨chunks, bounds, joined, run, replied, moved⟩ := ioWrite_complete (q := q)
    serves.acknowledges source verified known small msg.nbytes.toNat (Nat.le_refl _) w
  refine ⟨replied, moved, ?_⟩
  rw [run, contents_sendWrites serves chunks bounds, joined,
    (sent_eq_payload_iff (msg.fileOffset ocb)).mpr unmoved]

/-- Requests that keep the cursor are steps of the abstract file. -/
theorem openFile_simulates (request : FileRequest) (d : ExtOcb × Link σ) (f : CursorFile)
    (refines : Refines T contents d f) (valid : request.Valid)
    (keeps : KeepsCursor q contents request d) :
    (((openFile T q).step request d).1 = ((cursorFile q).step request f).1) ∧
      Refines T contents ((openFile T q).step request d).2 ((cursorFile q).step request f).2 := by
  obtain ⟨ocb, w⟩ := d
  obtain ⟨file, serves, rfl⟩ := refines
  cases request with
  | read msg =>
    obtain ⟨verified, known⟩ := valid
    cases xtype : msg.xtype with
    | none =>
      simp only [KeepsCursor, xtype] at keeps
      obtain ⟨replied, moved, same⟩ := ioRead_served (q := q) serves msg file verified w keeps
      refine ⟨?_, ?_, ?_, ?_⟩
      · simpa only [openFile, cursorFile, FileRequest.op, xtype, CursorFile.step] using replied
      · change (ioRead T q msg ocb w).1.2.data.isDirectory = false
        rw [moved]
        exact file
      · change T.ServesFile (ioRead T q msg ocb w).1.2.data.fid contents
        rw [moved]
        exact serves
      · simp only [openFile, cursorFile, FileRequest.op, xtype, CursorFile.step, moved, same]
    | offset offset =>
      simp only [KeepsCursor, xtype] at keeps
      obtain ⟨nothingThere, nothingHere⟩ := keeps
      obtain ⟨replied, moved, same⟩ := ioRead_served (q := q) serves msg file verified w
        (by rw [nothingHere]; decide)
      -- both reads are empty, so using the wrong offset does not show
      rw [nothingHere] at replied moved
      refine ⟨?_, ?_, ?_, ?_⟩
      · simpa only [openFile, cursorFile, FileRequest.op, xtype, CursorFile.step, nothingThere]
          using replied
      · change (ioRead T q msg ocb w).1.2.data.isDirectory = false
        rw [moved]
        exact file
      · change T.ServesFile (ioRead T q msg ocb w).1.2.data.fid contents
        rw [moved]
        exact serves
      · simp [openFile, cursorFile, FileRequest.op, xtype, CursorFile.step, moved, same]
    | other => exact absurd xtype known
  | write msg client =>
    obtain ⟨verified, known, source⟩ := valid
    obtain ⟨unmoved, small⟩ := keeps
    obtain ⟨replied, moved, stored⟩ := ioWrite_served serves source verified known unmoved small w
    have count : UInt32.ofNat (segment client (msg.payloadStart q) msg.nbytes.toNat).length =
        msg.nbytes := by
      rw [segment_length, UInt32.ofNat_toNat]
    -- the handler changes the offset of the OCB alone
    have kept : (movedBy msg msg.nbytes ocb.data).isDirectory = ocb.data.isDirectory ∧
        (movedBy msg msg.nbytes ocb.data).fid = ocb.data.fid := by
      unfold movedBy
      cases msg.xtype <;> exact ⟨rfl, rfl⟩
    refine ⟨?_, ?_, ?_, ?_⟩
    · cases xtype : msg.xtype <;>
        simpa only [openFile, cursorFile, FileRequest.op, xtype, CursorFile.step, count]
          using replied
    · change (ioWrite T q msg.nbytes.toNat msg ocb w).1.2.data.isDirectory = false
      rw [moved, kept.1]
      exact file
    · change T.ServesFile (ioWrite T q msg.nbytes.toNat msg ocb w).1.2.data.fid contents
      rw [moved, kept.2]
      exact serves
    · cases xtype : msg.xtype with
      | none =>
        simp only [IoWrite.fileOffset, movedBy, xtype] at stored moved
        simp only [openFile, cursorFile, FileRequest.op, xtype, CursorFile.step, moved, stored,
          segment_length]
        simp
      | offset offset =>
        simp only [IoWrite.fileOffset, movedBy, xtype] at stored moved
        simp only [openFile, cursorFile, FileRequest.op, xtype, CursorFile.step, moved, stored]
      | other => exact absurd xtype known
  | lseek offset =>
    -- the seek goes to where the cursor is
    have same : offset = ocb.data.offset := keeps
    exact ⟨rfl, file, serves, by simp [cursorFile, FileRequest.op, CursorFile.step, openFile, same]⟩

end Step

/-- Every run of requests that keep the cursor is a run of the abstract file: the same
replies, and again the same contents and cursor. -/
theorem openFile_refines {T : Transport σ} {contents : σ → Bytes} (q : Qnx) (ocb : ExtOcb)
    (w : Link σ) (regular : ocb.data.isDirectory = false)
    (serves : T.ServesFile ocb.data.fid contents) (requests : List FileRequest)
    (valid : ∀ r ∈ requests, r.Valid)
    (keeps : (openFile T q).Meets (KeepsCursor q contents) requests (ocb, w)) :
    let driver := (openFile T q).run requests (ocb, w)
    let file := (cursorFile q).run requests ⟨contents w.transport, ocb.data.offset⟩
    driver.1 = file.1 ∧ Refines T contents driver.2 file.2 :=
  (keeps.and valid).simulation
    (fun request d f refines meets => openFile_simulates request d f refines meets.1 meets.2)
    ⟨regular, serves, rfl⟩

/-! ### A pread in front of a read -/

def regularOcb : ExtOcb := ⟨0, 0o100644, 0, ⟨1, 0, 0, false, 0⟩⟩

def readOne (xtype : Xtype) : FileRequest := .read ⟨1, xtype, eok⟩

theorem openFile_refines_read :
    let driver := (openFile fileServer Qnx.headers).run [readOne .none, readOne .none]
      (regularOcb, ⟨NinePSession.new, [10, 20, 30], []⟩)
    let file := (cursorFile Qnx.headers).run [readOne .none, readOne .none] ⟨[10, 20, 30], 0⟩
    driver.1 = file.1 ∧ Refines fileServer id driver.2 file.2 :=
  openFile_refines Qnx.headers regularOcb ⟨NinePSession.new, [10, 20, 30], []⟩ rfl
    (fileServer_serves 1) [readOne .none, readOne .none] (by simp [readOne, FileRequest.Valid])
    ⟨Nat.lt_of_le_of_lt (List.length_take_le 1 _) (by decide),
      Nat.lt_of_le_of_lt (List.length_take_le 1 _) (by decide), trivial⟩

/-- A read of one byte at offset 0 has to leave the cursor at 0, but the next read gets
the second byte. -/
theorem pread_moves_cursor :
    fileServer.ServesFile regularOcb.data.fid id ∧
      (∀ r ∈ [readOne (.offset 0), readOne .none], r.Valid) ∧
      ((openFile fileServer Qnx.headers).run [readOne (.offset 0), readOne .none]
          (regularOcb, ⟨NinePSession.new, [10, 20, 30], []⟩)).1 ≠
        ((cursorFile Qnx.headers).run [readOne (.offset 0), readOne .none]
          ⟨[10, 20, 30], 0⟩).1 := by
  refine ⟨fileServer_serves 1, by simp [readOne, FileRequest.Valid], ?_⟩
  decide +kernel

end Virtio9p
