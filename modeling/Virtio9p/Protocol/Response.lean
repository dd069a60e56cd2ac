import Virtio9p.Protocol.Wire

/-!
# Responses

The responses of the protocol as values, and their encoding with the encoder helpers.
-/
namespace Virtio9p

open Cursor NinePMessage

inductive Response where
  | rlerror (ecode : UInt32)
  | rversion (maxSize : UInt32) (version : Bytes)
  | rattach (qid : Qid)
  | rwalk (qids : List Qid)
  | rlopen (qid : Qid) (iounit : UInt32)
  | rread (data : Bytes)
  | rclunk
  | rgetattr (stat : NinePStat)
  | rreaddir (entries : List DirEntry)
  | rwrite (count : UInt32)
  | rlcreate (qid : Qid) (iounit : UInt32)
  | rmkdir (qid : Qid)
  | runlinkat
  | rrenameat
  deriving DecidableEq, Repr

namespace Response

def type : Response → MessageType
  | rlerror _ => .rlerror
  | rversion _ _ => .rversion
  | rattach _ => .rattach
  | rwalk _ => .rwalk
  | rlopen _ _ => .rlopen
  | rread _ => .rread
  | rclunk => .rclunk
  | rgetattr _ => .rgetattr
  | rreaddir _ => .rreaddir
  | rwrite _ => .rwrite
  | rlcreate _ _ => .rlcreate
  | rmkdir _ => .rmkdir
  | runlinkat => .runlinkat
  | rrenameat => .rrenameat

/-! ### Encoding with the Put helpers -/

def putQid (m : NinePMessage) (q : Qid) : NinePMessage :=
  ((m.putU8 q.type).putU32 q.version).putU64 q.path

def putDirEntry (m : NinePMessage) (e : DirEntry) : NinePMessage :=
  (((putQid m e.qid).putU64 e.offset).putU8 e.type).putString e.name

def putStat (m : NinePMessage) (s : NinePStat) : NinePMessage :=
  let m := putQid (m.putU64 s.valid) s.qid |>.putU32 s.mode |>.putU32 s.uid |>.putU32 s.gid
  let m := m.putU64 s.nlink |>.putU64 s.rdev |>.putU64 s.size |>.putU64 s.blksize
    |>.putU64 s.blocks
  let m := m.putU64 s.atimeSec |>.putU64 s.atimeNsec |>.putU64 s.mtimeSec |>.putU64 s.mtimeNsec
  let m := m.putU64 s.ctimeSec |>.putU64 s.ctimeNsec |>.putU64 s.btimeSec |>.putU64 s.btimeNsec
  m.putU64 s.gen |>.putU64 s.dataVersion

/-- Size of the entries of an Rreaddir on the wire. -/
def dirSize (entries : List DirEntry) : Nat := (entries.map fun e => 24 + e.name.length).sum

def putFields : Response → NinePMessage → NinePMessage
  | rlerror ecode, m => m.putU32 ecode
  | rversion maxSize version, m => (m.putU32 maxSize).putString version
  | rattach qid, m => putQid m qid
  | rwalk qids, m => qids.foldl putQid (m.putU16 (UInt16.ofNat qids.length))
  | rlopen qid iounit, m => (putQid m qid).putU32 iounit
  | rread data, m =>
    (m.putU32 (UInt32.ofNat data.length)).putBytes data (UInt32.ofNat data.length)
  | rclunk, m => m
  | rgetattr stat, m => putStat m stat
  | rreaddir entries, m =>
    entries.foldl putDirEntry (m.putU32 (UInt32.ofNat (dirSize entries)))
  | rwrite count, m => m.putU32 count
  | rlcreate qid iounit, m => (putQid m qid).putU32 iounit
  | rmkdir qid, m => putQid m qid
  | runlinkat, m => m
  | rrenameat, m => m

def encode (tag : UInt16) (r : Response) : NinePMessage :=
  (r.putFields (empty.beginMessage r.type tag)).endMessage

/-- The payload as a byte string. -/
def payload : Response → Bytes
  | rlerror ecode => Wire.u32 ecode
  | rversion maxSize version => Wire.u32 maxSize ++ Wire.str version
  | rattach qid => Wire.qid qid
  | rwalk qids => Wire.u16 (UInt16.ofNat qids.length) ++ qids.flatMap Wire.qid
  | rlopen qid iounit => Wire.qid qid ++ Wire.u32 iounit
  | rread data =>
    Wire.u32 (UInt32.ofNat data.length) ++ data.take (UInt32.ofNat data.length).toNat
  | rclunk => []
  | rgetattr stat => Wire.stat stat
  | rreaddir entries =>
    Wire.u32 (UInt32.ofNat (dirSize entries)) ++ entries.flatMap Wire.dirEntry
  | rwrite count => Wire.u32 count
  | rlcreate qid iounit => Wire.qid qid ++ Wire.u32 iounit
  | rmkdir qid => Wire.qid qid
  | runlinkat => []
  | rrenameat => []

/-- The lists, names and data of a response fit their length fields. -/
def Fits : Response → Prop
  | rversion _ version => version.length < 2 ^ 16
  | rwalk qids => qids.length < 2 ^ 16
  | rread data => data.length < 2 ^ 32
  | rreaddir entries => dirSize entries < 2 ^ 32 ∧ ∀ e ∈ entries, e.name.length < 2 ^ 16
  | _ => True

theorem dirEntries_length (entries : List DirEntry) :
    (entries.flatMap Wire.dirEntry).length = dirSize entries := by
  rw [List.length_flatMap, dirSize]
  simp only [Wire.dirEntry_length]

@[simp] theorem putQid_data (m : NinePMessage) (q : Qid) :
    (putQid m q).data = m.data ++ Wire.qid q := by
  simp [putQid, Wire.qid, List.append_assoc]

@[simp] theorem putDirEntry_data (m : NinePMessage) (e : DirEntry) :
    (putDirEntry m e).data = m.data ++ Wire.dirEntry e := by
  simp [putDirEntry, Wire.dirEntry, List.append_assoc]

@[simp] theorem putStat_data (m : NinePMessage) (s : NinePStat) :
    (putStat m s).data = m.data ++ Wire.stat s := by
  simp [putStat, Wire.stat, List.append_assoc]

private theorem foldl_put_data {α : Type} (put : NinePMessage → α → NinePMessage) (wire : α → Bytes)
    (each : ∀ m a, (put m a).data = m.data ++ wire a) (m : NinePMessage) (as : List α) :
    (as.foldl put m).data = m.data ++ as.flatMap wire := by
  induction as generalizing m with
  | nil => simp
  | cons a as ih => simp [ih, each, List.append_assoc]

theorem putFields_data (r : Response) (m : NinePMessage) :
    (r.putFields m).data = m.data ++ r.payload := by
  cases r with
  | rwalk qids => simp [putFields, payload, foldl_put_data putQid Wire.qid putQid_data]
  | rreaddir entries =>
    simp [putFields, payload, foldl_put_data putDirEntry Wire.dirEntry putDirEntry_data]
  | _ => simp [putFields, payload]

end Response

/-! ### The bytes of a response -/

/-- Header: size[4] type[1] tag[2]. -/
def header (size : UInt32) (type : MessageType) (tag : UInt16) : Bytes :=
  Wire.u32 size ++ (Wire.u8 type.code ++ Wire.u16 tag)

@[simp] theorem header_length (size : UInt32) (type : MessageType) (tag : UInt16) :
    (header size type tag).length = 7 := by simp [header]

theorem Response.encode_data (r : Response) (tag : UInt16) :
    (r.encode tag).data = header (UInt32.ofNat (7 + r.payload.length)) r.type tag ++ r.payload := by
  have body := endMessage_data (r.putFields (empty.beginMessage r.type tag)) 0
    (Wire.u8 r.type.code ++ (Wire.u16 tag ++ r.payload))
    (by simp [putFields_data, List.append_assoc])
  have size : 4 + (Wire.u8 r.type.code ++ (Wire.u16 tag ++ r.payload)).length =
      7 + r.payload.length := by
    simp only [List.length_append, Wire.u8_length, Wire.u16_length]
    omega
  rw [size] at body
  simpa [header, List.append_assoc, Response.encode] using body

section Framed

variable {m m' : NinePMessage} {size : UInt32} {type : MessageType} {tag : UInt16} {payload : Bytes}

theorem length_of_header (framed : m.data = header size type tag ++ payload) :
    m.data.length = 7 + payload.length := by
  rw [framed, List.length_append, header_length]

theorem getType_of_header (framed : m.data = header size type tag ++ payload) :
    m.getType = type.code := by
  have long : ¬ m.data.length < headerSize.toNat := by
    simp [length_of_header framed, headerSize]
  rw [getType, if_neg long, byteAt, framed]
  rfl

theorem drop_header (framed : m.data = header size type tag ++ payload) :
    m.data.drop 7 = payload := by
  rw [framed]
  exact List.drop_left' (header_length size type tag)

end Framed

/-! ### The cursor at both ends of the payload -/

section Ends

variable {m m' : NinePMessage}

/-- After `ResetReadOffset` the payload is unread. -/
theorem ready_reset (long : 7 ≤ m.data.length) (small : m.data.length < 2 ^ 32)
    (clean : m.fault = false) : messageView.Ready { m with readOffset := headerSize } :=
  ⟨small, long, clean⟩

/-- With nothing left to read the offset is at the end of the message. -/
theorem readOffset_of_rest_nil (ready : messageView.Ready m') (rest : messageView.rest m' = [])
    (frame : m'.data = m.data) (clean : m.fault = false) :
    m' = { m with readOffset := UInt32.ofNat m.data.length } := by
  have beyond : m'.data.length ≤ m'.readOffset.toNat := List.drop_eq_nil_iff.mp rest
  obtain ⟨small, within, clean'⟩ := ready
  have atEnd : m'.readOffset = UInt32.ofNat m.data.length := by
    apply UInt32.toNat_inj.mp
    rw [UInt32.toNat_ofNat', ← frame]
    omega
  cases m'
  simp only [NinePMessage.mk.injEq]
  exact ⟨frame, atEnd, clean'.trans clean.symm⟩

/-- A decoder that consumes the whole payload leaves the offset at the end. -/
theorem decoder_whole {α : Type} {decoder : Decoder α} {payload : Bytes} {a : α}
    (consumes : Consumes messageView decoder payload a) (long : 7 ≤ m.data.length)
    (unread : m.data.drop 7 = payload) (small : m.data.length < 2 ^ 32) (clean : m.fault = false) :
    decoder { m with readOffset := headerSize } =
      (a, { m with readOffset := UInt32.ofNat m.data.length }) := by
  obtain ⟨m', run, ready, rest, frame⟩ := consumes { m with readOffset := headerSize } []
    (ready_reset long small clean) (by rw [List.append_nil]; exact unread)
  rw [run, readOffset_of_rest_nil ready rest frame clean]

end Ends

end Virtio9p
