import Virtio9p.Foundation.Attempt
import Virtio9p.Server.TreeServer

/-!
# File services

A host offers operations on its objects, and a 9P server makes them available to a client that
knows objects by fids. Every operation may change the host's files, and each is an occasion for
other processes of the host to do so.
-/
namespace Virtio9p

open Cursor NinePMessage

/-- The error number of an Rlerror. -/
abbrev Ecode := {e : UInt32 // 1 ≤ e ∧ e ≤ 4095}

structure FileService (ν φ : Type) where
  /-- The largest message that the server takes. -/
  msize : UInt32
  attach : Bytes → Attempt φ Ecode (ν × Qid)
  /-- The objects that the names lead to, as far as there are any. -/
  walk : ν → List Bytes → Attempt φ Ecode (List (ν × Qid))
  lopen : ν → UInt32 → Attempt φ Ecode (Qid × UInt32)
  lcreate : ν → Bytes → UInt32 → UInt32 → UInt32 → Attempt φ Ecode (ν × Qid × UInt32)
  getattr : ν → UInt64 → Attempt φ Ecode NinePStat
  read : ν → UInt64 → UInt32 → Attempt φ Ecode Bytes
  readdir : ν → UInt64 → UInt32 → Attempt φ Ecode (List DirEntry)
  write : ν → UInt64 → Bytes → Attempt φ Ecode UInt32
  mkdir : ν → Bytes → UInt32 → UInt32 → Attempt φ Ecode Qid
  unlinkat : ν → Bytes → UInt32 → Attempt φ Ecode Unit
  renameat : ν → Bytes → ν → Bytes → Attempt φ Ecode Unit
  clunk : ν → φ → φ
  /-- The ids of the objects fit one message. -/
  walked : ∀ object names s reached s', walk object names s = (.ok reached, s') →
    reached.length ≤ names.length ∧ 13 * reached.length + 9 ≤ maxMessageSize.toNat
  /-- An I/O unit leaves room for the header of a message. -/
  opened : ∀ object flags s qid iounit s', lopen object flags s = (.ok (qid, iounit), s') →
    iounit.toNat + 24 ≤ maxMessageSize.toNat
  created : ∀ object name flags mode gid s object' qid iounit s',
    lcreate object name flags mode gid s = (.ok (object', qid, iounit), s') →
      iounit.toNat + 24 ≤ maxMessageSize.toNat
  readLength : ∀ object offset count s data s', read object offset count s = (.ok data, s') →
    data.length + 11 ≤ maxMessageSize.toNat
  listed : ∀ object offset count s entries s', readdir object offset count s = (.ok entries, s') →
    Response.dirSize entries + 11 ≤ maxMessageSize.toNat ∧ ∀ e ∈ entries, e.name.length < 2 ^ 16
  written : ∀ object offset data s count s', write object offset data s = (.ok count, s') →
    count.toNat ≤ data.length

/-- A server on the service: the objects of its fids, and the host. -/
structure ServiceState (ν φ : Type) where
  fids : FidTable ν
  files : φ

namespace ServiceState

variable {ν φ α : Type} (s : ServiceState ν φ)

def bind (fid : UInt32) (object : Option ν) : ServiceState ν φ :=
  { s with fids := Function.update s.fids fid object }

/-- The object of a fid, or an Rlerror. -/
def withFid (fid : UInt32) (use : ν → Response × ServiceState ν φ) :
    Response × ServiceState ν φ :=
  match s.fids fid with
  | none => (.rlerror ebadf, s)
  | some object => use object

/-- The answer after an operation of the host. -/
def answer (x : Attempt φ Ecode α) (done : α → ServiceState ν φ → Response × ServiceState ν φ) :
    Response × ServiceState ν φ :=
  match x s.files with
  | (.error ecode, files) => (.rlerror ecode.val, { s with files := files })
  | (.ok a, files) => done a { s with files := files }

end ServiceState

namespace FileService

variable {ν φ : Type} (f : FileService ν φ)

/-- `"unknown"` -/
def unknownVersion : Bytes := [117, 110, 107, 110, 111, 119, 110]

/-- A new session gives up all fids. -/
def agree (maxSize : UInt32) (version : Bytes) (s : ServiceState ν φ) :
    Response × ServiceState ν φ :=
  let size := if f.msize < maxSize then f.msize else maxSize
  (.rversion size (if version = protocolVersion then protocolVersion else unknownVersion),
    { s with fids := FidTable.empty })

/-- The fid that a walk ends in is bound only if all names lead somewhere. -/
def walkTo (fid newfid : UInt32) (names : List Bytes) (s : ServiceState ν φ) :
    Response × ServiceState ν φ :=
  s.withFid fid fun object =>
    if newfid ≠ fid ∧ s.fids newfid ≠ none then (.rlerror ebadf, s)
    else
      s.answer (f.walk object names) fun reached s =>
        (.rwalk (reached.map Prod.snd),
          if reached.length = names.length then
            s.bind newfid (some ((reached.map Prod.fst).getLastD object))
          else s)

def serve : Request → ServiceState ν φ → Response × ServiceState ν φ
  | .tversion maxSize version, s => f.agree maxSize version s
  | .tattach fid _ _ aname _, s =>
    if s.fids fid ≠ none then (.rlerror ebadf, s)
    else s.answer (f.attach aname) fun (object, qid) s => (.rattach qid, s.bind fid (some object))
  | .twalk fid newfid names, s => f.walkTo fid newfid names s
  | .tlopen fid flags, s => s.withFid fid fun object =>
    s.answer (f.lopen object flags) fun (qid, iounit) s => (.rlopen qid iounit, s)
  | .tlcreate fid name flags mode gid, s => s.withFid fid fun object =>
    -- the fid of the directory becomes that of the file
    s.answer (f.lcreate object name flags mode gid) fun (object', qid, iounit) s =>
      (.rlcreate qid iounit, s.bind fid (some object'))
  | .tread fid offset count, s => s.withFid fid fun object =>
    s.answer (f.read object offset count) fun data s => (.rread data, s)
  | .treaddir fid offset count, s => s.withFid fid fun object =>
    s.answer (f.readdir object offset count) fun entries s => (.rreaddir entries, s)
  | .twrite fid offset data, s => s.withFid fid fun object =>
    s.answer (f.write object offset data) fun count s => (.rwrite count, s)
  | .tgetattr fid requestMask, s => s.withFid fid fun object =>
    s.answer (f.getattr object requestMask) fun stat s => (.rgetattr stat, s)
  | .tmkdir dfid name mode gid, s => s.withFid dfid fun directory =>
    s.answer (f.mkdir directory name mode gid) fun qid s => (.rmkdir qid, s)
  | .tunlinkat dirfid name flags, s => s.withFid dirfid fun directory =>
    s.answer (f.unlinkat directory name flags) fun _ s => (.runlinkat, s)
  | .trenameat olddirfid oldname newdirfid newname, s => s.withFid olddirfid fun old =>
    s.withFid newdirfid fun new =>
      s.answer (f.renameat old oldname new newname) fun _ s => (.rrenameat, s)
  | .tclunk fid, s => s.withFid fid fun object =>
    (.rclunk, { s.bind fid none with files := f.clunk object s.files })

end FileService

/-- The message fits the request buffer of a transport. -/
def Request.Sendable (r : Request) : Prop := r.Fits ∧ 7 + r.payload.length ≤ maxMessageSize.toNat

theorem Request.sendable_of {r : Request} (fits : r.Fits) (small : r.payload.length ≤ 131065) :
    r.Sendable := by
  have size : maxMessageSize.toNat = 131072 := rfl
  exact ⟨fits, by omega⟩

theorem Request.Sendable.sized {r : Request} (sendable : r.Sendable) : r.Sized :=
  ⟨sendable.1, Nat.lt_of_le_of_lt sendable.2 (by decide)⟩

/-- A transport without failures to a server on the service. -/
structure Transport.Provides {σ ν φ : Type} (T : Transport σ) (f : FileService ν φ)
    (view : σ → ServiceState ν φ) : Prop where
  serves : ∀ s tag (r : Request), r.Sendable → ∃ s',
    T.exchange (r.build tag).data s =
      ((0, ((f.serve r (view s)).1.encode (r.sentTag tag)).data), s') ∧
      view s' = (f.serve r (view s)).2

namespace FileService

/-- No response is larger than the buffer for it. -/
theorem answer_fits {ν φ α : Type} {v : ServiceState ν φ} {x : Attempt φ Ecode α}
    {done : α → ServiceState ν φ → Response × ServiceState ν φ}
    (fits : ∀ a s', x v.files = (.ok a, s') → ∀ v, 7 + (done a v).1.payload.length ≤
      maxMessageSize.toNat) : 7 + (v.answer x done).1.payload.length ≤ maxMessageSize.toNat := by
  unfold ServiceState.answer
  split
  · simp [Response.payload]
    decide
  · rename_i performed
    exact fits _ _ performed _

theorem withFid_fits {ν φ : Type} {v : ServiceState ν φ} {fid : UInt32}
    {use : ν → Response × ServiceState ν φ}
    (fits : ∀ object, 7 + (use object).1.payload.length ≤ maxMessageSize.toNat) :
    7 + (v.withFid fid use).1.payload.length ≤ maxMessageSize.toNat := by
  unfold ServiceState.withFid
  split
  · simp [Response.payload]
    decide
  · exact fits _

theorem serve_fits {ν φ : Type} (f : FileService ν φ) (r : Request) (v : ServiceState ν φ) :
    7 + (f.serve r v).1.payload.length ≤ maxMessageSize.toNat := by
  have size : maxMessageSize.toNat = 131072 := rfl
  cases r with
  | tversion maxSize version =>
    simp only [serve, agree, Response.payload, List.length_append, Wire.u32_length,
      Wire.str_length]
    by_cases same : version = protocolVersion
    · rw [if_pos same]
      decide
    · rw [if_neg same]
      decide
  | tattach fid afid uname aname nUname =>
    simp only [serve]
    split
    · simp [Response.payload, size]
    · exact answer_fits fun _ _ _ _ => by simp [Response.payload, size]
  | twalk fid newfid names =>
    apply withFid_fits
    intro object
    split
    · simp [Response.payload, size]
    · apply answer_fits
      intro reached s' performed _
      -- what a service reaches, reads and lists fits a message: it promises so
      have short := (f.walked _ _ _ _ _ performed).2
      have qids : ((reached.map Prod.snd).flatMap Wire.qid).length = 13 * reached.length := by
        simp [List.length_flatMap, Function.comp_def, Nat.mul_comm]
      simp only [Response.payload, List.length_append, Wire.u16_length, qids]
      omega
  -- the answers of a fixed size
  | tlopen fid flags | twrite fid offset data | tgetattr fid mask | tmkdir dfid name mode gid
  | tlcreate fid name flags mode gid | tunlinkat dirfid name flags =>
    apply withFid_fits
    intro object
    exact answer_fits fun _ _ _ _ => by simp [Response.payload, size]
  | tread fid offset count =>
    apply withFid_fits
    intro object
    apply answer_fits
    intro data s' performed _
    have short := f.readLength _ _ _ _ _ _ performed
    simp only [Response.payload, List.length_append, Wire.u32_length, List.length_take]
    omega
  | treaddir fid offset count =>
    apply withFid_fits
    intro object
    apply answer_fits
    intro entries s' performed _
    have short := (f.listed _ _ _ _ _ _ performed).1
    simp only [Response.payload, List.length_append, Wire.u32_length, Response.dirEntries_length]
    omega
  | trenameat olddirfid oldname newdirfid newname =>
    apply withFid_fits
    intro old
    apply withFid_fits
    intro new
    exact answer_fits fun _ _ _ _ => by simp [Response.payload, size]
  | tclunk fid =>
    apply withFid_fits
    intro object
    simp [Response.payload, size]

end FileService

/-! ### A server that reads the bytes -/

/-- The types of the requests that a client sends. -/
def requestTypes : List MessageType :=
  [.tversion, .tattach, .twalk, .tlopen, .tlcreate, .tread, .twrite, .tclunk, .tgetattr, .treaddir,
    .tmkdir, .tunlinkat, .trenameat]

theorem type_mem_requestTypes (r : Request) : r.type ∈ requestTypes := by
  cases r <;> simp [Request.type, requestTypes]

/-- What the server sends back. A message that it cannot read is not answered. -/
def FileService.serveBytes {ν φ : Type} (f : FileService ν φ) (request : Bytes)
    (s : ServiceState ν φ) : Bytes × ServiceState ν φ :=
  let tag := UInt16.ofNat (LittleEndian.decode ((request.drop 5).take 2))
  match Request.readIn requestTypes request with
  | none => ([], s)
  | some r => (((f.serve r s).1.encode tag).data, (f.serve r s).2)

theorem FileService.serveBytes_build {ν φ : Type} (f : FileService ν φ) {r : Request}
    (sendable : r.Sendable) (tag : UInt16) (s : ServiceState ν φ) :
    f.serveBytes (r.build tag).data s =
      (((f.serve r s).1.encode (r.sentTag tag)).data, (f.serve r s).2) := by
  have read := Request.readIn_build sendable.sized (type_mem_requestTypes r) tag
  simp only [serveBytes, read, Request.tag_build]

def serviceTransport {ν φ : Type} (f : FileService ν φ) : Transport (ServiceState ν φ) where
  exchange request s := ((0, (f.serveBytes request s).1), (f.serveBytes request s).2)

end Virtio9p
