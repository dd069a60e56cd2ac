import Virtio9p.Foundation.Machine
import Virtio9p.Protocol.Session

/-!
# The resource manager handlers

The connect and I/O handlers of `fs_virtio9p.cpp`. What they ask of QNX comes in as
data: `Qnx` holds the constants of its headers, and the outcome of every
`iofunc_*` call or message read is an argument of the handler that makes it.
-/
namespace Virtio9p

/-- Constants of the QNX headers that the handlers use. -/
structure Qnx where
  oCreat : UInt32
  oExcl : UInt32
  oTrunc : UInt32
  /-- `sizeof(io_write_t)` -/
  sizeofIoWrite : Nat
  /-- `sizeof(struct _xtype_offset)` -/
  sizeofXtypeOffset : Nat
  /-- `offsetof(struct dirent, d_name)` -/
  direntName : Nat
  /-- The greatest `nlink_t`, an unsigned type. -/
  nlinkMax : UInt64

/-- The values that the QNX headers give them. -/
def Qnx.headers : Qnx := ⟨0x100, 0x400, 0x200, 16, 8, 20, 0xFFFFFFFF⟩

def eok : Int32 := 0

theorem neg_ne_eok {code : Int32} (nonzero : code ≠ 0) : -code ≠ eok := by
  rw [show eok = (-0 : Int32) from rfl, Ne, Int32.neg_inj]
  exact nonzero

/-- Per-open state: the fid of the open file and the driver's own cursor. -/
structure Virtio9pOcb where
  fid : UInt32
  offset : UInt64
  iounit : UInt32
  isDirectory : Bool
  openFlags : UInt32
  deriving DecidableEq, Repr

/-- The extended OCB. `iofuncOffset` is `iofunc_ocb.offset`, the position that the
default lseek handler keeps; the driver's handlers never touch it. -/
structure ExtOcb where
  iofuncOffset : UInt64
  attrMode : UInt32
  attrNbytes : Int64
  data : Virtio9pOcb
  deriving DecidableEq, Repr

/-- A connect message. The path is in the receive buffer of `msg_max_size` bytes, with
its NUL and behind a message header. -/
structure IoConnect where
  path : Bytes
  ioflag : UInt32
  mode : UInt32
  received : path.length + 2 ≤ maxMessageSize.toNat

/-- A rename message carries the new path behind the old one. -/
structure IoRename where
  path : Bytes
  newPath : Bytes
  received : path.length + 1 + (newPath.length + 1) < maxMessageSize.toNat

/-- The masked `xtype` of a read or write message; `offset` is the value of the
`_xtype_offset` behind the header. -/
inductive Xtype where
  | none
  | offset (offset : UInt64)
  | other
  deriving DecidableEq, Repr

structure IoRead where
  nbytes : UInt32
  xtype : Xtype
  /-- Result of `iofunc_read_verify`. -/
  verify : Int32

/-- A write message. `memory i` is the byte at `msg + i`. -/
structure IoWrite where
  nbytes : UInt32
  xtype : Xtype
  memory : Nat → UInt8
  /-- `ctp->offset` -/
  ctpOffset : Nat
  /-- `ctp->info.msglen` -/
  msglen : Nat
  /-- Result of `iofunc_write_verify`. -/
  verify : Int32
  /-- `resmgr_msgread` in the given round of the chunk loop, by size and offset: `errno`
  or the bytes read, no more than asked for. -/
  msgread : Nat → Nat → Nat → Except Int32 Bytes
  bounded : ∀ round n off bytes, msgread round n off = .ok bytes → bytes.length ≤ n

structure Dirent where
  ino : UInt64
  offset : UInt64
  reclen : Int16
  namelen : Int16
  name : Bytes
  deriving DecidableEq, Repr

/-- The members of the reply's `struct stat` that are set; all others are 0. -/
structure QnxStat where
  mode : UInt32
  uid : UInt32
  gid : UInt32
  nlink : UInt64
  size : Int64
  ino : UInt64
  deriving DecidableEq, Repr

/-- What a handler gives back to the client. -/
inductive Reply where
  | errno (e : Int32)
  /-- The `int` that `_IO_SET_READ_NBYTES` and `_IO_SET_WRITE_NBYTES` are given. -/
  | nbytes (n : Int32)
  | data (bytes : Bytes)
  | dirents (entries : List Dirent)
  | stat (s : QnxStat)
  /-- The handler has no defined result or has not returned yet. -/
  | stuck
  deriving DecidableEq, Repr

variable {σ : Type}

/-- QNX has the access mode as a bitmask, Linux as an enumeration. -/
def translateQnxToLinuxFlags (q : Qnx) (ioflag : UInt32) : UInt32 :=
  let hasRead := ioflag &&& 0x01 ≠ 0
  let hasWrite := ioflag &&& 0x02 ≠ 0
  let access : UInt32 :=
    if hasRead ∧ hasWrite then linuxORdwr else if hasWrite then linuxOWronly else 0
  let trunc : UInt32 := if ioflag &&& q.oTrunc ≠ 0 then linuxOTrunc else 0
  -- the QNX value of O_APPEND
  let append : UInt32 := if ioflag &&& 0x08 ≠ 0 then linuxOAppend else 0
  access ||| trunc ||| append

/-! ### Connect handlers -/

/-- The last part of `ConnectOpen`: let `iofunc_open_default` set up the OCB, with the
creation flags stripped. `openDefault mode ioflag` is its result; on success it has
allocated one extended OCB, which is filled in here. -/
def openOcb (T : Transport σ) (q : Qnx) (openDefault : UInt32 → UInt32 → Int32) (ioflag : UInt32)
    (data : Virtio9pOcb) (stat : NinePStat) (w : Link σ) : (Int32 × Option ExtOcb) × Link σ :=
  let result := openDefault stat.mode (ioflag &&& ~~~(q.oCreat ||| q.oExcl ||| q.oTrunc))
  if result ≠ eok then ((result, none), (clunk T data.fid w).2)
  else ((eok, some ⟨0, stat.mode, stat.size.toInt64, data⟩), w)

/-- The path that `ConnectOpen` walks. -/
def openPath (msg : IoConnect) : Bytes := if msg.path = [] then [47] else msg.path

def connectOpen (T : Transport σ) (q : Qnx) (openDefault : UInt32 → UInt32 → Int32)
    (msg : IoConnect) (w : Link σ) : (Int32 × Option ExtOcb) × Link σ :=
  let path := openPath msg
  let wantCreate := msg.ioflag &&& q.oCreat ≠ 0
  let linuxFlags := translateQnxToLinuxFlags q msg.ioflag
  match walk T path w with
  | (.ok fid, w) =>
    -- path exists: open it
    match openFid T fid linuxFlags w with
    | (.error rc, w) => ((-rc, none), (clunk T fid w).2)
    | (.ok iounit, w) =>
      -- a failing GetAttr leaves the zero-initialised stat
      let attr := getAttr T fid w
      let stat := match attr.1 with
        | .ok stat => stat
        | .error _ => NinePStat.zero
      openOcb T q openDefault msg.ioflag
        ⟨fid, 0, iounit, stat.mode &&& 0o040000 ≠ 0, linuxFlags⟩ stat attr.2
  | (.error rc, w) =>
    if rc = -enoent ∧ wantCreate then
      match walkParent T path w with
      | (.error rc, w) => ((-rc, none), w)
      | (.ok (parentFid, basename), w) =>
        match create T parentFid basename (linuxFlags ||| linuxOCreat) 0o644 0 w with
        | (.error rc, w) => ((-rc, none), (clunk T parentFid w).2)
        | (.ok (_, iounit), w) =>
          -- after Tlcreate the parent fid stands for the new open file
          openOcb T q openDefault msg.ioflag ⟨parentFid, 0, iounit, false, linuxFlags⟩
            { NinePStat.zero with mode := 0o100644 } w
    else ((-rc, none), w)

/-- `S_ISDIR` -/
def sIsdir (mode : UInt32) : Bool := mode &&& 0o170000 = 0o040000

def connectMknod (T : Transport σ) (msg : IoConnect) (w : Link σ) : Int32 × Link σ :=
  if msg.path = [] then (einval, w)
  else if ¬ sIsdir msg.mode then (enotsup, w)
  else
    match walkParent T msg.path w with
    | (.error rc, w) => (-rc, w)
    | (.ok (parentFid, basename), w) =>
      let made := mkdir T parentFid basename (msg.mode &&& 0o777) 0 w
      let w := (clunk T parentFid made.2).2
      match made.1 with
      | .error rc => (-rc, w)
      | .ok _ => (eok, w)

/-- The flags for Tunlinkat: `AT_REMOVEDIR` if the target can be looked up and its mode
has the directory bit. -/
def unlinkFlags (T : Transport σ) (path : Bytes) (w : Link σ) : UInt32 × Link σ :=
  match walk T path w with
  | (.error _, w) => (0, w)
  | (.ok targetFid, w) =>
    let attr := getAttr T targetFid w
    let flags := match attr.1 with
      | .ok stat => if stat.mode &&& 0o040000 ≠ 0 then linuxAtRemovedir else 0
      | .error _ => 0
    (flags, (clunk T targetFid attr.2).2)

def connectUnlink (T : Transport σ) (msg : IoConnect) (w : Link σ) : Int32 × Link σ :=
  if msg.path = [] then (einval, w)
  else
    match walkParent T msg.path w with
    | (.error rc, w) => (-rc, w)
    | (.ok (parentFid, basename), w) =>
      -- the target is walked to for its mode
      let flags := unlinkFlags T msg.path w
      let unlinked := unlink T parentFid basename flags.1 flags.2
      let w := (clunk T parentFid unlinked.2).2
      match unlinked.1 with
      | .error rc => (-rc, w)
      | .ok _ => (eok, w)

def connectRename (T : Transport σ) (msg : IoRename) (w : Link σ) : Int32 × Link σ :=
  if msg.path = [] then (einval, w)
  else
    match walkParent T msg.path w with
    | (.error rc, w) => (-rc, w)
    | (.ok (oldParentFid, oldBasename), w) =>
      match walkParent T msg.newPath w with
      | (.error rc, w) => (-rc, (clunk T oldParentFid w).2)
      | (.ok (newParentFid, newBasename), w) =>
        let renamed := rename T oldParentFid oldBasename newParentFid newBasename w
        -- clunked whatever came out
        let w := (clunk T newParentFid (clunk T oldParentFid renamed.2).2).2
        match renamed.1 with
        | .error rc => (-rc, w)
        | .ok _ => (eok, w)

/-! ### I/O handlers -/

/-- Record length of a directory entry: the name and its NUL, rounded up to 8. -/
def direntReclen (q : Qnx) (nameLen : Nat) : Nat := (q.direntName + nameLen + 1 + 7) / 8 * 8

/-- The loop that packs directory entries into the reply until the next one does not
fit: the records, their total size and the cookie of the last one. -/
def packDirents (q : Qnx) (nbytes : UInt32) :
    List DirEntry → List Dirent → Nat → UInt64 → List Dirent × Nat × UInt64
  | [], buf, size, offset => (buf, size, offset)
  | entry :: entries, buf, size, offset =>
    let reclen := direntReclen q entry.name.length
    -- the first entry that does not fit ends the loop
    if size + reclen > nbytes.toNat then (buf, size, offset)
    else
      packDirents q nbytes entries
        (buf ++ [⟨entry.qid.path, entry.offset, Int16.ofNat reclen,
          Int16.ofNat entry.name.length, entry.name⟩]) (size + reclen) entry.offset

def ioRead (T : Transport σ) (q : Qnx) (msg : IoRead) (ocb : ExtOcb) (w : Link σ) :
    (Reply × ExtOcb) × Link σ :=
  if msg.verify ≠ eok then ((.errno msg.verify, ocb), w)
  else if ocb.data.isDirectory then
    match readDir T ocb.data.fid ocb.data.offset msg.nbytes w with
    | (none, w) => ((.stuck, ocb), w)
    | (some (.error rc), w) => ((.errno (-rc), ocb), w)
    | (some (.ok entries), w) =>
      let packed := packDirents q msg.nbytes entries [] 0 ocb.data.offset
      let data := { ocb.data with offset := packed.2.2 }
      -- end of directory
      if packed.1 = [] then ((.nbytes 0, { ocb with data := data }), w)
      else
        ((.dirents packed.1, { ocb with data := data, attrNbytes := Int64.ofNat packed.2.1 }), w)
  else
    match read T ocb.data.fid ocb.data.offset msg.nbytes w with
    | (none, w) => ((.stuck, ocb), w)
    | (some (result, bytes), w) =>
      if result < 0 then ((.errno (-result), ocb), w)
      -- EOF
      else if bytes = [] then ((.nbytes 0, ocb), w)
      else
        ((.data bytes,
          { ocb with
            data := { ocb.data with offset := ocb.data.offset + UInt64.ofNat bytes.length }
            attrNbytes := Int64.ofNat bytes.length }), w)

/-- The reply of `IoStat`: only the fields that a `struct stat` is filled with. -/
def qnxStat (q : Qnx) (p9stat : NinePStat) : QnxStat where
  mode := p9stat.mode
  uid := p9stat.uid
  gid := p9stat.gid
  nlink := p9stat.nlink &&& q.nlinkMax
  size := p9stat.size.toInt64
  ino := p9stat.qid.path

def ioStat (T : Transport σ) (q : Qnx) (ocb : ExtOcb) (w : Link σ) : Reply × Link σ :=
  match getAttr T ocb.data.fid w with
  | (.error rc, w) => (.errno (-rc), w)
  | (.ok p9stat, w) => (.stat (qnxStat q p9stat), w)

/-- Everything about a write that stays fixed while its chunks are sent. -/
structure WritePlan where
  fid : UInt32
  offset : UInt64
  nbytes : UInt32
  headerSize : Nat
  inlineBytes : UInt32
  chunkSize : UInt32

/-- The part of the payload that is in the receive buffer. -/
def inlineBytes (msg : IoWrite) (headerSize : Nat) : UInt32 :=
  let headerEnd := msg.ctpOffset + headerSize
  let available := if msg.msglen > headerEnd then msg.msglen - headerEnd else 0
  if available < msg.nbytes.toNat then UInt32.ofNat available else msg.nbytes

def chunkSize (ocb : ExtOcb) : UInt32 :=
  if ocb.data.iounit > 0 then ocb.data.iounit else maxMessageSize - 128

def planAt (msg : IoWrite) (ocb : ExtOcb) (offset : UInt64) (headerSize : Nat) : WritePlan where
  fid := ocb.data.fid
  offset := offset
  nbytes := msg.nbytes
  headerSize := headerSize
  inlineBytes := inlineBytes msg headerSize
  chunkSize := chunkSize ocb

/-- The offset and header size of a write message, or `ENOSYS` for an unknown xtype. -/
def writePlan (q : Qnx) (msg : IoWrite) (ocb : ExtOcb) : Except Int32 WritePlan :=
  match msg.xtype with
  | .offset offset => .ok (planAt msg ocb offset (q.sizeofIoWrite + q.sizeofXtypeOffset))
  | .none => .ok (planAt msg ocb ocb.data.offset q.sizeofIoWrite)
  | .other => .error enosys

/-- Size of the next chunk. -/
def nextChunk (plan : WritePlan) (totalWritten : UInt32) : UInt32 :=
  let rest := plan.nbytes - totalWritten
  if rest > plan.chunkSize then plan.chunkSize else rest

/-- How much of the chunk is in the receive buffer. -/
def inlinePart (plan : WritePlan) (totalWritten toWrite : UInt32) : UInt32 :=
  if totalWritten < plan.inlineBytes then
    if plan.inlineBytes - totalWritten > toWrite then toWrite else plan.inlineBytes - totalWritten
  else 0

/-- The bytes of one chunk: those in the receive buffer, then those read from the client. -/
def writeChunk (msg : IoWrite) (plan : WritePlan) (round : Nat) (totalWritten : UInt32) :
    Except Int32 Bytes :=
  let toWrite := nextChunk plan totalWritten
  let copied := inlinePart plan totalWritten toWrite
  let buf := (List.range copied.toNat).map fun i =>
    msg.memory (plan.headerSize + totalWritten.toNat + i)
  if copied < toWrite then
    let overflowOffset := msg.ctpOffset + plan.headerSize + totalWritten.toNat + copied.toNat
    match msg.msgread round (toWrite - copied).toNat overflowOffset with
    | .error errno => .error errno
    | .ok bytes => .ok (buf ++ bytes)
  else .ok buf

/-- The chunk loop of `IoWrite`, for at most `fuel` more rounds; `none` if it has not ended
by then. -/
def writeLoop (T : Transport σ) (msg : IoWrite) (plan : WritePlan) :
    Nat → Nat → UInt32 → Link σ → Option (Except Int32 UInt32) × Link σ
  | fuel, round, totalWritten, w =>
    if totalWritten < plan.nbytes then
      match fuel with
      | 0 => (none, w)
      | fuel + 1 =>
        match writeChunk msg plan round totalWritten with
        | .error errno => (some (.error errno), w)
        | .ok buf =>
          -- what was read from the client may be less than the chunk
          let copied := UInt32.ofNat buf.length
          let sent := write T plan.fid (plan.offset + totalWritten.toUInt64) buf copied w
          if sent.1 < 0 then (some (.error (-sent.1)), sent.2)
          -- short write from the server
          else if sent.1.toUInt32 < copied then
            (some (.ok (totalWritten + sent.1.toUInt32)), sent.2)
          else writeLoop T msg plan fuel (round + 1) (totalWritten + sent.1.toUInt32) sent.2
    else (some (.ok totalWritten), w)

/-- The OCB after a write of `totalWritten` bytes at `offset`. -/
def writtenOcb (msg : IoWrite) (offset : UInt64) (totalWritten : UInt32) (ocb : ExtOcb) : ExtOcb :=
  let endOffset := (offset + totalWritten.toUInt64).toInt64
  { ocb with
    data := match msg.xtype with
      | .offset _ => ocb.data
      | _ => { ocb.data with offset := ocb.data.offset + totalWritten.toUInt64 }
    attrNbytes := if endOffset > ocb.attrNbytes then endOffset else ocb.attrNbytes }

def ioWrite (T : Transport σ) (q : Qnx) (fuel : Nat) (msg : IoWrite) (ocb : ExtOcb) (w : Link σ) :
    (Reply × ExtOcb) × Link σ :=
  if msg.verify ≠ eok then ((.errno msg.verify, ocb), w)
  else if msg.nbytes = 0 then ((.nbytes 0, ocb), w)
  else
    match writePlan q msg ocb with
    | .error errno => ((.errno errno, ocb), w)
    | .ok plan =>
      match writeLoop T msg plan fuel 0 0 w with
      | (none, w) => ((.stuck, ocb), w)
      | (some (.error errno), w) => ((.errno errno, ocb), w)
      | (some (.ok totalWritten), w) =>
        -- the count is cast to an int
        ((.nbytes totalWritten.toInt32, writtenOcb msg plan.offset totalWritten ocb), w)

/-! The handlers leave what an OCB stands for as it is. -/

theorem ioRead_same (T : Transport σ) (q : Qnx) (msg : IoRead) (ocb : ExtOcb) (w : Link σ) :
    (ioRead T q msg ocb w).1.2.data.isDirectory = ocb.data.isDirectory ∧
      (ioRead T q msg ocb w).1.2.data.fid = ocb.data.fid := by
  unfold ioRead
  split
  · exact ⟨rfl, rfl⟩
  · split
    · split
      · exact ⟨rfl, rfl⟩
      · exact ⟨rfl, rfl⟩
      · simp only
        split <;> exact ⟨rfl, rfl⟩
    · split
      · exact ⟨rfl, rfl⟩
      · split
        · exact ⟨rfl, rfl⟩
        · split <;> exact ⟨rfl, rfl⟩

theorem ioWrite_same (T : Transport σ) (q : Qnx) (fuel : Nat) (msg : IoWrite) (ocb : ExtOcb)
    (w : Link σ) :
    (ioWrite T q fuel msg ocb w).1.2.data.isDirectory = ocb.data.isDirectory ∧
      (ioWrite T q fuel msg ocb w).1.2.data.fid = ocb.data.fid := by
  unfold ioWrite
  split
  · exact ⟨rfl, rfl⟩
  · split
    · exact ⟨rfl, rfl⟩
    · split
      · exact ⟨rfl, rfl⟩
      · split
        · exact ⟨rfl, rfl⟩
        · exact ⟨rfl, rfl⟩
        · simp only [writtenOcb]
          cases msg.xtype <;> exact ⟨rfl, rfl⟩

def ioCloseOcb (T : Transport σ) (ocb : ExtOcb) (w : Link σ) : Link σ :=
  (clunk T ocb.data.fid w).2

/-! ### Runs of handlers -/

/-- The driver while it dispatches: the session and the open OCBs. -/
structure Driver (σ : Type) where
  link : Link σ
  ocbs : List ExtOcb

/-- One message of the dispatch loop. I/O messages name an open OCB by its position. -/
inductive Call where
  | connectOpen (msg : IoConnect) (openDefault : UInt32 → UInt32 → Int32)
  | connectMknod (msg : IoConnect)
  | connectUnlink (msg : IoConnect)
  | connectRename (msg : IoRename)
  | ioRead (ocb : Nat) (msg : IoRead)
  | ioWrite (ocb : Nat) (msg : IoWrite) (fuel : Nat)
  | ioStat (ocb : Nat)
  | ioCloseOcb (ocb : Nat)

def Driver.handle (T : Transport σ) (q : Qnx) (d : Driver σ) : Call → Reply × Driver σ
  | .connectOpen msg openDefault =>
    let result := connectOpen T q openDefault msg d.link
    (.errno result.1.1, ⟨result.2, d.ocbs ++ result.1.2.toList⟩)
  | .connectMknod msg =>
    let result := connectMknod T msg d.link
    (.errno result.1, { d with link := result.2 })
  | .connectUnlink msg =>
    let result := connectUnlink T msg d.link
    (.errno result.1, { d with link := result.2 })
  | .connectRename msg =>
    let result := connectRename T msg d.link
    (.errno result.1, { d with link := result.2 })
  | .ioRead i msg =>
    match d.ocbs[i]? with
    | none => (.stuck, d)
    | some ocb =>
      let result := ioRead T q msg ocb d.link
      (result.1.1, ⟨result.2, d.ocbs.set i result.1.2⟩)
  | .ioWrite i msg fuel =>
    match d.ocbs[i]? with
    | none => (.stuck, d)
    | some ocb =>
      let result := ioWrite T q fuel msg ocb d.link
      (result.1.1, ⟨result.2, d.ocbs.set i result.1.2⟩)
  | .ioStat i =>
    match d.ocbs[i]? with
    | none => (.stuck, d)
    | some ocb =>
      let result := ioStat T q ocb d.link
      (result.1, { d with link := result.2 })
  | .ioCloseOcb i =>
    match d.ocbs[i]? with
    | none => (.stuck, d)
    | some ocb => (.errno eok, ⟨ioCloseOcb T ocb d.link, d.ocbs.eraseIdx i⟩)

/-- The dispatch loop. -/
def driver (T : Transport σ) (q : Qnx) : Machine Call Reply (Driver σ) where
  step call d := d.handle T q call

end Virtio9p
