import Virtio9p.Foundation.Cursor
import Virtio9p.Protocol.Types

/-!
# NinePMessage

The encoder and decoder helpers over a raw wire buffer, the request builders and
the response parsers. The decoder helpers keep the driver's 32-bit arithmetic on
the read offset, so that a length near `2 ^ 32` can pass a bounds check; `fault`
records what the code has no defined behaviour for.
-/
namespace Virtio9p

structure NinePMessage where
  data : Bytes
  readOffset : UInt32
  /-- Ghost: a decoder call has read outside `data`, or its loop never ends. -/
  fault : Bool
  deriving DecidableEq, Repr

namespace NinePMessage

/-- An empty message for building a request. -/
def empty : NinePMessage := ⟨[], headerSize, false⟩

/-- A message over a raw wire buffer. -/
def ofData (data : Bytes) : NinePMessage := ⟨data, headerSize, false⟩

/-! ### Encoder helpers -/

def putU8 (m : NinePMessage) (value : UInt8) : NinePMessage :=
  { m with data := m.data ++ [value] }

def putU16 (m : NinePMessage) (value : UInt16) : NinePMessage :=
  { m with data := m.data ++ [(value &&& 0xFF).toUInt8, ((value >>> 8) &&& 0xFF).toUInt8] }

def putU32 (m : NinePMessage) (value : UInt32) : NinePMessage :=
  { m with data := m.data ++
      [(value &&& 0xFF).toUInt8, ((value >>> 8) &&& 0xFF).toUInt8,
        ((value >>> 16) &&& 0xFF).toUInt8, ((value >>> 24) &&& 0xFF).toUInt8] }

def putU64 (m : NinePMessage) (value : UInt64) : NinePMessage :=
  (m.putU32 (value &&& 0xFFFFFFFF).toUInt32).putU32 ((value >>> 32) &&& 0xFFFFFFFF).toUInt32

def putString (m : NinePMessage) (value : Bytes) : NinePMessage :=
  let m := m.putU16 (UInt16.ofNat value.length)
  { m with data := m.data ++ value }

/-- `bytes` points at no fewer than `length` bytes. -/
def putBytes (m : NinePMessage) (bytes : Bytes) (length : UInt32) : NinePMessage :=
  { m with data := m.data ++ bytes.take length.toNat }

def beginMessage (m : NinePMessage) (type : MessageType) (tag : UInt16) : NinePMessage :=
  (({ m with data := [], readOffset := headerSize }.putU32 0).putU8 type.code).putU16 tag

/-- Patch the size field at offset 0. -/
def endMessage (m : NinePMessage) : NinePMessage :=
  let size := UInt32.ofNat m.data.length
  { m with data :=
      (((m.data.set 0 (size &&& 0xFF).toUInt8).set 1 ((size >>> 8) &&& 0xFF).toUInt8).set
        2 ((size >>> 16) &&& 0xFF).toUInt8).set 3 ((size >>> 24) &&& 0xFF).toUInt8 }

/-! ### Header accessors -/

/-- `data_[i]`, whatever it may be past the end. -/
def byteAt (m : NinePMessage) (i : UInt32) : UInt8 := m.data.getD i.toNat 0

def getType (m : NinePMessage) : UInt8 :=
  if m.data.length < headerSize.toNat then MessageType.tlerror.code else m.byteAt 4

def getTag (m : NinePMessage) : UInt16 :=
  if m.data.length < headerSize.toNat then 0
  else (m.byteAt 5).toUInt16 ||| ((m.byteAt 6).toUInt16 <<< 8)

def getSize (m : NinePMessage) : UInt32 :=
  if m.data.length < 4 then 0
  else (m.byteAt 0).toUInt32 ||| ((m.byteAt 1).toUInt32 <<< 8) |||
    ((m.byteAt 2).toUInt32 <<< 16) ||| ((m.byteAt 3).toUInt32 <<< 24)

/-- One of the indices `read_offset_ + 0 .. read_offset_ + (n - 1)` is outside the
buffer. -/
def outside (m : NinePMessage) (n : Nat) : Bool :=
  (List.range n).any fun k => decide (m.data.length ≤ (m.readOffset + UInt32.ofNat k).toNat)

/-- Move the read offset over `n` bytes. -/
def advance (m : NinePMessage) (n : UInt32) (fault : Bool) : NinePMessage :=
  { m with readOffset := m.readOffset + n, fault := m.fault || fault }

end NinePMessage

/-! ### Decoder helpers -/

abbrev Decoder := StateM NinePMessage

def resetReadOffset : Decoder Unit := fun m => ((), { m with readOffset := headerSize })

def getU8 : Decoder UInt8 := fun m =>
  if m.data.length ≤ m.readOffset.toNat then (0, m)
  else (m.byteAt m.readOffset, m.advance 1 false)

def getU16 : Decoder UInt16 := fun m =>
  if m.data.length < (m.readOffset + 2).toNat then (0, m)
  else
    ((m.byteAt m.readOffset).toUInt16 ||| ((m.byteAt (m.readOffset + 1)).toUInt16 <<< 8),
      m.advance 2 (m.outside 2))

def getU32 : Decoder UInt32 := fun m =>
  if m.data.length < (m.readOffset + 4).toNat then (0, m)
  else
    ((m.byteAt m.readOffset).toUInt32 ||| ((m.byteAt (m.readOffset + 1)).toUInt32 <<< 8) |||
        ((m.byteAt (m.readOffset + 2)).toUInt32 <<< 16) |||
        ((m.byteAt (m.readOffset + 3)).toUInt32 <<< 24),
      m.advance 4 (m.outside 4))

def getU64 : Decoder UInt64 := do
  let low ← getU32
  let high ← getU32
  pure (low.toUInt64 ||| (high.toUInt64 <<< 32))

/-- The range check adds in 32 bits; the iterators then add in 64, so a sum that
wraps reaches past the end of the buffer. -/
def getBytes (length : UInt32) : Decoder Bytes := fun m =>
  if m.data.length < (m.readOffset + length).toNat then ([], m)
  else
    ((m.data.drop m.readOffset.toNat).take length.toNat,
      m.advance length (m.data.length < m.readOffset.toNat + length.toNat))

/-- `GetString` checks and copies as `GetBytes` does, after reading the length. -/
def getString : Decoder Bytes := do
  let len ← getU16
  getBytes len.toUInt32

def getQid : Decoder Qid := do
  let type ← getU8
  let version ← getU32
  let path ← getU64
  pure ⟨type, version, path⟩

/-! ### Request builders -/

open NinePMessage

def buildTversion (maxSize : UInt32) (version : Bytes) : NinePMessage :=
  empty.beginMessage .tversion noTag |>.putU32 maxSize |>.putString version |>.endMessage

def buildTattach (tag : UInt16) (fid afid : UInt32) (uname aname : Bytes) (nUname : UInt32) :
    NinePMessage :=
  empty.beginMessage .tattach tag |>.putU32 fid |>.putU32 afid |>.putString uname
    |>.putString aname |>.putU32 nUname |>.endMessage

def buildTwalk (tag : UInt16) (fid newfid : UInt32) (names : List Bytes) : NinePMessage :=
  let header := empty.beginMessage .twalk tag |>.putU32 fid |>.putU32 newfid
    |>.putU16 (UInt16.ofNat names.length)
  (names.foldl putString header).endMessage

def buildTlopen (tag : UInt16) (fid flags : UInt32) : NinePMessage :=
  empty.beginMessage .tlopen tag |>.putU32 fid |>.putU32 flags |>.endMessage

def buildTread (tag : UInt16) (fid : UInt32) (offset : UInt64) (count : UInt32) : NinePMessage :=
  empty.beginMessage .tread tag |>.putU32 fid |>.putU64 offset |>.putU32 count |>.endMessage

def buildTclunk (tag : UInt16) (fid : UInt32) : NinePMessage :=
  empty.beginMessage .tclunk tag |>.putU32 fid |>.endMessage

def buildTgetattr (tag : UInt16) (fid : UInt32) (requestMask : UInt64) : NinePMessage :=
  empty.beginMessage .tgetattr tag |>.putU32 fid |>.putU64 requestMask |>.endMessage

def buildTreaddir (tag : UInt16) (fid : UInt32) (offset : UInt64) (count : UInt32) :
    NinePMessage :=
  empty.beginMessage .treaddir tag |>.putU32 fid |>.putU64 offset |>.putU32 count |>.endMessage

def buildTwrite (tag : UInt16) (fid : UInt32) (offset : UInt64) (data : Bytes) (count : UInt32) :
    NinePMessage :=
  empty.beginMessage .twrite tag |>.putU32 fid |>.putU64 offset |>.putU32 count
    |>.putBytes data count |>.endMessage

def buildTlcreate (tag : UInt16) (fid : UInt32) (name : Bytes) (flags mode gid : UInt32) :
    NinePMessage :=
  empty.beginMessage .tlcreate tag |>.putU32 fid |>.putString name |>.putU32 flags
    |>.putU32 mode |>.putU32 gid |>.endMessage

def buildTmkdir (tag : UInt16) (dfid : UInt32) (name : Bytes) (mode gid : UInt32) :
    NinePMessage :=
  empty.beginMessage .tmkdir tag |>.putU32 dfid |>.putString name |>.putU32 mode
    |>.putU32 gid |>.endMessage

def buildTunlinkat (tag : UInt16) (dirfid : UInt32) (name : Bytes) (flags : UInt32) :
    NinePMessage :=
  empty.beginMessage .tunlinkat tag |>.putU32 dirfid |>.putString name |>.putU32 flags
    |>.endMessage

def buildTrenameat (tag : UInt16) (olddirfid : UInt32) (oldname : Bytes) (newdirfid : UInt32)
    (newname : Bytes) : NinePMessage :=
  empty.beginMessage .trenameat tag |>.putU32 olddirfid |>.putString oldname
    |>.putU32 newdirfid |>.putString newname |>.endMessage

/-! ### Response parsers

`none` stands for the return value `false`. -/

/-- Check the type byte, go back to the end of the header and read the payload. -/
def parsePayload {α : Type} (type : MessageType) (payload : Decoder α) : Decoder (Option α) :=
  fun m =>
    if m.getType ≠ type.code then (none, m)
    else (do resetReadOffset; let a ← payload; pure (some a) : Decoder (Option α)) m

/-- A response without payload: only the type byte is looked at. -/
def parseHeader (type : MessageType) : Decoder (Option Unit) := fun m =>
  (if m.getType = type.code then some () else none, m)

/-- The error number of an Rlerror, read from a copy of the message. -/
def isRlerror (m : NinePMessage) : Option UInt32 :=
  if m.getType ≠ MessageType.rlerror.code then none
  else some (getU32 (ofData m.data)).1

def rversionFields : Decoder (UInt32 × Bytes) := do
  let maxSize ← getU32
  let version ← getString
  pure (maxSize, version)

def parseRversion : Decoder (Option (UInt32 × Bytes)) := parsePayload .rversion rversionFields

def parseRattach : Decoder (Option Qid) := parsePayload .rattach getQid

/-- The qids are appended to the caller's list. -/
def rwalkFields (qids : List Qid) : Decoder (List Qid) := do
  let nwqid ← getU16
  Cursor.collect getQid nwqid.toNat qids

def parseRwalk (qids : List Qid) : Decoder (Option (List Qid)) :=
  parsePayload .rwalk (rwalkFields qids)

def qidAndIounit : Decoder (Qid × UInt32) := do
  let qid ← getQid
  let iounit ← getU32
  pure (qid, iounit)

def parseRlopen : Decoder (Option (Qid × UInt32)) := parsePayload .rlopen qidAndIounit

def rreadFields : Decoder Bytes := do
  let count ← getU32
  getBytes count

def parseRread : Decoder (Option Bytes) := parsePayload .rread rreadFields

def parseRclunk : Decoder (Option Unit) := parseHeader .rclunk

def rgetattrFields : Decoder NinePStat := do
  let valid ← getU64
  let qid ← getQid
  let mode ← getU32
  let uid ← getU32
  let gid ← getU32
  let nlink ← getU64
  let rdev ← getU64
  let size ← getU64
  let blksize ← getU64
  let blocks ← getU64
  let atimeSec ← getU64
  let atimeNsec ← getU64
  let mtimeSec ← getU64
  let mtimeNsec ← getU64
  let ctimeSec ← getU64
  let ctimeNsec ← getU64
  let btimeSec ← getU64
  let btimeNsec ← getU64
  let gen ← getU64
  let dataVersion ← getU64
  pure ⟨valid, qid, mode, uid, gid, nlink, rdev, size, blksize, blocks, atimeSec, atimeNsec,
    mtimeSec, mtimeNsec, ctimeSec, ctimeNsec, btimeSec, btimeNsec, gen, dataVersion⟩

def parseRgetattr : Decoder (Option NinePStat) := parsePayload .rgetattr rgetattrFields

def getDirEntry : Decoder DirEntry := do
  let qid ← getQid
  let offset ← getU64
  let type ← getU8
  let name ← getString
  pure ⟨qid, offset, type, name⟩

/-- The `while (bytes_consumed < count)` loop of `ParseRreaddir`, for at most `fuel`
rounds; `none` if it has not ended by then. -/
def readdirLoop (count : UInt32) : Nat → UInt32 → List DirEntry → Decoder (Option (List DirEntry))
  | fuel, bytesConsumed, entries =>
    if bytesConsumed < count then
      match fuel with
      | 0 => pure none
      | fuel + 1 => do
        let entry ← getDirEntry
        readdirLoop count fuel
          (bytesConsumed + (13 + 8 + 1 + 2 + UInt32.ofNat entry.name.length)) (entries ++ [entry])
    else pure (some entries)

/-- Every round takes a byte of the buffer until none is left; from then on only the
32-bit counter moves. A loop that outlives both never ends. -/
def readdirRounds (m : NinePMessage) : Nat := m.data.length + 2 ^ 32

def readdirWithin (rounds : Nat) (count : UInt32) (entries : List DirEntry) :
    Decoder (List DirEntry) := fun m =>
  match readdirLoop count rounds 0 entries m with
  | (some entries, m) => (entries, m)
  | (none, m) => (entries, { m with fault := true })

def getDirEntries (count : UInt32) (entries : List DirEntry) : Decoder (List DirEntry) := fun m =>
  readdirWithin (readdirRounds m) count entries m

/-- The entries are appended to the caller's list. -/
def rreaddirFields (entries : List DirEntry) : Decoder (List DirEntry) := do
  let count ← getU32
  getDirEntries count entries

def parseRreaddir (entries : List DirEntry) : Decoder (Option (List DirEntry)) :=
  parsePayload .rreaddir (rreaddirFields entries)

def parseRwrite : Decoder (Option UInt32) := parsePayload .rwrite getU32

def parseRlcreate : Decoder (Option (Qid × UInt32)) := parsePayload .rlcreate qidAndIounit

def parseRmkdir : Decoder (Option Qid) := parsePayload .rmkdir getQid

def parseRunlinkat : Decoder (Option Unit) := parseHeader .runlinkat

def parseRrenameat : Decoder (Option Unit) := parseHeader .rrenameat

end Virtio9p
