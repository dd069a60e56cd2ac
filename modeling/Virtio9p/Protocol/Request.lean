import Virtio9p.Protocol.Response

/-!
# Requests

The calls of the request builders as values, the bytes they produce, and a reader that
goes through these bytes with the decoder helpers in the field order of the protocol.
-/
namespace Virtio9p

open Cursor NinePMessage

/-- A builder with its arguments other than the tag. -/
inductive Request where
  | tversion (maxSize : UInt32) (version : Bytes)
  | tattach (fid afid : UInt32) (uname aname : Bytes) (nUname : UInt32)
  | twalk (fid newfid : UInt32) (names : List Bytes)
  | tlopen (fid flags : UInt32)
  | tread (fid : UInt32) (offset : UInt64) (count : UInt32)
  | tclunk (fid : UInt32)
  | tgetattr (fid : UInt32) (requestMask : UInt64)
  | treaddir (fid : UInt32) (offset : UInt64) (count : UInt32)
  | twrite (fid : UInt32) (offset : UInt64) (data : Bytes)
  | tlcreate (fid : UInt32) (name : Bytes) (flags mode gid : UInt32)
  | tmkdir (dfid : UInt32) (name : Bytes) (mode gid : UInt32)
  | tunlinkat (dirfid : UInt32) (name : Bytes) (flags : UInt32)
  | trenameat (olddirfid : UInt32) (oldname : Bytes) (newdirfid : UInt32) (newname : Bytes)
  deriving DecidableEq, Repr

namespace Request

def type : Request → MessageType
  | tversion _ _ => .tversion
  | tattach _ _ _ _ _ => .tattach
  | twalk _ _ _ => .twalk
  | tlopen _ _ => .tlopen
  | tread _ _ _ => .tread
  | tclunk _ => .tclunk
  | tgetattr _ _ => .tgetattr
  | treaddir _ _ _ => .treaddir
  | twrite _ _ _ => .twrite
  | tlcreate _ _ _ _ _ => .tlcreate
  | tmkdir _ _ _ _ => .tmkdir
  | tunlinkat _ _ _ => .tunlinkat
  | trenameat _ _ _ _ => .trenameat

/-- `BuildTversion` takes no tag. -/
def sentTag (tag : UInt16) : Request → UInt16
  | tversion _ _ => noTag
  | _ => tag

/-- Call the builder. -/
def build (tag : UInt16) : Request → NinePMessage
  | tversion maxSize version => buildTversion maxSize version
  | tattach fid afid uname aname nUname => buildTattach tag fid afid uname aname nUname
  | twalk fid newfid names => buildTwalk tag fid newfid names
  | tlopen fid flags => buildTlopen tag fid flags
  | tread fid offset count => buildTread tag fid offset count
  | tclunk fid => buildTclunk tag fid
  | tgetattr fid requestMask => buildTgetattr tag fid requestMask
  | treaddir fid offset count => buildTreaddir tag fid offset count
  | twrite fid offset data => buildTwrite tag fid offset data (UInt32.ofNat data.length)
  | tlcreate fid name flags mode gid => buildTlcreate tag fid name flags mode gid
  | tmkdir dfid name mode gid => buildTmkdir tag dfid name mode gid
  | tunlinkat dirfid name flags => buildTunlinkat tag dirfid name flags
  | trenameat olddirfid oldname newdirfid newname =>
    buildTrenameat tag olddirfid oldname newdirfid newname

/-- The fids that name what a request works on. -/
def fids : Request → List UInt32
  | tversion _ _ => []
  | tattach _ _ _ _ _ => []
  | twalk fid _ _ => [fid]
  | tlopen fid _ => [fid]
  | tread fid _ _ => [fid]
  | tclunk fid => [fid]
  | tgetattr fid _ => [fid]
  | treaddir fid _ _ => [fid]
  | twrite fid _ _ => [fid]
  | tlcreate fid _ _ _ _ => [fid]
  | tmkdir dfid _ _ _ => [dfid]
  | tunlinkat dirfid _ _ => [dirfid]
  | trenameat olddirfid _ newdirfid _ => [olddirfid, newdirfid]

/-- The fid that a Twalk asks the server to bind. -/
def newfid : Request → Option UInt32
  | twalk _ newfid _ => some newfid
  | _ => none

/-- The fids in the bytes of a request. -/
def carried (r : Request) : List UInt32 := r.fids ++ r.newfid.toList

/-- The requests that change files. -/
def modifies : Request → Bool
  | twrite _ _ _ => true
  | tlcreate _ _ _ _ _ => true
  | tmkdir _ _ _ _ => true
  | tunlinkat _ _ _ => true
  | trenameat _ _ _ _ => true
  | _ => false

/-- The strings, name lists and data of a request fit their length fields. -/
def Fits : Request → Prop
  | tversion _ version => version.length < 2 ^ 16
  | tattach _ _ uname aname _ => uname.length < 2 ^ 16 ∧ aname.length < 2 ^ 16
  | twalk _ _ names => names.length < 2 ^ 16 ∧ ∀ name ∈ names, name.length < 2 ^ 16
  | twrite _ _ data => data.length < 2 ^ 32
  | tlcreate _ name _ _ _ => name.length < 2 ^ 16
  | tmkdir _ name _ _ => name.length < 2 ^ 16
  | tunlinkat _ name _ => name.length < 2 ^ 16
  | trenameat _ oldname _ newname => oldname.length < 2 ^ 16 ∧ newname.length < 2 ^ 16
  | _ => True

instance (r : Request) : Decidable r.Fits := by
  cases r <;> unfold Fits <;> infer_instance

/-- What follows the header. -/
def payload : Request → Bytes
  | tversion maxSize version => Wire.u32 maxSize ++ Wire.str version
  | tattach fid afid uname aname nUname =>
    Wire.u32 fid ++ (Wire.u32 afid ++ (Wire.str uname ++ (Wire.str aname ++ Wire.u32 nUname)))
  | twalk fid newfid names =>
    Wire.u32 fid ++ (Wire.u32 newfid ++
      (Wire.u16 (UInt16.ofNat names.length) ++ names.flatMap Wire.str))
  | tlopen fid flags => Wire.u32 fid ++ Wire.u32 flags
  | tread fid offset count => Wire.u32 fid ++ (Wire.u64 offset ++ Wire.u32 count)
  | tclunk fid => Wire.u32 fid
  | tgetattr fid requestMask => Wire.u32 fid ++ Wire.u64 requestMask
  | treaddir fid offset count => Wire.u32 fid ++ (Wire.u64 offset ++ Wire.u32 count)
  | twrite fid offset data =>
    Wire.u32 fid ++ (Wire.u64 offset ++ (Wire.u32 (UInt32.ofNat data.length) ++
      data.take (UInt32.ofNat data.length).toNat))
  | tlcreate fid name flags mode gid =>
    Wire.u32 fid ++ (Wire.str name ++ (Wire.u32 flags ++ (Wire.u32 mode ++ Wire.u32 gid)))
  | tmkdir dfid name mode gid =>
    Wire.u32 dfid ++ (Wire.str name ++ (Wire.u32 mode ++ Wire.u32 gid))
  | tunlinkat dirfid name flags => Wire.u32 dirfid ++ (Wire.str name ++ Wire.u32 flags)
  | trenameat olddirfid oldname newdirfid newname =>
    Wire.u32 olddirfid ++ (Wire.str oldname ++ (Wire.u32 newdirfid ++ Wire.str newname))

/-! ### The bytes of a request -/

private theorem endMessage_framed (m : NinePMessage) (type : MessageType) (tag : UInt16)
    (payload : Bytes)
    (body : m.data = Wire.u32 0 ++ (Wire.u8 type.code ++ Wire.u16 tag) ++ payload) :
    m.endMessage.data = header (UInt32.ofNat (7 + payload.length)) type tag ++ payload := by
  rw [List.append_assoc, List.append_assoc] at body
  rw [endMessage_data m 0 _ body]
  have size : 4 + (Wire.u8 type.code ++ (Wire.u16 tag ++ payload)).length =
      7 + payload.length := by
    simp only [List.length_append, Wire.u8_length, Wire.u16_length]
    omega
  rw [size, header, List.append_assoc, List.append_assoc]

theorem build_data (r : Request) (tag : UInt16) :
    (r.build tag).data =
      header (UInt32.ofNat (7 + r.payload.length)) r.type (r.sentTag tag) ++ r.payload := by
  cases r <;> refine endMessage_framed _ _ _ _ ?_ <;>
    simp only [putU16_data, putU32_data, putU64_data, putString_data, putBytes_data,
      putStrings_data, beginMessage_data, type, payload, sentTag, List.append_assoc]

theorem build_length (r : Request) (tag : UInt16) :
    (r.build tag).data.length = 7 + r.payload.length := by
  rw [build_data, List.length_append, header_length]

theorem drop_build (r : Request) (tag : UInt16) (n : Nat) :
    (r.build tag).data.drop (7 + n) = r.payload.drop n := by
  rw [← List.drop_drop, drop_header (r.build_data tag)]

theorem type_build (r : Request) (tag : UInt16) : (r.build tag).data.getD 4 0 = r.type.code := by
  rw [r.build_data tag]
  rfl

theorem tag_build (r : Request) (tag : UInt16) :
    UInt16.ofNat (LittleEndian.decode (((r.build tag).data.drop 5).take 2)) = r.sentTag tag := by
  have split : (r.build tag).data =
      (Wire.u32 (UInt32.ofNat (7 + r.payload.length)) ++ Wire.u8 r.type.code) ++
        (Wire.u16 (r.sentTag tag) ++ r.payload) := by
    rw [r.build_data tag, header]
    simp only [List.append_assoc]
  rw [split, List.drop_left' (by simp), List.take_left' (by simp), Wire.u16,
    LittleEndian.decode_encode_of_lt (UInt16.toNat_lt _), UInt16.ofNat_toNat]

/-! ### Reading a request back -/

/-- The payload of a request, field by field. -/
def readFields : MessageType → Decoder (Option Request)
  | .tversion => do
    let maxSize ← getU32
    let version ← getString
    return some (tversion maxSize version)
  | .tattach => do
    let fid ← getU32
    let afid ← getU32
    let uname ← getString
    let aname ← getString
    let nUname ← getU32
    return some (tattach fid afid uname aname nUname)
  | .twalk => do
    let fid ← getU32
    let newfid ← getU32
    let nwname ← getU16
    let names ← collect getString nwname.toNat []
    return some (twalk fid newfid names)
  | .tlopen => do
    let fid ← getU32
    let flags ← getU32
    return some (tlopen fid flags)
  | .tread => do
    let fid ← getU32
    let offset ← getU64
    let count ← getU32
    return some (tread fid offset count)
  | .tclunk => do
    let fid ← getU32
    return some (tclunk fid)
  | .tgetattr => do
    let fid ← getU32
    let requestMask ← getU64
    return some (tgetattr fid requestMask)
  | .treaddir => do
    let fid ← getU32
    let offset ← getU64
    let count ← getU32
    return some (treaddir fid offset count)
  | .twrite => do
    let fid ← getU32
    let offset ← getU64
    let count ← getU32
    let data ← getBytes count
    return some (twrite fid offset data)
  | .tlcreate => do
    let fid ← getU32
    let name ← getString
    let flags ← getU32
    let mode ← getU32
    let gid ← getU32
    return some (tlcreate fid name flags mode gid)
  | .tmkdir => do
    let dfid ← getU32
    let name ← getString
    let mode ← getU32
    let gid ← getU32
    return some (tmkdir dfid name mode gid)
  | .tunlinkat => do
    let dirfid ← getU32
    let name ← getString
    let flags ← getU32
    return some (tunlinkat dirfid name flags)
  | .trenameat => do
    let olddirfid ← getU32
    let oldname ← getString
    let newdirfid ← getU32
    let newname ← getString
    return some (trenameat olddirfid oldname newdirfid newname)
  -- responses have no request fields
  | _ => pure none

theorem consumes_readFields (r : Request) (fits : r.Fits) :
    Consumes messageView (readFields r.type) r.payload (some r) := by
  cases r with
  | tversion maxSize version =>
    refine Consumes.bind (consumes_getU32 maxSize) ?_
    exact Consumes.last (consumes_getString version fits) rfl
  | tattach fid afid uname aname nUname =>
    refine Consumes.bind (consumes_getU32 fid) ?_
    refine Consumes.bind (consumes_getU32 afid) ?_
    refine Consumes.bind (consumes_getString uname fits.1) ?_
    refine Consumes.bind (consumes_getString aname fits.2) ?_
    exact Consumes.last (consumes_getU32 nUname) rfl
  | twalk fid newfid names =>
    refine Consumes.bind (consumes_getU32 fid) ?_
    refine Consumes.bind (consumes_getU32 newfid) ?_
    refine Consumes.bind (consumes_getU16 _) ?_
    -- as many names are read as were counted
    have count : (UInt16.ofNat names.length).toNat = names.length := by
      have few := fits.1
      rw [UInt16.toNat_ofNat']
      omega
    rw [count]
    have each := fun name (member : name ∈ names) => consumes_getString name (fits.2 name member)
    exact Consumes.last (Consumes.collect Wire.str names each []) rfl
  | tlopen fid flags =>
    refine Consumes.bind (consumes_getU32 fid) ?_
    exact Consumes.last (consumes_getU32 flags) rfl
  | tread fid offset count =>
    refine Consumes.bind (consumes_getU32 fid) ?_
    refine Consumes.bind (consumes_getU64 offset) ?_
    exact Consumes.last (consumes_getU32 count) rfl
  | tclunk fid => exact Consumes.last (consumes_getU32 fid) rfl
  | tgetattr fid requestMask =>
    refine Consumes.bind (consumes_getU32 fid) ?_
    exact Consumes.last (consumes_getU64 requestMask) rfl
  | treaddir fid offset count =>
    refine Consumes.bind (consumes_getU32 fid) ?_
    refine Consumes.bind (consumes_getU64 offset) ?_
    exact Consumes.last (consumes_getU32 count) rfl
  | twrite fid offset data =>
    have count : data.length = (UInt32.ofNat data.length).toNat := by
      have bound : data.length < 2 ^ 32 := fits
      rw [UInt32.toNat_ofNat']
      omega
    -- the data are not cut, since their length is that of the count
    rw [payload, ← count, List.take_length]
    refine Consumes.bind (consumes_getU32 fid) ?_
    refine Consumes.bind (consumes_getU64 offset) ?_
    refine Consumes.bind (consumes_getU32 _) ?_
    exact Consumes.last (consumes_getBytes data _ count) rfl
  | tlcreate fid name flags mode gid =>
    refine Consumes.bind (consumes_getU32 fid) ?_
    refine Consumes.bind (consumes_getString name fits) ?_
    refine Consumes.bind (consumes_getU32 flags) ?_
    refine Consumes.bind (consumes_getU32 mode) ?_
    exact Consumes.last (consumes_getU32 gid) rfl
  | tmkdir dfid name mode gid =>
    refine Consumes.bind (consumes_getU32 dfid) ?_
    refine Consumes.bind (consumes_getString name fits) ?_
    refine Consumes.bind (consumes_getU32 mode) ?_
    exact Consumes.last (consumes_getU32 gid) rfl
  | tunlinkat dirfid name flags =>
    refine Consumes.bind (consumes_getU32 dirfid) ?_
    refine Consumes.bind (consumes_getString name fits) ?_
    exact Consumes.last (consumes_getU32 flags) rfl
  | trenameat olddirfid oldname newdirfid newname =>
    refine Consumes.bind (consumes_getU32 olddirfid) ?_
    refine Consumes.bind (consumes_getString oldname fits.1) ?_
    refine Consumes.bind (consumes_getU32 newdirfid) ?_
    exact Consumes.last (consumes_getString newname fits.2) rfl

end Request

/-! ### The header of a framed message -/

section Header

variable {m : NinePMessage} {size : UInt32} {type : MessageType} {tag : UInt16} {payload : Bytes}

theorem getSize_of_header (framed : m.data = header size type tag ++ payload)
    (small : m.data.length < 2 ^ 32) : m.getSize = size := by
  have total := length_of_header framed
  have long : ¬ m.data.length < 4 := by omega
  -- `GetSize` is `GetU32` at offset 0
  obtain ⟨m', read, _⟩ := consumes_getU32 size ⟨m.data, 0, false⟩
    (Wire.u8 type.code ++ Wire.u16 tag ++ payload) ⟨small, Nat.zero_le _, rfl⟩
    (by simp [messageView, framed, header, List.append_assoc])
  have inside : ¬ m.data.length < ((0 : UInt32) + 4).toNat := long
  have value := congrArg Prod.fst read
  simp only [getU32, if_neg inside] at value
  rw [getSize, if_neg long]
  exact value

theorem getTag_of_header (framed : m.data = header size type tag ++ payload)
    (small : m.data.length < 2 ^ 32) : m.getTag = tag := by
  have total := length_of_header framed
  have long : ¬ m.data.length < headerSize.toNat := by simp [total, headerSize]
  have five : (Wire.u32 size ++ Wire.u8 type.code).length = (5 : UInt32).toNat := by simp
  -- `GetTag` is `GetU16` at offset 5
  obtain ⟨m', read, _⟩ := consumes_getU16 tag ⟨m.data, 5, false⟩ payload
    ⟨small, by simp [total]; omega, rfl⟩
    (by
      have split : m.data = (Wire.u32 size ++ Wire.u8 type.code) ++ (Wire.u16 tag ++ payload) := by
        simp [framed, header, List.append_assoc]
      change m.data.drop (5 : UInt32).toNat = Wire.u16 tag ++ payload
      rw [split]
      exact List.drop_left' five)
  have inside : ¬ m.data.length < ((5 : UInt32) + 2).toNat := long
  have value := congrArg Prod.fst read
  simp only [getU16, if_neg inside] at value
  rw [getTag, if_neg long]
  exact value

end Header

end Virtio9p
