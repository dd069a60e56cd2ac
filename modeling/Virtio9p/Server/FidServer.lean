import Virtio9p.Server.Lossy

/-!
# A server with a fid table

A server that exports a chain of directories, one inside the other. An object is its
depth in the chain, and a Twalk goes down one level per name. The answer to a request
depends on its bytes and on what its fids are bound to.
-/
namespace Virtio9p

open NinePMessage

def MessageType.all : List MessageType :=
  [.tversion, .tattach, .twalk, .tlopen, .tlcreate, .tread, .twrite, .tclunk, .tgetattr,
    .treaddir, .tmkdir, .tunlinkat, .trenameat]

structure FidServer where
  table : FidTable Nat
  /-- How many file-changing requests were executed. -/
  executions : Nat

namespace FidServer

/-- A number in little-endian order. -/
def fieldAt (request : Bytes) (i width : Nat) : Nat :=
  LittleEndian.decode ((request.drop i).take width)

def fidAt (request : Bytes) (i : Nat) : UInt32 := UInt32.ofNat (fieldAt request i 4)

def typeOf (request : Bytes) : Option MessageType :=
  MessageType.all.find? fun type => type.code = request.getD 4 0

/-- The fids of a request. -/
def fidsOf (request : Bytes) : List UInt32 :=
  match typeOf request with
  | none | some .tversion | some .tattach => []
  | some .twalk => [fidAt request 7, fidAt request 11]
  | some .trenameat => [fidAt request 7, fidAt request (13 + fieldAt request 11 2)]
  | some _ => [fidAt request 7]

/-- Every fid is bound, but the new fid of a Twalk is free or the one it starts from. -/
def accepts (request : Bytes) (objects : List (Option Nat)) : Bool :=
  match typeOf request, objects with
  | none, _ => false
  | some .twalk, [object, new] =>
    object.isSome && (new.isNone || fidAt request 7 = fidAt request 11)
  | _, _ => objects.all Option.isSome

def anyQid : Qid := ⟨0, 0, 0⟩

/-- The answer to a request that is accepted. -/
def reply (msize : UInt32) (request : Bytes) : Response :=
  match typeOf request with
  | some .tversion => .rversion msize protocolVersion
  | some .tattach => .rattach anyQid
  | some .twalk => .rwalk (List.replicate (fieldAt request 15 2) anyQid)
  | some .tlopen => .rlopen anyQid 0
  | some .tlcreate => .rlcreate anyQid 0
  | some .tread => .rread []
  | some .twrite => .rwrite (fidAt request 19)
  | some .tclunk => .rclunk
  | some .tgetattr => .rgetattr NinePStat.zero
  | some .treaddir => .rreaddir []
  | some .tmkdir => .rmkdir anyQid
  | some .tunlinkat => .runlinkat
  | _ => .rrenameat

/-- `EBADF` for a fid that is not as it has to be. -/
def respond (msize : UInt32) (objects : List (Option Nat)) (request : Bytes) : Response :=
  if accepts request objects then reply msize request else .rlerror 9

def tableAfter (request : Bytes) (table : FidTable Nat) : FidTable Nat :=
  match typeOf request with
  | some .tversion => FidTable.empty
  | some .tattach => Function.update table (fidAt request 7) (some 0)
  | some .twalk =>
    Function.update table (fidAt request 11)
      ((table (fidAt request 7)).map (· + fieldAt request 15 2))
  | some .tclunk => Function.update table (fidAt request 7) none
  | _ => table

/-- Types of the requests that change files. -/
def changesFiles (request : Bytes) : Bool :=
  match typeOf request with
  | some .twrite | some .tlcreate | some .tmkdir | some .tunlinkat | some .trenameat => true
  | _ => false

/-- The server after a request. -/
def after (request : Bytes) (s : FidServer) : FidServer :=
  if accepts request ((fidsOf request).map s.table) then
    ⟨tableAfter request s.table, s.executions + if changesFiles request then 1 else 0⟩
  else s

/-! ### The fields of a request -/

theorem typeOf_build (r : Request) (tag : UInt16) : typeOf (r.build tag).data = some r.type := by
  rw [typeOf, r.type_build tag]
  cases r <;> rfl

theorem fieldAt_build (r : Request) (tag : UInt16) (before : Bytes) {rest : Bytes} {width n : Nat}
    (bound : n < 256 ^ width)
    (payload : r.payload = before ++ (LittleEndian.encode width n ++ rest)) :
    fieldAt (r.build tag).data (7 + before.length) width = n := by
  rw [fieldAt, r.drop_build tag, payload, List.drop_left' rfl,
    List.take_left' (LittleEndian.encode_length width n), LittleEndian.decode_encode_of_lt bound]

theorem fidAt_build (r : Request) (tag : UInt16) (before : Bytes) {rest : Bytes} {fid : UInt32}
    (payload : r.payload = before ++ (Wire.u32 fid ++ rest)) :
    fidAt (r.build tag).data (7 + before.length) = fid := by
  rw [fidAt, fieldAt_build r tag before (UInt32.toNat_lt fid) payload, UInt32.ofNat_toNat]

/-- Almost every payload starts with a fid. -/
theorem firstFid_build {r : Request} {tag : UInt16} {rest : Bytes} {fid : UInt32}
    (payload : r.payload = Wire.u32 fid ++ rest) : fidAt (r.build tag).data 7 = fid :=
  fidAt_build r tag [] payload

theorem newfid_build {tag : UInt16} {fid newfid : UInt32} {names : List Bytes} :
    fidAt ((Request.twalk fid newfid names).build tag).data 11 = newfid := by
  have field := fidAt_build (.twalk fid newfid names) tag (Wire.u32 fid) rfl
  rwa [Wire.u32_length] at field

theorem nwname_build {tag : UInt16} {fid newfid : UInt32} {names : List Bytes}
    (few : names.length < 2 ^ 16) :
    fieldAt ((Request.twalk fid newfid names).build tag).data 15 2 = names.length := by
  have payload : (Request.twalk fid newfid names).payload = (Wire.u32 fid ++ Wire.u32 newfid) ++
      (LittleEndian.encode 2 (UInt16.ofNat names.length).toNat ++ names.flatMap Wire.str) := by
    rw [List.append_assoc]
    rfl
  have field := fieldAt_build _ tag _ (UInt16.toNat_lt (UInt16.ofNat names.length)) payload
  rw [List.length_append, Wire.u32_length, Wire.u32_length, UInt16.toNat_ofNat',
    Nat.mod_eq_of_lt few] at field
  exact field

/-- A Trenameat has its second fid behind the old name. -/
theorem newdirfid_build {tag : UInt16} {olddirfid newdirfid : UInt32} {oldname newname : Bytes}
    (short : oldname.length < 2 ^ 16) :
    let request := ((Request.trenameat olddirfid oldname newdirfid newname).build tag).data
    fidAt request (13 + fieldAt request 11 2) = newdirfid := by
  intro request
  let r := Request.trenameat olddirfid oldname newdirfid newname
  have length := fieldAt_build r tag (Wire.u32 olddirfid)
    (UInt16.toNat_lt (UInt16.ofNat oldname.length))
    (by simp only [r, Request.payload, Wire.str, Wire.u16, List.append_assoc]; rfl)
  have field := fidAt_build r tag (Wire.u32 olddirfid ++ Wire.str oldname)
    (by simp only [r, Request.payload, List.append_assoc]; rfl)
  rw [Wire.u32_length, UInt16.toNat_ofNat', Nat.mod_eq_of_lt short] at length
  rw [List.length_append, Wire.u32_length, Wire.str_length] at field
  have position : 13 + fieldAt request 11 2 = 7 + (4 + (2 + oldname.length)) := by
    rw [show fieldAt request 11 2 = oldname.length from length]
    omega
  rw [position]
  exact field

theorem fidsOf_build (r : Request) (tag : UInt16) (fits : r.Fits) :
    fidsOf (r.build tag).data = r.carried := by
  rw [fidsOf, typeOf_build]
  cases r with
  | tversion maxSize version => rfl
  | tattach fid afid uname aname nUname => rfl
  | twalk fid newfid names =>
    simp only [Request.type]
    rw [firstFid_build rfl, newfid_build]
    rfl
  | trenameat olddirfid oldname newdirfid newname =>
    simp only [Request.type]
    rw [firstFid_build rfl, newdirfid_build fits.1]
    rfl
  | _ =>
    simp only [Request.type]
    rw [firstFid_build rfl]
    rfl

end FidServer

/-- The server behind a transport that never fails; `msize` is the size that it offers. -/
def fidServer (msize : UInt32) : Transport FidServer where
  exchange request s :=
    let tag := UInt16.ofNat (FidServer.fieldAt request 5 2)
    ((0, ((FidServer.respond msize ((FidServer.fidsOf request).map s.table) request).encode
      tag).data),
      s.after request)

section Laws

variable (msize : UInt32)

theorem fidServer_exchange (r : Request) (tag : UInt16) (s : FidServer) :
    (fidServer msize).exchange (r.build tag).data s =
      ((0, ((FidServer.respond msize ((FidServer.fidsOf (r.build tag).data).map s.table)
        (r.build tag).data).encode (r.sentTag tag)).data), s.after (r.build tag).data) := by
  rw [fidServer]
  simp only [FidServer.fieldAt]
  rw [r.tag_build tag]

/-- The answer to every Tversion. -/
theorem fidServer_version (s : FidServer) : ((fidServer msize).exchange versionRequest.data s).1 =
    (0, ((Response.rversion msize protocolVersion).encode noTag).data) := by
  let r := Request.tversion maxMessageSize protocolVersion
  have type : FidServer.typeOf (r.build 0).data = some .tversion := FidServer.typeOf_build r 0
  have answered := fidServer_exchange msize r 0 s
  have offered : FidServer.respond msize ((FidServer.fidsOf (r.build 0).data).map s.table)
      (r.build 0).data = .rversion msize protocolVersion := by
    simp only [FidServer.respond, FidServer.accepts, FidServer.fidsOf, FidServer.reply, type]
    rfl
  rw [offered] at answered
  exact congrArg Prod.fst answered

/-- The answer to every Tattach. -/
theorem fidServer_attach (aname : Bytes) (tag : UInt16) (fid : UInt32) (s : FidServer) :
    ((fidServer msize).exchange (attachRequest aname tag fid).data s).1 =
      (0, ((Response.rattach FidServer.anyQid).encode tag).data) := by
  let r := Request.tattach fid noFid [] aname 0
  have type : FidServer.typeOf (r.build tag).data = some .tattach := FidServer.typeOf_build r tag
  have answered := fidServer_exchange msize r tag s
  have attached : FidServer.respond msize ((FidServer.fidsOf (r.build tag).data).map s.table)
      (r.build tag).data = .rattach FidServer.anyQid := by
    simp only [FidServer.respond, FidServer.accepts, FidServer.fidsOf, FidServer.reply, type]
    rfl
  rw [attached] at answered
  exact congrArg Prod.fst answered

theorem fidServer_drops : (fidServer msize).DropsFids FidServer.table fun _ => 0 where
  reset s request failed := absurd rfl failed
  version s _ := by
    let r := Request.tversion maxMessageSize protocolVersion
    have type : FidServer.typeOf (r.build 0).data = some .tversion := FidServer.typeOf_build r 0
    change (s.after (r.build 0).data).table = FidTable.empty
    simp only [FidServer.after, FidServer.accepts, FidServer.fidsOf, FidServer.tableAfter, type]
    rfl
  attach s aname tag fid := by
    intro answer _
    let r := Request.tattach fid noFid [] aname 0
    have type : FidServer.typeOf (r.build tag).data = some .tattach := FidServer.typeOf_build r tag
    have answered : answer = _ := fidServer_exchange msize r tag s
    have attached : isRattach answer.1.2 = true := by
      rw [show answer.1 = _ from fidServer_attach msize aname tag fid s]
      exact decide_eq_true (getType_of_header (Response.encode_data (.rattach _) _))
    rw [if_pos attached, answered]
    simp only [FidServer.after, FidServer.accepts, FidServer.fidsOf, FidServer.tableAfter, type]
    rw [FidServer.firstFid_build rfl]
    rfl

end Laws

/-- The server behind a lossy transport; a reset forgets every fid. -/
def lossyFidServer (msize : UInt32) : Transport (List Fate × FidServer) :=
  (fidServer msize).lossy fun s => { s with table := FidTable.empty }

theorem lossyFidServer_drops (msize : UInt32) :
    (lossyFidServer msize).DropsFids (fun s => s.2.table) fun _ => 0 :=
  (fidServer_drops msize).lossy fun _ => rfl

/-- Before the first Tversion, with a script. -/
def FidServer.start (fates : List Fate) : List Fate × FidServer := (fates, ⟨FidTable.empty, 0⟩)

end Virtio9p
