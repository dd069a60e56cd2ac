import Virtio9p.Properties.WritePayload
import Virtio9p.Resmgr.DirectFiles
import Virtio9p.Resmgr.Dirents

/-!
# What file calls are meant to do

A client that does with the file service itself what its calls are for. A transfer is at the offset
that it names, or else at the cursor, which moves along; a write takes the bytes of the client's own
message and counts what was taken; a listing is over only where nothing more is listed. The handlers
decide some of it otherwise, so not every call is served as it is meant.
-/
namespace Virtio9p

open Attempt

/-- A call, and the client's message that it came in. -/
structure ClientCall where
  call : Call
  message : Nat → UInt8

namespace OpenFile

variable {ν : Type} (file : OpenFile ν)

/-- Where a transfer is to begin. -/
def position : Xtype → Except Int32 UInt64
  | .none => .ok file.offset
  | .offset offset => .ok offset
  | .other => .error enosys

/-- Only a transfer at the cursor moves it. -/
def moved (xtype : Xtype) (offset : UInt64) : OpenFile ν :=
  match xtype with
  | .none => { file with offset := offset }
  | _ => file

/-- The most bytes that are written at once. -/
def unit : Nat := (if file.iounit > 0 then file.iounit else maxMessageSize - 128).toNat

end OpenFile

/-- The entries from the first on whose records fit a buffer together. -/
def fitting (q : Qnx) : Nat → List DirEntry → List DirEntry
  | _, [] => []
  | room, entry :: entries =>
    let reclen := direntReclen q entry.name.length
    if reclen ≤ room then entry :: fitting q (room - reclen) entries else []

/-- An open that would create or empty a file. -/
def Changing (q : Qnx) (msg : IoConnect) : Prop :=
  msg.ioflag &&& q.oCreat ≠ 0 ∨ msg.ioflag &&& q.oTrunc ≠ 0

instance (q : Qnx) (msg : IoConnect) : Decidable (Changing q msg) :=
  inferInstanceAs (Decidable (_ ∨ _))

/-- An open that is to create the file itself. -/
def Exclusive (q : Qnx) (msg : IoConnect) : Prop :=
  msg.ioflag &&& q.oCreat ≠ 0 ∧ msg.ioflag &&& q.oExcl ≠ 0

instance (q : Qnx) (msg : IoConnect) : Decidable (Exclusive q msg) :=
  inferInstanceAs (Decidable (_ ∧ _))

namespace FileService

variable {ν φ : Type} (f : FileService ν φ) (root : ν) (q : Qnx)

/-! ### Names -/

/-- A directory is removed as such. -/
def intendedFlags (path : Bytes) : Attempt φ Int32 UInt32 :=
  (f.resolve root path).fold
    (fun object =>
      ((hosted (f.getattr object getattrBasic)).fold
        (fun stat => pure (if sIsdir stat.mode then linuxAtRemovedir else 0))
        fun _ => pure 0).cleanup (f.clunk object))
    fun _ => pure 0

def intendedRemoval (msg : IoConnect) : Attempt φ Int32 Unit :=
  if msg.path = [] then fail einval
  else (f.resolveParent root msg.path).bind fun entry =>
    ((f.intendedFlags root msg.path).bind fun flags =>
      hosted (f.unlinkat entry.1 entry.2 flags)).cleanup (f.clunk entry.1)

section Open

variable (openDefault : UInt32 → UInt32 → Int32) (msg : IoConnect)

/-- A file that is there, with its mode. -/
def intendedExisting (object : ν) : Attempt φ Int32 (OpenFile ν × UInt32) :=
  (if Exclusive q msg then fail eexist.toInt32
  else (hosted (f.lopen object (translateQnxToLinuxFlags q msg.ioflag))).bind fun opened =>
    (hosted (f.getattr object getattrBasic)).bind fun stat =>
      pure (⟨object, 0, opened.2, sIsdir stat.mode⟩, stat.mode)).protect (f.clunk object)

/-- A new file has the permissions that the client names. -/
def intendedNew : Attempt φ Int32 (OpenFile ν × UInt32) :=
  (f.resolveParent root (openPath msg)).bind fun entry =>
    ((hosted (f.lcreate entry.1 entry.2 (translateQnxToLinuxFlags q msg.ioflag ||| linuxOCreat)
      (msg.mode &&& 0o777) 0)).protect (f.clunk entry.1)).bind fun created =>
        pure (⟨created.1, 0, created.2.2, false⟩, 0o100000 ||| (msg.mode &&& 0o777))

/-- The client's own check has the last word. An open that it refuses does not create or empty
anything. -/
def checked (attempt : Attempt φ Int32 (OpenFile ν × UInt32)) : Attempt φ Int32 (OpenFile ν) :=
  fun s =>
    match attempt s with
    | (.error errno, s') => (.error errno, s')
    | (.ok (file, mode), s') =>
      if openDefault mode (localFlags q msg) = eok then (.ok file, s')
      else (.error (openDefault mode (localFlags q msg)),
        if Changing q msg then s else f.clunk file.object s')

def intendedOpen : Attempt φ Int32 (OpenFile ν) :=
  f.checked q openDefault msg ((f.resolve root (openPath msg)).fold (f.intendedExisting q msg)
    fun errno =>
      if errno = enoent ∧ msg.ioflag &&& q.oCreat ≠ 0 then f.intendedNew root q msg else fail errno)

end Open

/-! ### Transfers -/

def intendedRead (msg : IoRead) (file : OpenFile ν) : Attempt φ Int32 (Reply × OpenFile ν) :=
  if msg.verify ≠ eok then fail msg.verify
  else
    match file.position msg.xtype with
    | .error errno => fail errno
    | .ok position =>
      if file.isDirectory then
        (hosted (f.readdir file.object position msg.nbytes)).bind fun entries =>
          let kept := fitting q msg.nbytes.toNat entries
          if entries = [] then pure (.nbytes 0, file)
          -- the buffer is too small for a single entry
          else if kept = [] then fail einval
          else pure (.dirents (kept.map (direntOf q)),
            file.moved msg.xtype (lastCookie position kept))
      else
        (hosted (f.read file.object position msg.nbytes)).bind fun data =>
          pure (if data = [] then .nbytes 0 else .data data,
            file.moved msg.xtype (position + UInt64.ofNat data.length))

/-- Write piece after piece, at most `rounds` of them, until one is not taken in full: the bytes
that were taken, and the error if there was one. -/
def sendPieces (object : ν) (unit : Nat) : Nat → UInt64 → Bytes → φ → (Nat × Option Int32) × φ
  | 0, _, _, s => ((0, none), s)
  | rounds + 1, offset, data, s =>
    if data = [] then ((0, none), s)
    else
      let piece := data.take unit
      match hosted (f.write object offset piece) s with
      | (.error errno, s) => ((0, some errno), s)
      | (.ok written, s) =>
        if written.toNat < piece.length then ((written.toNat, none), s)
        else
          let rest := sendPieces object unit rounds (offset + UInt64.ofNat piece.length)
            (data.drop unit) s
          ((piece.length + rest.1.1, rest.1.2), rest.2)

/-- All of a write's payload; there are at least as many bytes as pieces. -/
def sendPayload (msg : IoWrite) (message : Nat → UInt8) (file : OpenFile ν) (position : UInt64) :
    φ → (Nat × Option Int32) × φ :=
  f.sendPieces file.object file.unit msg.nbytes.toNat position
    (segment message (msg.payloadStart q) msg.nbytes.toNat)

/-- Once a byte was taken the count is what is reported. -/
def intendedWrite (msg : IoWrite) (message : Nat → UInt8) (file : OpenFile ν) :
    Attempt φ Int32 (Reply × OpenFile ν) :=
  if msg.verify ≠ eok then fail msg.verify
  else
    match file.position msg.xtype with
    | .error errno => fail errno
    | .ok position => fun s =>
      match f.sendPayload q msg message file position s with
      | ((0, some errno), s) => (.error errno, s)
      | ((taken, _), s) => (.ok (.nbytes (Int32.ofNat taken),
          file.moved msg.xtype (position + UInt64.ofNat taken)), s)

/-! ### Runs -/

def intend (a : ClientCall) (c : DirectClient ν φ) : Reply × DirectClient ν φ :=
  match a.call with
  | .connectOpen msg openDefault =>
    let result := f.intendedOpen c.root q openDefault msg c.files
    (.errno (errnoOf result.1),
      { c with files := result.2, opened := c.opened ++ result.1.toOption.toList })
  | .connectUnlink msg =>
    let result := f.intendedRemoval c.root msg c.files
    (.errno (errnoOf result.1), { c with files := result.2 })
  | .ioRead i msg => useFile i (f.intendedRead q msg) c
  | .ioWrite i msg _ => useFile i (f.intendedWrite q msg a.message) c
  -- nothing more is meant by the others than is done
  | call => f.call q c call

def intended : Machine ClientCall Reply (DirectClient ν φ) where
  step a c := f.intend q a c

end FileService

/-! ### Calls that are served as they are meant -/

/-- A host with files of the kinds that the driver tells apart, and that gives the attributes of a
file it has opened. -/
structure FileService.Ordinary {ν φ : Type} (f : FileService ν φ) : Prop where
  kinds : ∀ object mask s stat s', f.getattr object mask s = (.ok stat, s') →
    (stat.mode &&& 0o040000 ≠ 0 ↔ sIsdir stat.mode = true)
  described : ∀ object flags s opened s', f.lopen object flags s = (.ok opened, s') →
    ∃ stat s'', f.getattr object getattrBasic s' = (.ok stat, s'')

/-- New files are made with the permissions 0644, whether or not the name was free, and without a
look at the client's own check. Where appended bytes go is the host's to decide. -/
structure OpenServed (q : Qnx) (openDefault : UInt32 → UInt32 → Int32) (msg : IoConnect) :
    Prop where
  shared : ¬ Exclusive q msg
  permissions : msg.ioflag &&& q.oCreat ≠ 0 → msg.mode &&& 0o777 = 0o644
  granted : Changing q msg → ∀ mode, openDefault mode (localFlags q msg) = eok
  unappended : msg.ioflag &&& 0x08 = 0

section Served

variable {ν φ : Type} (f : FileService ν φ) (q : Qnx)

/-- A sequential read, with room for an entry if it is of a directory. -/
structure ReadServed (i : Nat) (msg : IoRead) (c : DirectClient ν φ) : Prop where
  sequential : msg.xtype = .none
  room : ∀ file entry entries s', c.opened[i]? = some file → file.isDirectory = true →
    f.readdir file.object file.offset msg.nbytes c.files = (.ok (entry :: entries), s') →
      direntReclen q entry.name.length ≤ msg.nbytes.toNat

/-- A write whose payload the handler finds in the message, that fits an `int`, and of which nothing
is refused behind what was taken. -/
structure WriteServed (i : Nat) (msg : IoWrite) (fuel : Nat) (message : Nat → UInt8)
    (c : DirectClient ν φ) : Prop where
  known : msg.xtype ≠ .other
  source : msg.From message
  unmoved : OverflowUnmoved q msg message
  small : msg.nbytes.toNat < 2 ^ 31
  enough : msg.nbytes.toNat ≤ fuel
  refused : ∀ file position, c.opened[i]? = some file → file.position msg.xtype = .ok position →
    ∀ taken errno, (f.sendPayload q msg message file position c.files).1 = (taken, some errno) →
      taken = 0

/-- The condition on a call in the state of the client. -/
def ServedAsMeant (a : ClientCall) (c : DirectClient ν φ) : Prop :=
  match a.call with
  | .connectOpen msg openDefault => OpenServed q openDefault msg
  | .ioRead i msg => ReadServed f q i msg c
  | .ioWrite i msg fuel => WriteServed f q i msg fuel a.message c
  | _ => True

end Served

end Virtio9p
