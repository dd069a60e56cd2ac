import Virtio9p.Server.FileService
import Virtio9p.Server.TreeOpen

/-!
# File calls without a driver

What the handlers come to if the file service is at hand: objects take the place of fids, and
nothing is encoded, sent or parsed. The decisions are those of the handlers; what the calls are
meant to do is another matter.
-/
namespace Virtio9p

open Attempt

/-- An open file of the client. -/
structure OpenFile (ν : Type) where
  object : ν
  offset : UInt64
  iounit : UInt32
  isDirectory : Bool
  deriving DecidableEq, Repr

namespace OpenFile

variable {ν : Type} (file : OpenFile ν)

/-- What the plan of a write takes from the file. -/
def ocb : ExtOcb := ⟨0, 0, 0, ⟨0, file.offset, file.iounit, file.isDirectory, 0⟩⟩

/-- The cursor moves unless the write names its offset. -/
def advanced (xtype : Xtype) (written : UInt32) : OpenFile ν :=
  match xtype with
  | .offset _ => file
  | _ => { file with offset := file.offset + written.toUInt64 }

end OpenFile

/-- A host's error number is one of the client's. -/
def hosted {φ α : Type} (x : Attempt φ Ecode α) : Attempt φ Int32 α :=
  x.fold pure fun ecode => fail ecode.val.toInt32

/-- The values of a host's operation are those of the client's. -/
theorem hosted_ok {φ α : Type} {x : Attempt φ Ecode α} {s s' : φ} {a : α}
    (done : hosted x s = (.ok a, s')) : x s = (.ok a, s') := by
  unfold hosted Attempt.fold at done
  split at done
  · rename_i performed
    cases done
    exact performed
  · cases done

namespace FileService

variable {ν φ : Type} (f : FileService ν φ) (root : ν)

/-! ### Paths -/

def resolve (path : Bytes) : Attempt φ Int32 ν :=
  (hosted (f.walk root (splitPath path))).bind fun reached =>
    if reached.length = (splitPath path).length then
      pure ((reached.map Prod.fst).getLastD root)
    else fail enoent

/-- The directory of a path's last component, and that component. -/
def resolveParent (path : Bytes) : Attempt φ Int32 (ν × Bytes) :=
  if (splitParent path).2 = [] then fail einval
  else (f.resolve root (splitParent path).1).bind fun directory =>
    pure (directory, (splitParent path).2)

def makeDirectory (msg : IoConnect) : Attempt φ Int32 Unit :=
  if msg.path = [] then fail einval
  else if ¬ sIsdir msg.mode then fail enotsup
  else (f.resolveParent root msg.path).bind fun entry =>
    ((hosted (f.mkdir entry.1 entry.2 (msg.mode &&& 0o777) 0)).bind fun _ => pure ()).cleanup
      (f.clunk entry.1)

/-- The flags with which an object of this mode is removed. -/
def modeFlags (object : ν) : Attempt φ Int32 UInt32 :=
  (hosted (f.getattr object getattrBasic)).fold
    (fun stat => pure (if stat.mode &&& 0o040000 ≠ 0 then linuxAtRemovedir else 0))
    fun _ => pure 0

def removalFlags (path : Bytes) : Attempt φ Int32 UInt32 :=
  (f.resolve root path).fold (fun object => (f.modeFlags object).cleanup (f.clunk object))
    fun _ => pure 0

def removeEntry (msg : IoConnect) : Attempt φ Int32 Unit :=
  if msg.path = [] then fail einval
  else (f.resolveParent root msg.path).bind fun entry =>
    ((f.removalFlags root msg.path).bind fun flags =>
      hosted (f.unlinkat entry.1 entry.2 flags)).cleanup (f.clunk entry.1)

def renameEntry (msg : IoRename) : Attempt φ Int32 Unit :=
  if msg.path = [] then fail einval
  else (f.resolveParent root msg.path).bind fun old =>
    ((f.resolveParent root msg.newPath).protect (f.clunk old.1)).bind fun new =>
      (hosted (f.renameat old.1 old.2 new.1 new.2)).cleanup fun s =>
        f.clunk new.1 (f.clunk old.1 s)

/-! ### Opening -/

section Open

variable (q : Qnx) (openDefault : UInt32 → UInt32 → Int32) (msg : IoConnect)

/-- The client's own check has the last word. -/
def grant (mode : UInt32) (file : OpenFile ν) : Attempt φ Int32 (OpenFile ν) :=
  if openDefault mode (localFlags q msg) ≠ eok then fail (openDefault mode (localFlags q msg))
  else pure file

/-- A file whose attributes the host does not give counts as one without any. -/
def statOrZero (object : ν) : Attempt φ Int32 NinePStat :=
  (hosted (f.getattr object getattrBasic)).fold pure fun _ => pure NinePStat.zero

def openExisting (object : ν) : Attempt φ Int32 (OpenFile ν) :=
  ((hosted (f.lopen object (translateQnxToLinuxFlags q msg.ioflag))).bind fun opened =>
    (f.statOrZero object).bind fun stat =>
      grant q openDefault msg stat.mode
        ⟨object, 0, opened.2, stat.mode &&& 0o040000 ≠ 0⟩).protect (f.clunk object)

def openNew : Attempt φ Int32 (OpenFile ν) :=
  (f.resolveParent root (openPath msg)).bind fun entry =>
    ((hosted (f.lcreate entry.1 entry.2
      (translateQnxToLinuxFlags q msg.ioflag ||| linuxOCreat) 0o644 0)).protect
        (f.clunk entry.1)).bind fun created =>
      (grant q openDefault msg 0o100644 ⟨created.1, 0, created.2.2, false⟩).protect
        (f.clunk created.1)

def openPathname : Attempt φ Int32 (OpenFile ν) :=
  (f.resolve root (openPath msg)).fold (f.openExisting q openDefault msg) fun errno =>
    if errno = enoent ∧ msg.ioflag &&& q.oCreat ≠ 0 then f.openNew root q openDefault msg
    else fail errno

end Open

/-! ### Reading and writing -/

def readFile (q : Qnx) (msg : IoRead) (file : OpenFile ν) :
    Attempt φ Int32 (Reply × OpenFile ν) :=
  if msg.verify ≠ eok then fail msg.verify
  else if file.isDirectory then
    (hosted (f.readdir file.object file.offset msg.nbytes)).bind fun entries =>
      let packed := packDirents q msg.nbytes entries [] 0 file.offset
      pure (if packed.1 = [] then .nbytes 0 else .dirents packed.1,
        { file with offset := packed.2.2 })
  else
    (hosted (f.read file.object file.offset msg.nbytes)).bind fun data =>
      pure (if data = [] then .nbytes 0 else .data data,
        { file with offset := file.offset + UInt64.ofNat data.length })

/-- Write chunk after chunk, until one is not taken in full; `none` if `fuel` does not suffice. -/
def sendChunks (msg : IoWrite) (plan : WritePlan) (object : ν) :
    Nat → Nat → UInt32 → Attempt φ Int32 (Option UInt32)
  | fuel, round, total =>
    if total < plan.nbytes then
      match fuel with
      | 0 => pure none
      | fuel + 1 =>
        match writeChunk msg plan round total with
        | .error errno => fail errno
        | .ok chunk =>
          (hosted (f.write object (plan.offset + total.toUInt64) chunk)).bind fun written =>
            if written < UInt32.ofNat chunk.length then pure (some (total + written))
            else sendChunks msg plan object fuel (round + 1) (total + written)
    else pure (some total)

def writeFile (q : Qnx) (fuel : Nat) (msg : IoWrite) (file : OpenFile ν) :
    Attempt φ Int32 (Reply × OpenFile ν) :=
  if msg.verify ≠ eok then fail msg.verify
  else if msg.nbytes = 0 then pure (.nbytes 0, file)
  else
    match writePlan q msg file.ocb with
    | .error errno => fail errno
    | .ok plan =>
      (f.sendChunks msg plan file.object fuel 0 0).bind fun total =>
        match total with
        | none => pure (.stuck, file)
        | some total => pure (.nbytes total.toInt32, file.advanced msg.xtype total)

def statFile (q : Qnx) (file : OpenFile ν) : Attempt φ Int32 (Reply × OpenFile ν) :=
  (hosted (f.getattr file.object getattrBasic)).bind fun stat => pure (.stat (qnxStat q stat), file)

end FileService

/-! ### Runs of calls -/

/-- A client of the service, with the object it is attached to. -/
structure DirectClient (ν φ : Type) where
  root : ν
  files : φ
  opened : List (OpenFile ν)

/-- The error number of a result, `EOK` for a value. -/
def errnoOf {α : Type} : Except Int32 α → Int32
  | .error errno => errno
  | .ok _ => eok

namespace FileService

variable {ν φ : Type} (f : FileService ν φ) (q : Qnx)

/-- An open file stays as it is if its use fails. -/
def used (use : OpenFile ν → Attempt φ Int32 (Reply × OpenFile ν)) (file : OpenFile ν) (s : φ) :
    (Reply × OpenFile ν) × φ :=
  match use file s with
  | (.error errno, s) => ((.errno errno, file), s)
  | (.ok done, s) => (done, s)

/-- Read or write on an open file. -/
def useFile (i : Nat) (use : OpenFile ν → Attempt φ Int32 (Reply × OpenFile ν))
    (c : DirectClient ν φ) : Reply × DirectClient ν φ :=
  match c.opened[i]? with
  | none => (.stuck, c)
  | some file =>
    let result := used use file c.files
    (result.1.1, { c with files := result.2, opened := c.opened.set i result.1.2 })

def call (c : DirectClient ν φ) : Call → Reply × DirectClient ν φ
  | .connectOpen msg openDefault =>
    let result := f.openPathname c.root q openDefault msg c.files
    (.errno (errnoOf result.1),
      { c with files := result.2, opened := c.opened ++ result.1.toOption.toList })
  | .connectMknod msg =>
    let result := f.makeDirectory c.root msg c.files
    (.errno (errnoOf result.1), { c with files := result.2 })
  | .connectUnlink msg =>
    let result := f.removeEntry c.root msg c.files
    (.errno (errnoOf result.1), { c with files := result.2 })
  | .connectRename msg =>
    let result := f.renameEntry c.root msg c.files
    (.errno (errnoOf result.1), { c with files := result.2 })
  | .ioRead i msg => useFile i (f.readFile q msg) c
  | .ioWrite i msg fuel => useFile i (f.writeFile q fuel msg) c
  | .ioStat i => useFile i (f.statFile q) c
  | .ioCloseOcb i =>
    match c.opened[i]? with
    | none => (.stuck, c)
    | some file =>
      (.errno eok, { c with
        files := f.clunk file.object c.files
        opened := c.opened.eraseIdx i })

def direct : Machine Call Reply (DirectClient ν φ) where
  step call c := f.call q c call

end FileService

end Virtio9p
