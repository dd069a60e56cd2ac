import Virtio9p.Protocol.FidPool
import Virtio9p.Protocol.Message

/-!
# NinePSession

Version negotiation, root attach and the file operations, over any transport. A
session operation is a function of the session and of the state of its transport
(`Link`). An operation that returns 0 in the driver is `.ok` here, any other
return value `rc` is `.error rc`.
-/
namespace Virtio9p

structure NinePSession where
  fidPool : FidPool
  rootFid : UInt32
  messageSize : UInt32
  aname : Bytes
  reinitializing : Bool
  nextTag : UInt16

namespace NinePSession

def new : NinePSession := ⟨FidPool.new, 0, maxMessageSize, [], false, 0⟩

/-- `NextTag` -/
def takeTag (s : NinePSession) : UInt16 × NinePSession :=
  (s.nextTag, { s with nextTag := s.nextTag + 1 })

def allocateFid (s : NinePSession) : UInt32 × NinePSession :=
  (s.fidPool.allocate.1, { s with fidPool := s.fidPool.allocate.2 })

end NinePSession

/-- `Exchange` maps the request bytes and the state of the transport to a result
code and the response bytes. -/
structure Transport (σ : Type) where
  exchange : Bytes → σ → (Int32 × Bytes) × σ

/-- A session and the state of the transport it is bound to. -/
structure Link (σ : Type) where
  session : NinePSession
  transport : σ
  /-- Ghost: the requests passed to `Exchange`, each with `message_size_` at that time. -/
  sent : List (UInt32 × Bytes)

variable {σ : Type}

def Link.release (w : Link σ) (fid : UInt32) : Link σ :=
  { w with session := { w.session with fidPool := w.session.fidPool.release fid } }

/-! ### Transact, Reinitialize, Initialize -/

def maxRetries : Nat := 3

/-- The attempts of `Transact` that are left. -/
def transactLoop (T : Transport σ) (reinitializeSession : Link σ → Int32 × Link σ)
    (request : NinePMessage) : Nat → Link σ → (Int32 × NinePMessage) × Link σ
  | 0, w => ((-eio, NinePMessage.empty), w)
  | attempts + 1, w =>
    let answer := T.exchange request.data w.transport
    let w : Link σ := { w with
      transport := answer.2, sent := w.sent ++ [(w.session.messageSize, request.data)] }
    if answer.1.1 ≠ 0 then
      -- during re-initialization (Tversion/Tattach), do not recurse
      if w.session.reinitializing then ((answer.1.1, NinePMessage.empty), w)
      else
        let reinit := reinitializeSession w
        if reinit.1 ≠ 0 then ((answer.1.1, NinePMessage.empty), reinit.2)
        else transactLoop T reinitializeSession request attempts reinit.2
    else
      let response := NinePMessage.ofData answer.1.2
      match isRlerror response with
      | some errorCode => ((-errorCode.toInt32, response), w)
      | none => ((0, response), w)

def transactWith (T : Transport σ) (reinitializeSession : Link σ → Int32 × Link σ)
    (request : NinePMessage) (w : Link σ) : (Int32 × NinePMessage) × Link σ :=
  transactLoop T reinitializeSession request maxRetries w

/-- The return code of `Transact` if it is not 0, `-EIO` if the parser returns false. -/
def readReply {α : Type} (parse : NinePMessage → Option α) (reply : Int32 × NinePMessage) :
    Except Int32 α :=
  if reply.1 ≠ 0 then .error reply.1
  else
    match parse reply.2 with
    | none => .error (-eio)
    | some a => .ok a

/-- What `Initialize` stores once the server has accepted the version: the message size
and a new root fid. -/
def NinePSession.setUp (s : NinePSession) (negotiatedSize : UInt32) : NinePSession :=
  let root := s.allocateFid
  { root.2 with
    messageSize := if negotiatedSize < maxMessageSize then negotiatedSize else maxMessageSize
    rootFid := root.1 }

def versionRequest : NinePMessage := buildTversion maxMessageSize protocolVersion

def attachRequest (aname : Bytes) (tag : UInt16) (rootFid : UInt32) : NinePMessage :=
  buildTattach tag rootFid noFid [] aname 0

/-- The message size of an Rversion that accepts the driver's version. -/
def acceptVersion (reply : Int32 × NinePMessage) : Except Int32 UInt32 :=
  match readReply (fun m => (parseRversion m).1) reply with
  | .error rc => .error rc
  | .ok (negotiatedSize, negotiatedVersion) =>
    if negotiatedVersion ≠ protocolVersion then .error (-enotsup) else .ok negotiatedSize

/-- The second step of `Initialize`: attach to the root. -/
def attachWith (transact : NinePMessage → Link σ → (Int32 × NinePMessage) × Link σ)
    (aname : Bytes) (w : Link σ) : Int32 × Link σ :=
  let tag := w.session.takeTag
  let attach := transact (attachRequest aname tag.1 w.session.rootFid) { w with session := tag.2 }
  match readReply (fun m => (parseRattach m).1) attach.1 with
  -- a re-initialization inside this call may have changed `root_fid_`
  | .error rc => (rc, attach.2.release attach.2.session.rootFid)
  | .ok _ => (0, attach.2)

/-- `Initialize`, given the `Transact` it calls. -/
def initializeWith (transact : NinePMessage → Link σ → (Int32 × NinePMessage) × Link σ)
    (aname : Bytes) (w : Link σ) : Int32 × Link σ :=
  let w : Link σ := { w with session := { w.session with aname := aname } }
  let version := transact versionRequest w
  match acceptVersion version.1 with
  | .error rc => (rc, version.2)
  | .ok negotiatedSize =>
    attachWith transact aname
      { version.2 with session := version.2.session.setUp negotiatedSize }

/-- The state in which `Reinitialize` calls `Initialize`. -/
def NinePSession.restarted (s : NinePSession) : NinePSession :=
  { s with fidPool := s.fidPool.reset, nextTag := 0, reinitializing := true }

def NinePSession.resumed (s : NinePSession) : NinePSession := { s with reinitializing := false }

/-- `Reinitialize`, given the `Initialize` it calls. -/
def reinitializeWith (initSession : Bytes → Link σ → Int32 × Link σ) (w : Link σ) :
    Int32 × Link σ :=
  let s := w.session.restarted
  let result := initSession s.aname { w with session := s }
  (result.1, { result.2 with session := result.2.session.resumed })

/-- With `reinitializing_` set, `Transact` returns before it would re-initialize, so
the innermost argument is never called (`reinitializeSession_eq`). -/
def reinitializeSession (T : Transport σ) : Link σ → Int32 × Link σ :=
  reinitializeWith (initializeWith (transactWith T fun w => (-eio, w)))

def transact (T : Transport σ) : NinePMessage → Link σ → (Int32 × NinePMessage) × Link σ :=
  transactWith T (reinitializeSession T)

def initializeSession (T : Transport σ) : Bytes → Link σ → Int32 × Link σ :=
  initializeWith (transact T)

/-! ### File operations -/

/-- The part that all operations share: take a tag, send the request that `build`
makes of it, and read the response with `parse`. -/
def Link.call {α : Type} (T : Transport σ) (build : UInt16 → NinePMessage)
    (parse : NinePMessage → Option α) (w : Link σ) : Except Int32 α × Link σ :=
  let tag := w.session.takeTag
  let reply := transact T (build tag.1) { w with session := tag.2 }
  (readReply parse reply.1, reply.2)

/-- The non-empty components that `getline` with delimiter `'/'` yields. -/
def splitPath (path : Bytes) : List Bytes := (path.splitOn 47).filter (· ≠ [])

def walk (T : Transport σ) (path : Bytes) (w : Link σ) : Except Int32 UInt32 × Link σ :=
  let names := splitPath path
  let fid := w.session.allocateFid
  let reply := Link.call T (fun tag => buildTwalk tag w.session.rootFid fid.1 names)
    (fun m => (parseRwalk [] m).1) { w with session := fid.2 }
  match reply.1 with
  | .error rc => (.error rc, reply.2.release fid.1)
  | .ok qids =>
    -- all path components have to be resolved
    if qids.length ≠ names.length then (.error (-enoent), reply.2.release fid.1)
    else (.ok fid.1, reply.2)

/-- `path.rfind('/')` -/
def rfindSlash (path : Bytes) : Option Nat :=
  (path.reverse.idxOf? 47).map fun fromEnd => path.length - 1 - fromEnd

/-- Parent path and basename of a path. -/
def splitParent (path : Bytes) : Bytes × Bytes :=
  match rfindSlash path with
  | none => ([], path)
  | some pos => (path.take pos, path.drop (pos + 1))

def walkParent (T : Transport σ) (path : Bytes) (w : Link σ) :
    Except Int32 (UInt32 × Bytes) × Link σ :=
  let split := splitParent path
  if split.2 = [] then (.error (-einval), w)
  else
    let parent := walk T split.1 w
    (parent.1.map fun fid => (fid, split.2), parent.2)

/-- `Open`; the result is the server's I/O unit. -/
def openFid (T : Transport σ) (fid flags : UInt32) (w : Link σ) : Except Int32 UInt32 × Link σ :=
  Link.call T (fun tag => buildTlopen tag fid flags) (fun m => (parseRlopen m).1.map Prod.snd) w

/-- A parse result with the ghost mark of the parser run. -/
def markFault {α : Type} (parse : Decoder (Option α)) (m : NinePMessage) : Option (α × Bool) :=
  let result := parse m
  result.1.map fun a => (a, result.2.fault)

/-- `Read` returns the byte count and fills `out_data`; `none` where the parser has no
defined behaviour. -/
def read (T : Transport σ) (fid : UInt32) (offset : UInt64) (count : UInt32) (w : Link σ) :
    Option (Int32 × Bytes) × Link σ :=
  let reply := Link.call T (fun tag => buildTread tag fid offset count) (markFault parseRread) w
  match reply.1 with
  | .error rc => (some (rc, []), reply.2)
  | .ok (data, fault) => (if fault then none else some (Int32.ofNat data.length, data), reply.2)

def getAttr (T : Transport σ) (fid : UInt32) (w : Link σ) : Except Int32 NinePStat × Link σ :=
  Link.call T (fun tag => buildTgetattr tag fid getattrBasic) (fun m => (parseRgetattr m).1) w

/-- `none` where the parser has no defined behaviour or does not return. -/
def readDir (T : Transport σ) (fid : UInt32) (offset : UInt64) (count : UInt32) (w : Link σ) :
    Option (Except Int32 (List DirEntry)) × Link σ :=
  let reply := Link.call T (fun tag => buildTreaddir tag fid offset count)
    (markFault (parseRreaddir [])) w
  match reply.1 with
  | .error rc => (some (.error rc), reply.2)
  | .ok (entries, fault) => (if fault then none else some (.ok entries), reply.2)

def clunk (T : Transport σ) (fid : UInt32) (w : Link σ) : Except Int32 Unit × Link σ :=
  let reply := Link.call T (fun tag => buildTclunk tag fid) (fun m => (parseRclunk m).1) w
  (reply.1, reply.2.release fid)

/-- `Write` returns the byte count of the Rwrite as a signed number. -/
def write (T : Transport σ) (fid : UInt32) (offset : UInt64) (data : Bytes) (count : UInt32)
    (w : Link σ) : Int32 × Link σ :=
  let reply := Link.call T (fun tag => buildTwrite tag fid offset data count)
    (fun m => (parseRwrite m).1) w
  match reply.1 with
  | .error rc => (rc, reply.2)
  | .ok written => (written.toInt32, reply.2)

/-- `Create`; the result is the new qid and the server's I/O unit. -/
def create (T : Transport σ) (parentFid : UInt32) (name : Bytes) (flags mode gid : UInt32)
    (w : Link σ) : Except Int32 (Qid × UInt32) × Link σ :=
  Link.call T (fun tag => buildTlcreate tag parentFid name flags mode gid)
    (fun m => (parseRlcreate m).1) w

def mkdir (T : Transport σ) (parentFid : UInt32) (name : Bytes) (mode gid : UInt32)
    (w : Link σ) : Except Int32 Qid × Link σ :=
  Link.call T (fun tag => buildTmkdir tag parentFid name mode gid) (fun m => (parseRmkdir m).1) w

def unlink (T : Transport σ) (dirfid : UInt32) (name : Bytes) (flags : UInt32) (w : Link σ) :
    Except Int32 Unit × Link σ :=
  Link.call T (fun tag => buildTunlinkat tag dirfid name flags) (fun m => (parseRunlinkat m).1) w

def rename (T : Transport σ) (olddirfid : UInt32) (oldname : Bytes) (newdirfid : UInt32)
    (newname : Bytes) (w : Link σ) : Except Int32 Unit × Link σ :=
  Link.call T (fun tag => buildTrenameat tag olddirfid oldname newdirfid newname)
    (fun m => (parseRrenameat m).1) w

end Virtio9p
