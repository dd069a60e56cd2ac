import Virtio9p.Foundation.Machine
import Virtio9p.Protocol.Request
import Virtio9p.Protocol.Steps

/-!
# Session calls

The public operations of the session as inputs of a machine, the request each of them
starts with, and what holds of the pool whatever the transport does.
-/
namespace Virtio9p

open NinePMessage

/-- A call of a public operation with its arguments. -/
inductive SessionCall where
  | initializeSession (aname : Bytes)
  | walk (path : Bytes)
  | walkParent (path : Bytes)
  | openFid (fid flags : UInt32)
  | read (fid : UInt32) (offset : UInt64) (count : UInt32)
  | getAttr (fid : UInt32)
  | readDir (fid : UInt32) (offset : UInt64) (count : UInt32)
  | clunk (fid : UInt32)
  | write (fid : UInt32) (offset : UInt64) (data : Bytes)
  | create (parentFid : UInt32) (name : Bytes) (flags mode gid : UInt32)
  | mkdir (parentFid : UInt32) (name : Bytes) (mode gid : UInt32)
  | unlink (dirfid : UInt32) (name : Bytes) (flags : UInt32)
  | rename (olddirfid : UInt32) (oldname : Bytes) (newdirfid : UInt32) (newname : Bytes)
  deriving DecidableEq, Repr

variable {σ : Type}

/-- Make the call. The first component is the fid that a successful `Walk` or
`WalkParent` returns. -/
def performCall (T : Transport σ) : SessionCall → Link σ → Option UInt32 × Link σ
  | .initializeSession aname, w => (none, (initializeSession T aname w).2)
  | .walk path, w => ((walk T path w).1.toOption, (walk T path w).2)
  | .walkParent path, w =>
    ((walkParent T path w).1.toOption.map Prod.fst, (walkParent T path w).2)
  | .openFid fid flags, w => (none, (openFid T fid flags w).2)
  | .read fid offset count, w => (none, (read T fid offset count w).2)
  | .getAttr fid, w => (none, (getAttr T fid w).2)
  | .readDir fid offset count, w => (none, (readDir T fid offset count w).2)
  | .clunk fid, w => (none, (clunk T fid w).2)
  | .write fid offset data, w =>
    (none, (write T fid offset data (UInt32.ofNat data.length) w).2)
  | .create parentFid name flags mode gid, w =>
    (none, (create T parentFid name flags mode gid w).2)
  | .mkdir parentFid name mode gid, w => (none, (mkdir T parentFid name mode gid w).2)
  | .unlink dirfid name flags, w => (none, (unlink T dirfid name flags w).2)
  | .rename olddirfid oldname newdirfid newname, w =>
    (none, (rename T olddirfid oldname newdirfid newname w).2)

/-- The request that a call passes to `Transact`; none for `Initialize`, which passes
two, and for a `WalkParent` of a path without basename. -/
def SessionCall.request (s : NinePSession) : SessionCall → Option Request
  | initializeSession _ => none
  | walk path => some (.twalk s.rootFid s.fidPool.nextFid (splitPath path))
  | walkParent path =>
    if (splitParent path).2 = [] then none
    else some (.twalk s.rootFid s.fidPool.nextFid (splitPath (splitParent path).1))
  | openFid fid flags => some (.tlopen fid flags)
  | read fid offset count => some (.tread fid offset count)
  | getAttr fid => some (.tgetattr fid getattrBasic)
  | readDir fid offset count => some (.treaddir fid offset count)
  | clunk fid => some (.tclunk fid)
  | write fid offset data => some (.twrite fid offset data)
  | create parentFid name flags mode gid => some (.tlcreate parentFid name flags mode gid)
  | mkdir parentFid name mode gid => some (.tmkdir parentFid name mode gid)
  | unlink dirfid name flags => some (.tunlinkat dirfid name flags)
  | rename olddirfid oldname newdirfid newname =>
    some (.trenameat olddirfid oldname newdirfid newname)

/-- The call allocates a fid for the result of a Twalk. -/
def SessionCall.takesFid : SessionCall → Bool
  | walk _ => true
  | walkParent path => (splitParent path).2 ≠ []
  | _ => false

/-- The session with which the request is sent, but for its tag. -/
def SessionCall.prepared (call : SessionCall) (s : NinePSession) : NinePSession :=
  if call.takesFid then s.allocateFid.2 else s

/-- Every exchange that the call makes first succeeds. -/
def Undisturbed (T : Transport σ) (call : SessionCall) (w : Link σ) : Prop :=
  match call with
  | .initializeSession aname =>
    w.exchangeCode T versionRequest = 0 ∧
      ∀ size, acceptVersion (w.answer T versionRequest) = .ok size →
        (w.exchanged T versionRequest).exchangeCode T
          (attachRequest aname w.session.nextTag w.session.fidPool.nextFid) = 0
  | call => ∀ r, call.request w.session = some r →
      w.exchangeCode T (r.build w.session.nextTag) = 0

/-! ### The request of a call -/

section Request

variable {T : Transport σ}

/-- The link after the `Transact` of a call. -/
def SessionCall.transacted (T : Transport σ) (call : SessionCall) (r : Request) (w : Link σ) :
    Link σ :=
  (transact T (r.build w.session.nextTag) (w.onSession call.prepared).tagged).2

theorem SessionCall.onSession_plain {call : SessionCall} (plain : call.takesFid = false)
    (w : Link σ) : w.onSession call.prepared = w := by
  have same : call.prepared w.session = w.session := by
    rw [prepared, plain]
    rfl
  rw [Link.onSession, same]

/-- Two links differ in what their sessions know of fids at most. -/
structure Link.SameWire (w w' : Link σ) : Prop where
  transport : w.transport = w'.transport
  sent : w.sent = w'.sent
  nextTag : w.session.nextTag = w'.session.nextTag

theorem walk_wire (path : Bytes) (w : Link σ) :
    (walk T path w).2.SameWire (SessionCall.transacted T (.walk path)
      (.twalk w.session.rootFid w.session.fidPool.nextFid (splitPath path)) w) := by
  unfold walk
  simp only
  split
  · exact ⟨rfl, rfl, rfl⟩
  · split <;> exact ⟨rfl, rfl, rfl⟩

/-- Apart from `Walk` and `Clunk`, a call does nothing but the `Transact` of its request. -/
theorem performCall_plain {call : SessionCall} {w : Link σ} {r : Request}
    (sends : call.request w.session = some r) (plain : call.takesFid = false)
    (notClunk : r.type ≠ .tclunk) : (performCall T call w).2 = call.transacted T r w := by
  cases call with
  | initializeSession aname => cases sends
  | walk path => cases plain
  | walkParent path =>
    have none : (splitParent path).2 = [] := by simpa [SessionCall.takesFid] using plain
    simp only [SessionCall.request, if_pos none] at sends
    cases sends
  | clunk fid =>
    cases sends
    exact absurd rfl notClunk
  | read fid offset count =>
    cases sends
    unfold performCall read
    simp only
    split <;> rfl
  | readDir fid offset count =>
    cases sends
    unfold performCall readDir
    simp only
    split <;> rfl
  | write fid offset data =>
    cases sends
    unfold performCall write
    simp only
    split <;> rfl
  | _ =>
    cases sends
    rfl

/-- What happens on the wire during a call is the `Transact` of its request. -/
theorem performCall_wire {call : SessionCall} {w : Link σ} {r : Request}
    (sends : call.request w.session = some r) :
    (performCall T call w).2.SameWire (call.transacted T r w) := by
  cases call with
  | initializeSession aname => cases sends
  | walk path =>
    cases sends
    exact walk_wire path w
  | walkParent path =>
    by_cases basename : (splitParent path).2 = []
    · simp only [SessionCall.request, if_pos basename] at sends
      cases sends
    · simp only [SessionCall.request, if_neg basename] at sends
      cases sends
      have takes : SessionCall.takesFid (.walkParent path) = true := decide_eq_true basename
      have same : (SessionCall.walkParent path).prepared =
          (SessionCall.walk (splitParent path).1).prepared := by
        funext s
        simp only [SessionCall.prepared, takes]
        rfl
      simp only [performCall, walkParent, SessionCall.transacted, same, if_neg basename]
      exact walk_wire (splitParent path).1 w
  | clunk fid =>
    cases sends
    exact ⟨rfl, rfl, rfl⟩
  | _ =>
    cases sends
    rw [performCall_plain rfl rfl (by simp [Request.type])]
    exact ⟨rfl, rfl, rfl⟩

theorem performCall_transport {call : SessionCall} {w : Link σ} {r : Request}
    (sends : call.request w.session = some r) :
    (performCall T call w).2.transport = (call.transacted T r w).transport :=
  (performCall_wire sends).transport

end Request

/-! ### Calls as runs of elementary steps -/

/-- Any request may be sent. -/
def anyRequest : Bytes → Prop := fun _ => True

theorem restartable_anyRequest (aname : Bytes) : Restartable anyRequest aname :=
  ⟨trivial, fun _ _ => trivial⟩

/-- `Initialize` first stores the attach name, the other calls keep it. -/
theorem performCall_steps (T : Transport σ) (call : SessionCall) (w : Link σ) :
    ∃ aname, Link.Steps T anyRequest (w.onSession fun s => { s with aname := aname })
      (performCall T call w).2 := by
  have base := restartable_anyRequest
  cases call with
  | initializeSession aname => exact ⟨aname, initializeSession_steps (base aname) w⟩
  | walk path =>
    exact ⟨w.session.aname, walk_steps (base _) (fun _ _ _ => trivial) rfl⟩
  | walkParent path =>
    exact ⟨w.session.aname, walkParent_steps (base _) (fun _ _ _ _ => trivial) rfl⟩
  | openFid fid flags =>
    exact ⟨w.session.aname, call_steps (w := w) (base _) (fun tag => buildTlopen tag fid flags)
      (fun m => (parseRlopen m).1.map Prod.snd) trivial rfl⟩
  | read fid offset count =>
    exact ⟨w.session.aname, read_steps (base _) (fun _ => trivial) rfl⟩
  | getAttr fid =>
    exact ⟨w.session.aname, call_steps (w := w) (base _)
      (fun tag => buildTgetattr tag fid getattrBasic) (fun m => (parseRgetattr m).1) trivial rfl⟩
  | readDir fid offset count =>
    exact ⟨w.session.aname, readDir_steps (base _) (fun _ => trivial) rfl⟩
  | clunk fid =>
    exact ⟨w.session.aname, clunk_steps (base _) fid (fun _ => trivial) rfl⟩
  | write fid offset data =>
    exact ⟨w.session.aname, write_steps (base _) (fun _ => trivial) rfl⟩
  | create parentFid name flags mode gid =>
    exact ⟨w.session.aname, call_steps (w := w) (base _)
      (fun tag => buildTlcreate tag parentFid name flags mode gid) (fun m => (parseRlcreate m).1)
      trivial rfl⟩
  | mkdir parentFid name mode gid =>
    exact ⟨w.session.aname, call_steps (w := w) (base _)
      (fun tag => buildTmkdir tag parentFid name mode gid) (fun m => (parseRmkdir m).1) trivial rfl⟩
  | unlink dirfid name flags =>
    exact ⟨w.session.aname, call_steps (w := w) (base _)
      (fun tag => buildTunlinkat tag dirfid name flags) (fun m => (parseRunlinkat m).1) trivial rfl⟩
  | rename olddirfid oldname newdirfid newname =>
    exact ⟨w.session.aname, call_steps (w := w) (base _)
      (fun tag => buildTrenameat tag olddirfid oldname newdirfid newname)
      (fun m => (parseRrenameat m).1) trivial rfl⟩

end Virtio9p
