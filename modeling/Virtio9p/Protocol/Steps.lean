import Mathlib.Logic.Relation
import Virtio9p.Protocol.Transact

/-!
# Session operations as runs of elementary steps

Whatever the transport does, an operation changes the session in a handful of ways
only, in some order. `Link.Step` lists them; the theorems of this module say that every
operation is a run of such steps, so that an invariant of the steps is an invariant of
the operations.
-/
namespace Virtio9p

open NinePMessage

variable {σ : Type}

def Link.onSession (f : NinePSession → NinePSession) (w : Link σ) : Link σ :=
  { w with session := f w.session }

/-- An answer to a Tversion that the session accepts. -/
def Transport.Negotiates (T : Transport σ) (size : UInt32) : Prop :=
  ∃ s, (T.exchange versionRequest.data s).1.1 = 0 ∧
    (parseRversion (ofData (T.exchange versionRequest.data s).1.2)).1 = some (size, protocolVersion)

/-- One elementary step; `own` are the requests that may be sent. -/
inductive Link.Step (T : Transport σ) (own : Bytes → Prop) : Link σ → Link σ → Prop
  | takeTag (w : Link σ) : Step T own w w.tagged
  | allocate (w : Link σ) : Step T own w (w.onSession fun s => s.allocateFid.2)
  | release (w : Link σ) (fid : UInt32) : Step T own w (w.release fid)
  | exchange (w : Link σ) (request : NinePMessage) (sendable : own request.data) :
      Step T own w (w.exchanged T request)
  | restart (w : Link σ) : Step T own w (w.onSession NinePSession.restarted)
  | resume (w : Link σ) : Step T own w (w.onSession NinePSession.resumed)
  | setUp (w : Link σ) (size : UInt32) (accepted : T.Negotiates size) :
      Step T own w (w.onSession fun s => s.setUp size)

abbrev Link.Steps (T : Transport σ) (own : Bytes → Prop) : Link σ → Link σ → Prop :=
  Relation.ReflTransGen (Link.Step T own)

/-- A re-initialization may be sent. -/
structure Restartable (own : Bytes → Prop) (aname : Bytes) : Prop where
  version : own versionRequest.data
  attach : ∀ tag fid, own (attachRequest aname tag fid).data

section Steps

variable {T : Transport σ} {own : Bytes → Prop} {aname : Bytes}

theorem aname_step {w w' : Link σ} (step : Link.Step T own w w') :
    w'.session.aname = w.session.aname := by
  cases step <;> rfl

theorem aname_steps {w w' : Link σ} (steps : Link.Steps T own w w') :
    w'.session.aname = w.session.aname := by
  induction steps with
  | refl => rfl
  | tail _ step ih => exact (aname_step step).trans ih

/-- The attach name stays what it is, so a further run may rely on it. -/
theorem steps_trans {w w' w'' : Link σ} (named : w.session.aname = aname)
    (first : Link.Steps T own w w')
    (next : w'.session.aname = aname → Link.Steps T own w' w'') : Link.Steps T own w w'' :=
  first.trans (next ((aname_steps first).trans named))

/-! ### Transact -/

theorem transactLoop_steps {R : Link σ → Int32 × Link σ}
    (inner : ∀ w, w.session.aname = aname → Link.Steps T own w (R w).2) {request : NinePMessage}
    (sendable : own request.data) (attempts : Nat) {w : Link σ} (named : w.session.aname = aname) :
    Link.Steps T own w (transactLoop T R request attempts w).2 := by
  -- every round is an exchange, and a re-initialization if that fails
  induction attempts generalizing w with
  | zero => exact Relation.ReflTransGen.refl
  | succ attempts ih =>
    have sent : Link.Steps T own w (w.exchanged T request) :=
      Relation.ReflTransGen.single (.exchange w request sendable)
    by_cases ok : w.exchangeCode T request = 0
    · rw [transactLoop_ok R ok]
      exact sent
    · cases outer : w.session.reinitializing with
      | true =>
        rw [transactLoop_reinitializing R outer]
        exact sent
      | false =>
        rw [transactLoop_failed R ok outer]
        have again := inner (w.exchanged T request) named
        split
        · exact sent.trans again
        · exact (sent.trans again).trans (ih ((aname_steps again).trans named))

/-- A result of 0 comes with the bytes of a successful exchange. -/
theorem transactLoop_origin {R : Link σ → Int32 × Link σ} {request : NinePMessage}
    {attempts : Nat} {w : Link σ} (done : (transactLoop T R request attempts w).1.1 = 0) :
    ∃ s, (T.exchange request.data s).1.1 = 0 ∧
      (transactLoop T R request attempts w).1.2 = ofData (T.exchange request.data s).1.2 := by
  induction attempts generalizing w with
  | zero =>
    have failed : (-eio : Int32) = 0 := done
    exact absurd failed (by decide)
  | succ attempts ih =>
    by_cases ok : w.exchangeCode T request = 0
    · -- the bytes are those of this exchange
      rw [transactLoop_ok R ok] at done ⊢
      refine ⟨w.transport, ok, ?_⟩
      simp only [Link.answer, if_neg (not_not_intro ok), readResponse]
      cases isRlerror (ofData (T.exchange request.data w.transport).1.2) <;> rfl
    · cases outer : w.session.reinitializing with
      | true =>
        -- inside a re-initialization the code of the exchange is returned
        rw [transactLoop_reinitializing R outer, Link.answer, if_pos ok] at done
        exact absurd done ok
      | false =>
        rw [transactLoop_failed R ok outer] at done ⊢
        split at done
        · exact absurd done ok
        · rename_i again
          rw [if_neg again]
          exact ih done

/-! ### Initialize and Reinitialize -/

theorem readReply_ok {α : Type} {parse : NinePMessage → Option α} {reply : Int32 × NinePMessage}
    {a : α} (ok : readReply parse reply = .ok a) : reply.1 = 0 ∧ parse reply.2 = some a := by
  unfold readReply at ok
  split at ok
  · cases ok
  · rename_i code
    split at ok
    · cases ok
    · rename_i value parsed
      cases ok
      exact ⟨not_not.mp code, parsed⟩

theorem acceptVersion_ok {reply : Int32 × NinePMessage} {size : UInt32}
    (ok : acceptVersion reply = .ok size) :
    reply.1 = 0 ∧ (parseRversion reply.2).1 = some (size, protocolVersion) := by
  unfold acceptVersion at ok
  split at ok
  · cases ok
  · rename_i negotiatedSize version read
    obtain ⟨code, parsed⟩ := readReply_ok read
    split at ok
    · cases ok
    · rename_i same
      cases ok
      rw [not_not.mp same] at parsed
      exact ⟨code, parsed⟩

theorem attachWith_steps {R : Link σ → Int32 × Link σ}
    (inner : ∀ w, w.session.aname = aname → Link.Steps T own w (R w).2)
    (restartable : Restartable own aname) {w : Link σ} (named : w.session.aname = aname) :
    Link.Steps T own w (attachWith (transactWith T R) aname w).2 := by
  have tagged : Link.Steps T own w w.tagged := Relation.ReflTransGen.single (.takeTag w)
  have attach := tagged.trans (transactLoop_steps inner
    (restartable.attach w.session.nextTag w.session.rootFid) maxRetries (w := w.tagged) named)
  unfold attachWith
  simp only
  split
  · exact attach.tail (.release _ _)
  · exact attach

theorem initializeWith_steps {R : Link σ → Int32 × Link σ}
    (inner : ∀ w, w.session.aname = aname → Link.Steps T own w (R w).2)
    (restartable : Restartable own aname) {w : Link σ} (named : w.session.aname = aname) :
    Link.Steps T own w (initializeWith (transactWith T R) aname w).2 := by
  -- the attach name is stored already
  have same : ({ w with session := { w.session with aname := aname } } : Link σ) = w := by
    rw [← named]
  simp only [initializeWith, same]
  have version : Link.Steps T own w (transactWith T R versionRequest w).2 :=
    transactLoop_steps inner restartable.version maxRetries named
  split
  · exact version
  · rename_i size accepted
    obtain ⟨code, parsed⟩ := acceptVersion_ok accepted
    obtain ⟨s, exchanged, response⟩ := transactLoop_origin code
    -- so the size is one that the server has answered with
    have negotiated : T.Negotiates size := ⟨s, exchanged, by rw [← response]; exact parsed⟩
    have setUp := version.tail (.setUp _ size negotiated)
    exact setUp.trans (attachWith_steps inner restartable ((aname_steps setUp).trans named))

theorem reinitializeSession_steps (restartable : Restartable own aname) (w : Link σ)
    (named : w.session.aname = aname) : Link.Steps T own w (reinitializeSession T w).2 := by
  have restarted : Link.Steps T own w (w.onSession NinePSession.restarted) :=
    Relation.ReflTransGen.single (.restart w)
  -- the nested `Transact` does not recurse, so any function will do here
  have initialized := initializeWith_steps (T := T) (R := fun w => (-eio, w))
    (fun _ _ => Relation.ReflTransGen.refl) restartable
    (w := w.onSession NinePSession.restarted) named
  have result := (restarted.trans initialized).tail (.resume _)
  subst named
  exact result

theorem transact_steps (restartable : Restartable own aname) {request : NinePMessage}
    (sendable : own request.data) {w : Link σ} (named : w.session.aname = aname) :
    Link.Steps T own w (transact T request w).2 :=
  transactLoop_steps (reinitializeSession_steps restartable) sendable maxRetries named

theorem initializeSession_steps (restartable : Restartable own aname) (w : Link σ) :
    Link.Steps T own (w.onSession fun s => { s with aname := aname })
      (initializeSession T aname w).2 :=
  initializeWith_steps (w := w.onSession fun s => { s with aname := aname })
    (reinitializeSession_steps restartable) restartable rfl

/-! ### Calls -/

theorem call_steps {α : Type} (restartable : Restartable own aname)
    (build : UInt16 → NinePMessage) (parse : NinePMessage → Option α) {w : Link σ}
    (sendable : own (build w.session.nextTag).data)
    (named : w.session.aname = aname) :
    Link.Steps T own w (Link.call T build parse w).2 :=
  (Relation.ReflTransGen.single (.takeTag w)).trans
    (transact_steps restartable sendable (w := w.tagged) named)

/-- `Walk` may send its Twalk, whatever the fids. -/
def Walkable (own : Bytes → Prop) (path : Bytes) : Prop :=
  ∀ tag fid newfid, own (buildTwalk tag fid newfid (splitPath path)).data

theorem walk_steps (restartable : Restartable own aname) {path : Bytes}
    (walkable : Walkable own path) {w : Link σ} (named : w.session.aname = aname) :
    Link.Steps T own w (walk T path w).2 := by
  let allocated : Link σ := w.onSession fun s => s.allocateFid.2
  have first : Link.Steps T own w allocated := Relation.ReflTransGen.single (.allocate w)
  have called := first.trans (call_steps (T := T) restartable
    (fun tag => buildTwalk tag w.session.rootFid w.session.allocateFid.1 (splitPath path))
    (fun m => (parseRwalk [] m).1) (w := allocated) (walkable _ _ _) named)
  unfold walk
  simp only
  split
  · exact called.tail (.release _ _)
  · split
    · exact called.tail (.release _ _)
    · exact called

theorem walkParent_steps (restartable : Restartable own aname) {path : Bytes}
    (walkable : (splitParent path).2 ≠ [] → Walkable own (splitParent path).1) {w : Link σ}
    (named : w.session.aname = aname) : Link.Steps T own w (walkParent T path w).2 := by
  unfold walkParent
  simp only
  split
  · exact Relation.ReflTransGen.refl
  · rename_i basename
    exact walk_steps restartable (walkable basename) named

theorem walkParent_ok {path : Bytes} {w w' : Link σ} {fid : UInt32} {basename : Bytes}
    (found : walkParent T path w = (.ok (fid, basename), w')) :
    basename = (splitParent path).2 ∧ basename ≠ [] ∧
      walk T (splitParent path).1 w = (.ok fid, w') := by
  unfold walkParent at found
  simp only at found
  split at found
  · cases congrArg Prod.fst found
  · rename_i nonempty
    cases walked : walk T (splitParent path).1 w with
    | mk result reached =>
      rw [walked] at found
      cases result with
      | error rc => cases congrArg Prod.fst found
      | ok fid' =>
        cases found
        exact ⟨rfl, nonempty, rfl⟩

theorem clunk_steps (restartable : Restartable own aname) (fid : UInt32)
    (sendable : ∀ tag, own (buildTclunk tag fid).data) {w : Link σ}
    (named : w.session.aname = aname) : Link.Steps T own w (clunk T fid w).2 :=
  (call_steps restartable (fun tag => buildTclunk tag fid) _ (sendable _) named).tail
    (.release _ fid)

theorem read_steps (restartable : Restartable own aname) {fid count : UInt32} {offset : UInt64}
    (sendable : ∀ tag, own (buildTread tag fid offset count).data) {w : Link σ}
    (named : w.session.aname = aname) : Link.Steps T own w (read T fid offset count w).2 := by
  have called := call_steps (T := T) restartable (fun tag => buildTread tag fid offset count)
    (markFault parseRread) (w := w) (sendable _) named
  unfold read
  simp only
  split <;> exact called

theorem readDir_steps (restartable : Restartable own aname) {fid count : UInt32}
    {offset : UInt64} (sendable : ∀ tag, own (buildTreaddir tag fid offset count).data)
    {w : Link σ} (named : w.session.aname = aname) :
    Link.Steps T own w (readDir T fid offset count w).2 := by
  have called := call_steps (T := T) restartable (fun tag => buildTreaddir tag fid offset count)
    (markFault (parseRreaddir [])) (w := w) (sendable _) named
  unfold readDir
  simp only
  split <;> exact called

theorem write_steps (restartable : Restartable own aname) {fid count : UInt32} {offset : UInt64}
    {data : Bytes} (sendable : ∀ tag, own (buildTwrite tag fid offset data count).data)
    {w : Link σ} (named : w.session.aname = aname) :
    Link.Steps T own w (write T fid offset data count w).2 := by
  have called := call_steps (T := T) restartable
    (fun tag => buildTwrite tag fid offset data count) (fun m => (parseRwrite m).1) (w := w)
    (sendable _) named
  unfold write
  simp only
  split <;> exact called

end Steps

end Virtio9p
