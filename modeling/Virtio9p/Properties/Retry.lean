import Virtio9p.Protocol.Calls
import Virtio9p.Server.FidServer

/-!
# What a retried request finds on the server

`Transact` sends the same bytes again after a re-initialization. On the server nothing
but the root is bound by then, to fid 0.
-/
namespace Virtio9p

open NinePMessage

variable {σ Obj φ : Type}

/-! ### Attempts -/

/-- The attempts of `Transact` that fail and are followed by another one, if `further`
attempts may follow: the link before the exchange and the link in which the next attempt
starts. -/
def retries (T : Transport σ) (request : NinePMessage) : Nat → Link σ → List (Link σ × Link σ)
  | 0, _ => []
  | further + 1, w =>
    if w.exchangeCode T request = 0 ∨ w.session.reinitializing = true then []
    else
      let reinit := reinitializeSession T (w.exchanged T request)
      if reinit.1 ≠ 0 then [] else (w, reinit.2) :: retries T request further reinit.2

section Attempts

variable {T : Transport σ} {request : NinePMessage}

theorem mem_retries_succ {further : Nat} {w : Link σ} {p : Link σ × Link σ}
    (member : p ∈ retries T request (further + 1) w) :
    w.exchangeCode T request ≠ 0 ∧ w.session.reinitializing = false ∧
      (reinitializeSession T (w.exchanged T request)).1 = 0 ∧
      (p = (w, (reinitializeSession T (w.exchanged T request)).2) ∨
        p ∈ retries T request further (reinitializeSession T (w.exchanged T request)).2) := by
  unfold retries at member
  split at member
  · cases member
  · rename_i goesOn
    obtain ⟨failed, outer⟩ := not_or.mp goesOn
    simp only at member
    split at member
    · cases member
    · rename_i done
      exact ⟨failed, Bool.eq_false_of_not_eq_true outer, not_not.mp done, List.mem_cons.mp member⟩

/-- If there is a retry at all, the first attempt is followed by one. -/
theorem first_mem_retries {further : Nat} {w : Link σ}
    (some : retries T request (further + 1) w ≠ []) :
    (reinitializeSession T (w.exchanged T request)).1 = 0 ∧
      (w, (reinitializeSession T (w.exchanged T request)).2) ∈
        retries T request (further + 1) w := by
  -- the first failure is what makes any later one possible
  obtain ⟨p, member⟩ := List.exists_mem_of_ne_nil _ some
  obtain ⟨failed, outer, done, _⟩ := mem_retries_succ member
  refine ⟨done, ?_⟩
  have goesOn : ¬ (w.exchangeCode T request = 0 ∨ w.session.reinitializing = true) := by
    rintro (ok | inner)
    · exact failed ok
    · rw [outer] at inner
      cases inner
  rw [retries, if_neg goesOn]
  simp only [if_neg (not_not_intro done)]
  exact List.mem_cons_self

end Attempts

/-- The retries of a call. -/
def SessionCall.retries (T : Transport σ) (call : SessionCall) (w : Link σ) :
    List (Link σ × Link σ) :=
  match call.request w.session with
  | none => []
  | some r => Virtio9p.retries T (r.build w.session.nextTag) 2 (w.onSession call.prepared).tagged

/-! ### Servers whose answers depend on objects -/

/-- A server that drops fids and looks through them: what it answers depends on the bytes
of the request, the objects that its fids are bound to and the state of the files. -/
structure Transport.ServesObjects (T : Transport σ) (table : σ → FidTable Obj)
    (root : Bytes → Obj) (files : σ → φ) (answer : φ → List (Option Obj) → Bytes → Bytes) : Prop
    extends T.DropsFids table root where
  answers : ∀ s (r : Request) tag, r.Fits → (T.exchange (r.build tag).data s).1.1 = 0 →
    (T.exchange (r.build tag).data s).1.2 =
      answer (files s) (r.carried.map (table s)) (r.build tag).data

/-- What a retry has to find. -/
structure Rebound (T : Transport σ) (table : σ → FidTable Obj) (files : σ → φ)
    (answer : φ → List (Option Obj) → Bytes → Bytes) (r : Request) (tag : UInt16)
    (before after : Link σ) : Prop where
  /-- Every fid names the object that it named before the failure. -/
  fids : ∀ fid ∈ r.fids, table after.transport fid = table before.transport fid
  /-- The new fid of a Twalk is free on the server and allocated in the pool. -/
  newfid : ∀ fid, r.newfid = some fid → table after.transport fid = none ∧
    after.session.fidPool.isAllocated fid = true
  /-- If the files are what they were, the answer is the one that was lost. -/
  answer : r.Fits → files after.transport = files before.transport →
    after.exchangeCode T (r.build tag) = 0 → (T.exchange (r.build tag).data after.transport).1.2 =
      answer (files before.transport) (r.carried.map (table before.transport)) (r.build tag).data

section Retried

variable {T : Transport σ} {table : σ → FidTable Obj} {root : Bytes → Obj} {files : σ → φ}
  {answer : φ → List (Option Obj) → Bytes → Bytes} {r : Request} {tag : UInt16}

/-- The root under fid 0 is all that a retry finds. -/
theorem rebound_root (serves : T.ServesObjects table root files answer) {before after : Link σ}
    {aname : Bytes} (fresh : after.Fresh table (root aname) aname) (noNew : r.newfid = none)
    (atRoot : ∀ fid ∈ r.fids, fid = 0 ∧ table before.transport 0 = some (root aname)) :
    Rebound T table files answer r tag before after := by
  have fids : ∀ fid ∈ r.fids, table after.transport fid = table before.transport fid := by
    intro fid member
    obtain ⟨rfl, bound⟩ := atRoot fid member
    rw [fresh.bound, bound, FidTable.single_self]
  refine ⟨fids, ?_, ?_⟩
  · intro fid new
    rw [noNew] at new
    cases new
  · intro fits same ok
    rw [serves.answers after.transport r tag fits ok, same]
    -- the request names the root only
    have objects : r.carried.map (table after.transport) =
      r.carried.map (table before.transport) := by
      apply List.map_congr_left
      intro fid member
      rw [Request.carried, noNew, Option.toList_none, List.append_nil] at member
      exact fids fid member
    rw [objects]

theorem retries_rebound (serves : T.ServesObjects table root files answer)
    (noNew : r.newfid = none) {further : Nat} {w : Link σ}
    (atRoot : ∀ fid ∈ r.fids, fid = 0 ∧ table w.transport 0 = some (root w.session.aname))
    (p : Link σ × Link σ) (member : p ∈ retries T (r.build tag) further w) :
    Rebound T table files answer r tag p.1 p.2 := by
  induction further generalizing w with
  | zero => cases member
  | succ further ih =>
    obtain ⟨_, _, done, here | later⟩ := mem_retries_succ member
    · have fresh := reinitializeSession_fresh serves.toDropsFids done
      subst here
      exact rebound_root serves fresh noNew atRoot
    · have fresh := reinitializeSession_fresh serves.toDropsFids done
      refine ih ?_ later
      intro fid member
      refine ⟨(atRoot fid member).1, ?_⟩
      rw [fresh.bound, FidTable.single_self, fresh.aname]

/-- A retry that finds what it needs was a request on the root. -/
theorem atRoot_of_rebound (before : Link σ) {after : Link σ} {aname : Bytes}
    (fresh : after.Fresh table (root aname) aname)
    (bound : ∀ fid ∈ r.fids, table before.transport fid ≠ none)
    (rebound : Rebound T table files answer r tag before after) :
    r.newfid = none ∧ ∀ fid ∈ r.fids, fid = 0 ∧ table before.transport 0 = some (root aname) := by
  constructor
  · cases new : r.newfid with
    | none => rfl
    | some fid =>
      -- the only allocated fid is the root's, and that one is bound
      obtain ⟨free, allocated⟩ := rebound.newfid fid new
      rw [FidPool.isAllocated_iff, fresh.allocated] at allocated
      rw [Finset.mem_singleton.mp allocated, fresh.bound, FidTable.single_self] at free
      cases free
  · intro fid member
    have same := rebound.fids fid member
    obtain ⟨object, named⟩ := Option.ne_none_iff_exists'.mp (bound fid member)
    rw [named, fresh.bound] at same
    obtain ⟨rfl, rfl⟩ := FidTable.single_eq_some same
    exact ⟨rfl, named⟩

end Retried

/-- Every retry of a call on bound handles finds what it needs if and only if there is no
retry, or the call is one on the root under fid 0 that is no walk. -/
theorem retries_rebound_iff {T : Transport σ} {table : σ → FidTable Obj} {root : Bytes → Obj}
    {files : σ → φ} {answer : φ → List (Option Obj) → Bytes → Bytes}
    (serves : T.ServesObjects table root files answer) {call : SessionCall} {r : Request}
    {w : Link σ} (sends : call.request w.session = some r)
    (bound : ∀ fid ∈ r.fids, table w.transport fid ≠ none) :
    (∀ p ∈ call.retries T w,
        Rebound T table files answer r w.session.nextTag p.1 p.2) ↔
      call.retries T w = [] ∨ (r.newfid = none ∧
        ∀ fid ∈ r.fids, fid = 0 ∧ table w.transport 0 = some (root w.session.aname)) := by
  let start := (w.onSession call.prepared).tagged
  have sent : call.retries T w = retries T (r.build w.session.nextTag) 2 start := by
    rw [SessionCall.retries, sends]
  rw [sent]
  -- preparing a call allocates a fid at most
  have aname : start.session.aname = w.session.aname := by
    change (call.prepared w.session).aname = w.session.aname
    unfold SessionCall.prepared
    split <;> rfl
  constructor
  · intro rebound
    by_cases none : retries T (r.build w.session.nextTag) 2 start = []
    · exact Or.inl none
    · obtain ⟨done, member⟩ := first_mem_retries none
      have fresh := reinitializeSession_fresh serves.toDropsFids done
      change Link.Fresh table (root start.session.aname) start.session.aname _ at fresh
      rw [aname] at fresh
      exact Or.inr (atRoot_of_rebound start fresh bound (rebound _ member))
  · rintro (none | ⟨noNew, atRoot⟩) p member
    · rw [none] at member
      cases member
    · refine retries_rebound serves noNew (w := start) ?_ p member
      rw [aname]
      exact atRoot

/-! ### A lossy server -/

/-- The bytes that the server answers with; they do not depend on any files. -/
def FidServer.answer (msize : UInt32) (_ : Unit) (objects : List (Option Nat)) (request : Bytes) :
    Bytes :=
  ((respond msize objects request).encode (UInt16.ofNat (fieldAt request 5 2))).data

theorem lossyFidServer_servesObjects (msize : UInt32) :
    (lossyFidServer msize).ServesObjects (fun s => s.2.table) (fun _ => 0) (fun _ => ())
      (FidServer.answer msize) where
  toDropsFids := lossyFidServer_drops msize
  answers s r tag fits ok := by
    rw [← FidServer.fidsOf_build r tag fits]
    rcases lossy_exchange (fidServer msize) (fun s => { s with table := FidTable.empty })
      (r.build tag).data s with ⟨failed, _⟩ | ⟨answer, _⟩
    · exact absurd ok failed
    · exact congrArg Prod.snd answer

/-- The session after an `Initialize`, when the next request will be lost. -/
def attachedLink : Link (List Fate × FidServer) :=
  (initializeSession (lossyFidServer 8192) []
    ⟨NinePSession.new, FidServer.start [.delivered, .delivered, .requestLost], []⟩).2

/-- A `GetAttr` of the root. -/
theorem retries_rebound_iff_getAttr :
    (∀ p ∈ SessionCall.retries (lossyFidServer 8192) (.getAttr 0) attachedLink,
      Rebound (lossyFidServer 8192) (fun s => s.2.table) (fun _ => ()) (FidServer.answer 8192)
        (.tgetattr 0 getattrBasic) attachedLink.session.nextTag p.1 p.2) ↔
      SessionCall.retries (lossyFidServer 8192) (.getAttr 0) attachedLink = [] ∨
        (Request.newfid (.tgetattr 0 getattrBasic) = none ∧
          ∀ fid ∈ Request.fids (.tgetattr 0 getattrBasic),
            fid = 0 ∧ attachedLink.transport.2.table 0 = some 0) := by
  refine retries_rebound_iff (lossyFidServer_servesObjects 8192) rfl ?_
  intro fid member
  rw [List.mem_singleton.mp member]
  decide +kernel

/-- The session after a `Walk` to a file, which has fid 1, when the next request will be
lost. -/
def walkedLink : Link (List Fate × FidServer) :=
  (walk (lossyFidServer 8192) [97] (initializeSession (lossyFidServer 8192) []
    ⟨NinePSession.new, FidServer.start [.delivered, .delivered, .delivered, .requestLost], []⟩).2).2

/-- A `Read` of this file: the retry names a fid that is not bound any more. -/
theorem retriedRead_fid_unbound :
    (lossyFidServer 8192).ServesObjects (fun s => s.2.table) (fun _ => 0) (fun _ => ())
        (FidServer.answer 8192) ∧
      SessionCall.request walkedLink.session (.read 1 0 16) = some (.tread 1 0 16) ∧
      (∀ fid ∈ Request.fids (.tread 1 0 16), walkedLink.transport.2.table fid ≠ none) ∧
      ¬ ∀ p ∈ SessionCall.retries (lossyFidServer 8192) (.read 1 0 16) walkedLink,
        Rebound (lossyFidServer 8192) (fun s => s.2.table) (fun _ => ()) (FidServer.answer 8192)
          (.tread 1 0 16) walkedLink.session.nextTag p.1 p.2 := by
  refine ⟨lossyFidServer_servesObjects 8192, rfl, ?_, ?_⟩
  · intro fid member
    rw [List.mem_singleton.mp member]
    decide +kernel
  · intro rebound
    have retried : retries (lossyFidServer 8192) ((Request.tread 1 0 16).build
        walkedLink.session.nextTag) 2 walkedLink.tagged ≠ [] := by
      rw [Ne, ← List.isEmpty_iff]
      decide +kernel
    obtain ⟨done, member⟩ := first_mem_retries retried
    have fresh := reinitializeSession_fresh (lossyFidServer_drops 8192) done
    have same := (rebound _ member).fids 1 List.mem_cons_self
    rw [fresh.bound] at same
    have bound : walkedLink.transport.2.table 1 ≠ none := by decide +kernel
    exact bound same.symm

end Virtio9p
