import Virtio9p.Protocol.Calls
import Virtio9p.Server.FidServer

/-!
# How often a request is executed

A request whose response is lost was executed, and `Transact` sends it again. What
protects a file is only that the server has forgotten the fid by then, unless it is 0.
-/
namespace Virtio9p

open NinePMessage

variable {σ Obj : Type}

/-- The fids that a server finds in the bytes of a request. A name of `2 ^ 16` bytes or more
breaks its length field, and what follows it is not found. -/
def Request.readableFids : Request → List UInt32
  | .trenameat olddirfid oldname newdirfid _ =>
    if oldname.length < 2 ^ 16 then [olddirfid, newdirfid] else [olddirfid]
  | r => r.fids

/-- A server that counts the requests it executed. One exchange executes at most one, and
only if the fids in it are bound. -/
structure Transport.Counts (T : Transport σ) (table : σ → FidTable Obj) (executions : σ → Nat) :
    Prop where
  single : ∀ s request, executions (T.exchange request s).2 ≤ executions s + 1
  harmless : ∀ s (r : Request) tag, r.modifies = false →
    executions (T.exchange (r.build tag).data s).2 = executions s
  unbound : ∀ s (r : Request) tag, (∃ fid ∈ r.readableFids, table s fid = none) →
    executions (T.exchange (r.build tag).data s).2 = executions s

/-- The session, with the number of executions during each call as output. -/
def countedSession (T : Transport σ) (executions : σ → Nat) : Machine SessionCall Nat (Link σ) where
  step call w :=
    let w' := (performCall T call w).2
    (executions w'.transport - executions w.transport, w')

/-- No call was executed more than once. -/
def AtMostOnce (executions : List Nat) : Prop := ∀ n ∈ executions, n ≤ 1

/-- A call that changes files names a fid other than 0. -/
def NamesNonzero (call : SessionCall) (w : Link σ) : Prop :=
  ∀ r, call.request w.session = some r → r.modifies = true → ∃ fid ∈ r.readableFids, fid ≠ 0

section Counts

variable {T : Transport σ} {table : σ → FidTable Obj} {root : Bytes → Obj} {executions : σ → Nat}

/-! ### Requests that execute nothing -/

/-- The bytes of a request that changes no file. -/
def Harmless (request : Bytes) : Prop :=
  ∃ (r : Request) (tag : UInt16), request = (r.build tag).data ∧ r.modifies = false

theorem restartable_harmless (aname : Bytes) : Restartable Harmless aname where
  version := ⟨.tversion maxMessageSize protocolVersion, 0, rfl, rfl⟩
  attach tag fid := ⟨.tattach fid noFid [] aname 0, tag, rfl, rfl⟩

theorem executions_steps (counts : T.Counts table executions) {w w' : Link σ}
    (steps : Link.Steps T Harmless w w') : executions w'.transport = executions w.transport := by
  induction steps with
  | refl => rfl
  | tail _ step ih =>
    rw [← ih]
    cases step with
    | exchange request sendable =>
      obtain ⟨r, tag, same, harmless⟩ := sendable
      change executions (T.exchange request.data _).2 = _
      rw [same]
      exact counts.harmless _ r tag harmless
    | _ => rfl

theorem executions_restarted (counts : T.Counts table executions) (w : Link σ) :
    executions (reinitializeSession T w).2.transport = executions w.transport :=
  executions_steps counts (reinitializeSession_steps (restartable_harmless _) w rfl)

/-! ### Requests on a fid that the server has forgotten -/

variable {r : Request} {tag : UInt16} {fid : UInt32}

theorem executions_forgotten (drops : T.DropsFids table root) (counts : T.Counts table executions)
    (named : fid ∈ r.readableFids) (nonzero : fid ≠ 0) (attempts : Nat) {w : Link σ}
    (forgotten : table w.transport fid = none) :
    executions (transactLoop T (reinitializeSession T) (r.build tag) attempts w).2.transport =
      executions w.transport := by
  -- on the attempts: the fid stays forgotten
  induction attempts generalizing w with
  | zero => rfl
  | succ attempts ih =>
    have first : executions (w.exchanged T (r.build tag)).transport = executions w.transport :=
      counts.unbound w.transport r tag ⟨fid, named, forgotten⟩
    by_cases ok : w.exchangeCode T (r.build tag) = 0
    · rw [transactLoop_ok _ ok]
      exact first
    · cases outer : w.session.reinitializing with
      | true =>
        rw [transactLoop_reinitializing _ outer]
        exact first
      | false =>
        rw [transactLoop_failed _ ok outer]
        have again := (executions_restarted counts (w.exchanged T (r.build tag))).trans first
        split
        · exact again
        · rename_i done
          -- after the re-initialization only fid 0 is bound
          have fresh := reinitializeSession_fresh drops (not_not.mp done)
          rw [ih (by rw [fresh.bound, FidTable.single, Function.update_of_ne nonzero]; rfl)]
          exact again

theorem executions_transact (drops : T.DropsFids table root) (counts : T.Counts table executions)
    (named : fid ∈ r.readableFids) (nonzero : fid ≠ 0) (w : Link σ) :
    executions (transact T (r.build tag) w).2.transport ≤ executions w.transport + 1 := by
  -- the first attempt may execute the request
  have first : executions (w.exchanged T (r.build tag)).transport ≤ executions w.transport + 1 :=
    counts.single w.transport (r.build tag).data
  change executions (transactLoop T (reinitializeSession T) (r.build tag) 3 w).2.transport ≤ _
  by_cases ok : w.exchangeCode T (r.build tag) = 0
  · rw [transactLoop_ok _ ok]
    exact first
  · cases outer : w.session.reinitializing with
    | true =>
      rw [transactLoop_reinitializing _ outer]
      exact first
    | false =>
      rw [transactLoop_failed _ ok outer]
      have again := executions_restarted counts (w.exchanged T (r.build tag))
      split
      · rw [again]
        exact first
      · rename_i done
        have fresh := reinitializeSession_fresh drops (not_not.mp done)
        rw [executions_forgotten drops counts named nonzero 2
          (by rw [fresh.bound, FidTable.single, Function.update_of_ne nonzero]; rfl), again]
        exact first

/-! ### Calls and runs -/

theorem executions_call (drops : T.DropsFids table root) (counts : T.Counts table executions)
    {call : SessionCall} {w : Link σ} (names : NamesNonzero call w) :
    executions (performCall T call w).2.transport ≤ executions w.transport + 1 := by
  cases sends : call.request w.session with
  | none =>
    cases call with
    | initializeSession aname =>
      have initialized := initializeSession_steps (T := T) (restartable_harmless aname) w
      have same := executions_steps counts initialized
      exact Nat.le_succ_of_le (Nat.le_of_eq same)
    | walkParent path =>
      -- no request is sent
      have basename : (splitParent path).2 = [] := by
        by_contra nonempty
        simp only [SessionCall.request, if_neg nonempty] at sends
        cases sends
      simp only [performCall, walkParent, if_pos basename]
      exact Nat.le_succ _
    | _ => cases sends
  | some r =>
    rw [performCall_transport sends, SessionCall.transacted]
    cases modifies : r.modifies with
    | true =>
      obtain ⟨fid, named, nonzero⟩ := names r sends modifies
      exact executions_transact drops counts named nonzero (w.onSession call.prepared).tagged
    | false =>
      -- neither the request nor the re-initializations execute anything
      have steps : Link.Steps T Harmless (w.onSession call.prepared).tagged
          (transact T (r.build w.session.nextTag) (w.onSession call.prepared).tagged).2 :=
        transact_steps (restartable_harmless _) ⟨r, _, rfl, modifies⟩ rfl
      have same := executions_steps counts steps
      exact Nat.le_succ_of_le (Nat.le_of_eq same)

end Counts

/-- In a run whose file-changing calls name a fid other than 0, every call is executed at
most once. -/
theorem calls_executed_once {T : Transport σ} {table : σ → FidTable Obj} {root : Bytes → Obj}
    {executions : σ → Nat} (drops : T.DropsFids table root)
    (counts : T.Counts table executions) (calls : List SessionCall) (w : Link σ)
    (names : (countedSession T executions).Meets NamesNonzero calls w) :
    AtMostOnce ((countedSession T executions).run calls w).1 := by
  refine names.outputs ?_
  intro call w names
  have once := executions_call drops counts names
  change executions (performCall T call w).2.transport - executions w.transport ≤ 1
  omega

/-! ### A lossy server -/

theorem readableFids_subset (r : Request) (tag : UInt16) {fid : UInt32}
    (named : fid ∈ r.readableFids) : fid ∈ FidServer.fidsOf (r.build tag).data := by
  rw [FidServer.fidsOf, FidServer.typeOf_build]
  cases r with
  | tversion maxSize version => cases named
  | tattach fid afid uname aname nUname => cases named
  | twalk fid' newfid names =>
    rw [List.mem_singleton.mp named]
    simp only [Request.type]
    rw [FidServer.firstFid_build rfl]
    exact List.mem_cons_self
  | trenameat olddirfid oldname newdirfid newname =>
    simp only [Request.type]
    rw [FidServer.firstFid_build rfl]
    by_cases short : oldname.length < 2 ^ 16
    · rw [FidServer.newdirfid_build short]
      simpa only [Request.readableFids, if_pos short] using named
    · rw [Request.readableFids, if_neg short] at named
      rw [List.mem_singleton.mp named]
      exact List.mem_cons_self
  | _ =>
    rw [List.mem_singleton.mp named]
    simp only [Request.type]
    rw [FidServer.firstFid_build rfl]
    exact List.mem_cons_self

theorem changesFiles_build (r : Request) (tag : UInt16) :
    FidServer.changesFiles (r.build tag).data = r.modifies := by
  rw [FidServer.changesFiles, FidServer.typeOf_build]
  cases r <;> rfl

/-- A file-changing request is accepted only if its fids are bound. -/
theorem accepts_modifying {r : Request} {tag : UInt16} {objects : List (Option Nat)}
    (modifies : r.modifies = true) :
    FidServer.accepts (r.build tag).data objects = objects.all Option.isSome := by
  unfold FidServer.accepts
  rw [FidServer.typeOf_build]
  cases r <;> first | rfl | cases modifies

theorem fidServer_counts (msize : UInt32) :
    (fidServer msize).Counts FidServer.table FidServer.executions where
  single s request := by
    change (s.after request).executions ≤ _
    unfold FidServer.after
    split
    · refine Nat.add_le_add_left ?_ s.executions
      split <;> decide
    · exact Nat.le_succ _
  harmless s r tag harmless := by
    change (s.after (r.build tag).data).executions = _
    unfold FidServer.after
    rw [changesFiles_build, harmless]
    split <;> rfl
  unbound s r tag := by
    rintro ⟨fid, named, free⟩
    change (s.after (r.build tag).data).executions = _
    cases modifies : r.modifies with
    | false =>
      unfold FidServer.after
      rw [changesFiles_build, modifies]
      split <;> rfl
    | true =>
      have refused : FidServer.accepts (r.build tag).data
          ((FidServer.fidsOf (r.build tag).data).map s.table) = false := by
        rw [accepts_modifying modifies, List.all_eq_false]
        refine ⟨none, ?_, by simp⟩
        rw [← free]
        exact List.mem_map_of_mem (readableFids_subset r tag named)
      rw [FidServer.after, refused]
      rfl

theorem Transport.Counts.lossy {T : Transport σ} {table : σ → FidTable Obj} {executions : σ → Nat}
    {reset : σ → σ} (counts : T.Counts table executions)
    (kept : ∀ s, executions (reset s) = executions s) :
    (T.lossy reset).Counts (fun s => table s.2) (fun s => executions s.2) where
  single s request := by
    have reached := counts.single s.2 request
    -- lost on the way there, lost on the way back, or delivered
    rcases lossy_exchange T reset request s with ⟨_, lost | lost⟩ | ⟨_, same⟩
    · rw [lost, kept]
      exact Nat.le_succ _
    · rw [lost, kept]
      exact reached
    · rw [same]
      exact reached
  harmless s r tag harmless := by
    have reached := counts.harmless s.2 r tag harmless
    rcases lossy_exchange T reset (r.build tag).data s with ⟨_, lost | lost⟩ | ⟨_, same⟩
    · rw [lost, kept]
    · rw [lost, kept]
      exact reached
    · rw [same]
      exact reached
  unbound s r tag free := by
    have reached := counts.unbound s.2 r tag free
    rcases lossy_exchange T reset (r.build tag).data s with ⟨_, lost | lost⟩ | ⟨_, same⟩
    · rw [lost, kept]
    · rw [lost, kept]
      exact reached
    · rw [same]
      exact reached

theorem lossyFidServer_counts (msize : UInt32) :
    (lossyFidServer msize).Counts (fun s => s.2.table) fun s => s.2.executions :=
  (fidServer_counts msize).lossy fun _ => rfl

/-- `Initialize`, `Walk` to "d" and `Mkdir` of "x" in it, whose response is lost. -/
theorem calls_executed_once_mkdir :
    AtMostOnce ((countedSession (lossyFidServer 8192) fun s => s.2.executions).run
      [.initializeSession [], .walk [100], .mkdir 1 [120] 0o755 0]
      ⟨NinePSession.new, FidServer.start [.delivered, .delivered, .delivered, .responseLost],
        []⟩).1 := by
  refine calls_executed_once (lossyFidServer_drops 8192) (lossyFidServer_counts 8192) _ _ ?_
  refine ⟨?_, ?_, ?_, trivial⟩
  · intro r sends
    cases sends
  · intro r sends modifies
    cases sends
    cases modifies
  · intro r sends _
    cases sends
    exact ⟨1, List.mem_singleton_self 1, by decide⟩

/-- A re-initialization that fails leaves a pool in which `Walk` gets fid 0. If the response
of the `Mkdir` on this fid is lost, the retry makes a second directory, in the root. -/
theorem retriedMkdir_executed_twice :
    (lossyFidServer 8192).DropsFids (fun s => s.2.table) (fun _ => 0) ∧
      (lossyFidServer 8192).Counts (fun s => s.2.table) (fun s => s.2.executions) ∧
      ¬ AtMostOnce ((countedSession (lossyFidServer 8192) fun s => s.2.executions).run
        [.initializeSession [], .getAttr 0, .walk [100], .mkdir 0 [120] 0o755 0]
        ⟨NinePSession.new, FidServer.start [.delivered, .delivered, .requestLost, .requestLost,
          .requestLost, .delivered, .delivered, .delivered, .responseLost], []⟩).1 := by
  refine ⟨lossyFidServer_drops 8192, lossyFidServer_counts 8192, ?_⟩
  unfold AtMostOnce
  decide +kernel

end Virtio9p
