import Mathlib.Data.Stream.Defs
import Virtio9p.Protocol.ReturnCodes
import Virtio9p.Server.FidServer

/-!
# Transact on a transport with failures

Which attempt of `Transact` is answered, and what it finds, is decided by the exchanges that
fail: after a failed attempt both exchanges of the re-initialization have to succeed.
-/
namespace Virtio9p

open NinePMessage

variable {σ Obj : Type}

/-- A server that accepts the driver's version and the attach name on a free fid, behind a
transport on which the exchanges fail that `failures` says. -/
structure Transport.Attaches (T : Transport σ) (table : σ → FidTable Obj) (root : Bytes → Obj)
    (aname : Bytes) (failures : σ → Stream' Bool) : Prop extends T.DropsFids table root where
  fails : ∀ s request, (T.exchange request s).1.1 ≠ 0 ↔ (failures s).head = true
  next : ∀ s request, failures (T.exchange request s).2 = (failures s).tail
  accepts : ∀ s, (T.exchange versionRequest.data s).1.1 = 0 → ∃ size,
    (T.exchange versionRequest.data s).1.2 =
    ((Response.rversion size protocolVersion).encode noTag).data
  grants : ∀ s tag fid, (T.exchange (attachRequest aname tag fid).data s).1.1 = 0 →
    table s fid = none → ∃ qid,
      (T.exchange (attachRequest aname tag fid).data s).1.2 =
        ((Response.rattach qid).encode tag).data
  refuses : ∀ s tag fid, (T.exchange (attachRequest aname tag fid).data s).1.1 = 0 →
    table s fid ≠ none → ∃ ecode,
      (T.exchange (attachRequest aname tag fid).data s).1.2 =
        ((Response.rlerror ecode).encode tag).data

/-- Whether an attempt has failed before the one that is answered, and the failures to come
after that; `none` if the attempts are used up or a re-initialization fails. -/
def answered : Nat → Stream' Bool → Option (Bool × Stream' Bool)
  | 0, _ => none
  | attempts + 1, failures =>
    if failures.head then
      -- Tversion and Tattach of the re-initialization
      if failures.tail.head || failures.tail.tail.head then none
      else (answered attempts failures.tail.tail.tail).map fun later => (true, later.2)
    else some (false, failures.tail)

section Attaches

variable {T : Transport σ} {table : σ → FidTable Obj} {root : Bytes → Obj} {aname : Bytes}
  {failures : σ → Stream' Bool} (attaches : T.Attaches table root aname failures) {w : Link σ}

include attaches

theorem exchangeCode_eq_zero_iff {request : NinePMessage} :
    w.exchangeCode T request = 0 ↔ (failures w.transport).head = false := by
  rw [← Bool.not_eq_true, ← attaches.fails w.transport request.data, not_not]
  rfl

theorem failures_exchanged (request : NinePMessage) :
    failures (w.exchanged T request).transport = (failures w.transport).tail :=
  attaches.next w.transport request.data

/-- An answered Tversion is accepted and leaves no fid. -/
theorem version_accepted (ok : w.exchangeCode T versionRequest = 0) :
    (∃ size, acceptVersion (w.answer T versionRequest) = .ok size) ∧
      table (w.exchanged T versionRequest).transport = FidTable.empty := by
  refine ⟨?_, attaches.version w.transport ok⟩
  obtain ⟨size, response⟩ := attaches.accepts w.transport ok
  have parsed : (parseRversion (ofData ((Response.rversion size protocolVersion).encode
      noTag).data)).1 = some (size, protocolVersion) :=
    parsed_encode (.rversion _ _) noTag (consumes_rversionFields size protocolVersion (by decide))
      (by simp [Response.payload, protocolVersion])
  have read : readReply (fun m => (parseRversion m).1) (readResponse
      ((Response.rversion size protocolVersion).encode noTag).data) = .ok (size, protocolVersion) :=
    readResponse_granted (by simp [Response.type]) parsed
  refine ⟨size, ?_⟩
  rw [acceptVersion, Link.answer, if_neg (not_not_intro ok), response, read]
  exact if_neg (not_not_intro rfl)

/-- An answered Tattach binds a free fid. -/
theorem attach_granted {tag : UInt16} {fid : UInt32}
    (ok : w.exchangeCode T (attachRequest aname tag fid) = 0)
    (free : table w.transport fid = none) :
    (∃ qid, readReply (fun m => (parseRattach m).1) (w.answer T (attachRequest aname tag fid)) =
        .ok qid) ∧
      table (w.exchanged T (attachRequest aname tag fid)).transport =
        Function.update (table w.transport) fid (some (root aname)) := by
  obtain ⟨qid, response⟩ := attaches.grants w.transport tag fid ok free
  have parsed : (parseRattach (ofData ((Response.rattach qid).encode tag).data)).1 = some qid :=
    parsed_encode (.rattach _) tag (consumes_getQid qid) (by simp [Response.payload])
  have read : readReply (fun m => (parseRattach m).1) (readResponse
      ((Response.rattach qid).encode tag).data) = .ok qid :=
    readResponse_granted (by simp [Response.type]) parsed
  constructor
  · refine ⟨qid, ?_⟩
    rw [Link.answer, if_neg (not_not_intro ok), response, read]
  · -- the answer is an Rattach, so the fid is bound
    have bound := attaches.attach w.transport aname tag fid ok
    rw [response] at bound
    exact bound.trans (if_pos (decide_eq_true (parsePayload_some parsed)))

/-- A Tattach on a fid in use is refused. -/
theorem attach_refused {tag : UInt16} {fid : UInt32}
    (ok : w.exchangeCode T (attachRequest aname tag fid) = 0)
    (used : table w.transport fid ≠ none) :
    ∃ rc, readReply (fun m => (parseRattach m).1) (w.answer T (attachRequest aname tag fid)) =
      .error rc ∧ rc ≠ 0 := by
  obtain ⟨ecode, response⟩ := attaches.refuses w.transport tag fid ok used
  refine ⟨refusal ecode, ?_, refusal_ne_zero ecode⟩
  rw [Link.answer, if_neg (not_not_intro ok), response]
  exact readResponse_refused (parsesOnly_payload .rattach _) (by decide) ecode tag

/-- `Reinitialize` needs two exchanges that succeed. -/
theorem reinitializeSession_done_iff (named : w.session.aname = aname) :
    (reinitializeSession T w).1 = 0 ↔
      (failures w.transport).head = false ∧ (failures w.transport).tail.head = false := by
  let restarted : Link σ := { w with session := w.session.restarted }
  constructor
  · intro done
    obtain ⟨version, attach, -⟩ := reinitializeSession_done done
    have first := (exchangeCode_eq_zero_iff attaches).mp version
    have second := (exchangeCode_eq_zero_iff attaches).mp attach
    rw [failures_exchanged attaches] at second
    exact ⟨first, second⟩
  · rintro ⟨first, second⟩
    have version : restarted.exchangeCode T versionRequest = 0 :=
      (exchangeCode_eq_zero_iff attaches).mpr first
    obtain ⟨⟨size, accepted⟩, dropped⟩ := version_accepted attaches version
    let agreed := restarted.exchanged T versionRequest
    have attach : agreed.exchangeCode T (attachRequest aname 0 0) = 0 := by
      apply (exchangeCode_eq_zero_iff attaches).mpr
      rw [failures_exchanged attaches]
      exact second
    -- after Tversion fid 0 is free again
    obtain ⟨⟨qid, read⟩, -⟩ := attach_granted attaches attach (by rw [dropped]; rfl)
    have once := reinitializeSession_once (T := T) w
    simp only at once
    rw [once, Link.initializedOnce, named]
    simp only [restarted] at accepted
    simp only [accepted]
    split
    · rename_i rc refused
      cases read.symm.trans refused
    · rfl

/-- What a re-initialization leaves for the next attempt. -/
theorem reinitializeSession_leaves (done : (reinitializeSession T w).1 = 0) :
    let w' := (reinitializeSession T w).2
    w'.Fresh table (root w.session.aname) w.session.aname ∧ w'.session.fidPool.nextFid = 1 ∧
      failures w'.transport = (failures w.transport).tail.tail := by
  intro w'
  obtain ⟨-, -, -, transport, size, session⟩ := reinitializeSession_done done
  refine ⟨reinitializeSession_fresh attaches.toDropsFids done, ?_, ?_⟩
  · rw [session]
    rfl
  · rw [transport, failures_exchanged attaches, failures_exchanged attaches]

/-- The link in which the answered attempt starts: the first one, or a fresh one. -/
def Link.AnsweredFrom (table : σ → FidTable Obj) (object : Obj) (aname : Bytes) (w : Link σ) :
    Bool → Link σ → Prop
  | false, v => v = w
  | true, v => v.Fresh table object aname ∧ v.session.fidPool.nextFid = 1

private theorem transactLoop_answered {request : NinePMessage} {attempts : Nat}
    (outer : w.session.reinitializing = false) (named : w.session.aname = aname) :
    let result := transactLoop T (reinitializeSession T) request attempts w
    match answered attempts (failures w.transport) with
    | none => receivedWithin T request attempts w = none ∧ result.1.1 ≠ 0
    | some (failed, rest) => receivedWithin T request attempts w ≠ none ∧ ∃ v,
        w.AnsweredFrom table (root aname) aname failed v ∧ v.exchangeCode T request = 0 ∧
        result = (v.answer T request, v.exchanged T request) ∧
        failures (v.exchanged T request).transport = rest := by
  -- on the attempts: each one is answered, or is followed by a re-initialization
  induction attempts generalizing w with
  | zero => exact ⟨rfl, (by decide : (-eio : Int32) ≠ 0)⟩
  | succ attempts ih =>
    intro result
    rw [answered, receivedWithin]
    by_cases ok : w.exchangeCode T request = 0
    · have delivered := (exchangeCode_eq_zero_iff attaches).mp ok
      simp only [delivered, Bool.false_eq_true, if_false, if_pos ok]
      refine ⟨Option.some_ne_none _, w, rfl, ok, ?_, failures_exchanged attaches request⟩
      exact transactLoop_ok _ ok attempts
    · have lost : (failures w.transport).head = true := by
        by_contra delivered
        exact ok ((exchangeCode_eq_zero_iff attaches).mpr (Bool.eq_false_of_not_eq_true delivered))
      have loop : result = _ := transactLoop_failed (reinitializeSession T) ok outer attempts
      simp only [lost, if_true, if_neg ok, outer, Bool.false_eq_true, if_false]
      have doneIff := reinitializeSession_done_iff attaches (w := w.exchanged T request) named
      rw [failures_exchanged attaches] at doneIff
      by_cases done : (reinitializeSession T (w.exchanged T request)).1 = 0
      · -- the next attempt starts in a fresh session
        obtain ⟨fresh, next, later⟩ := reinitializeSession_leaves attaches done
        rw [failures_exchanged attaches] at later
        obtain ⟨version, attach⟩ := doneIff.mp done
        let w₂ := (reinitializeSession T (w.exchanged T request)).2
        have again : w₂.session.aname = aname := fresh.aname.trans named
        have rest := ih fresh.outer again
        rw [Link.exchanged_session, named] at fresh
        simp only [version, attach, Bool.or_self, Bool.false_eq_true, if_false,
          if_neg (not_not_intro done)]
        rw [loop, if_neg (not_not_intro done)]
        simp only [later] at rest
        cases outcome : answered attempts (failures w.transport).tail.tail.tail with
        | none =>
          simp only [outcome] at rest
          exact rest
        | some answer =>
          simp only [outcome] at rest
          obtain ⟨received, v, start, code, same, to_come⟩ := rest
          refine ⟨received, v, ?_, code, same, to_come⟩
          -- the answered attempt starts right after this re-initialization or a later one
          cases failed : answer.1 with
          | false =>
            rw [failed] at start
            cases start
            exact ⟨fresh, next⟩
          | true =>
            rw [failed] at start
            exact start
      · -- a re-initialization that fails ends the loop
        have cut : ((failures w.transport).tail.head || (failures w.transport).tail.tail.head) =
            true := by
          by_contra clear
          rw [Bool.not_eq_true, Bool.or_eq_false_iff] at clear
          exact done (doneIff.mpr clear)
        simp only [cut, if_true, if_pos done]
        rw [loop, if_pos done]
        exact ⟨trivial, ok⟩

/-- The failures decide whether `Transact` is answered, and in which state of the session. -/
theorem transact_answered (request : NinePMessage) (outer : w.session.reinitializing = false)
    (named : w.session.aname = aname) :
    match answered maxRetries (failures w.transport) with
    | none => w.received T request = none ∧ (transact T request w).1.1 ≠ 0
    | some (failed, rest) => w.received T request ≠ none ∧ ∃ v,
        w.AnsweredFrom table (root aname) aname failed v ∧ v.exchangeCode T request = 0 ∧
        transact T request w = (v.answer T request, v.exchanged T request) ∧
        failures (v.exchanged T request).transport = rest :=
  transactLoop_answered attaches outer named

end Attaches

/-! ### A lossy server that refuses a fid in use -/

/-- The exchanges that a script loses. -/
def lost (fates : List Fate) : Stream' Bool := fun n => fates.getD n .delivered ≠ .delivered

theorem lost_tail (fates : List Fate) : lost fates.tail = (lost fates).tail := by
  funext n
  cases fates with
  | nil => rfl
  | cons fate fates => rfl

theorem Transport.Attaches.lossy {T : Transport σ} {table : σ → FidTable Obj} {root : Bytes → Obj}
    {aname : Bytes} (attaches : T.Attaches table root aname fun _ => Stream'.const false)
    {reset : σ → σ} (cleared : ∀ s, table (reset s) = FidTable.empty) :
    (T.lossy reset).Attaches (fun s => table s.2) root aname fun s => lost s.1 where
  toDropsFids := attaches.toDropsFids.lossy cleared
  fails s request := by
    -- the server itself never fails
    have never : (T.exchange request s.2).1.1 = 0 :=
      not_not.mp ((attaches.fails s.2 request).not.mpr Bool.false_ne_true)
    obtain ⟨fates, s⟩ := s
    cases fates with
    | nil => exact iff_of_false (not_not_intro never) Bool.false_ne_true
    | cons fate fates =>
      cases fate with
      | delivered => exact iff_of_false (not_not_intro never) Bool.false_ne_true
      | requestLost => exact iff_of_true (by decide : (-eio : Int32) ≠ 0) rfl
      | responseLost => exact iff_of_true (by decide : (-eio : Int32) ≠ 0) rfl
  next s request := by
    obtain ⟨fates, s⟩ := s
    rw [← lost_tail]
    cases fates with
    | nil => rfl
    | cons fate fates => cases fate <;> rfl
  accepts s ok := by
    rcases lossy_exchange T reset versionRequest.data s with ⟨failed, -⟩ | ⟨answer, -⟩
    · exact absurd ok failed
    · rw [answer] at ok ⊢
      exact attaches.accepts s.2 ok
  grants s tag fid ok free := by
    rcases lossy_exchange T reset (attachRequest aname tag fid).data s with
      ⟨failed, -⟩ | ⟨answer, -⟩
    · exact absurd ok failed
    · rw [answer] at ok ⊢
      exact attaches.grants s.2 tag fid ok free
  refuses s tag fid ok used := by
    rcases lossy_exchange T reset (attachRequest aname tag fid).data s with
      ⟨failed, -⟩ | ⟨answer, -⟩
    · exact absurd ok failed
    · rw [answer] at ok ⊢
      exact attaches.refuses s.2 tag fid ok used

/-- The fid server, but a Tattach on a fid in use is refused with `EINVAL`. -/
def attachServer (msize : UInt32) : Transport FidServer where
  exchange request s :=
    if FidServer.typeOf request = some .tattach ∧ s.table (FidServer.fidAt request 7) ≠ none then
      ((0, ((Response.rlerror 22).encode (UInt16.ofNat (FidServer.fieldAt request 5 2))).data), s)
    else (fidServer msize).exchange request s

section Laws

variable (msize : UInt32)

theorem attachServer_exchange (aname : Bytes) (tag : UInt16) (fid : UInt32) (s : FidServer) :
    (attachServer msize).exchange (attachRequest aname tag fid).data s =
      if s.table fid ≠ none then ((0, ((Response.rlerror 22).encode tag).data), s)
      else (fidServer msize).exchange (attachRequest aname tag fid).data s := by
  let r := Request.tattach fid noFid [] aname 0
  have type : FidServer.typeOf (attachRequest aname tag fid).data = some .tattach :=
    FidServer.typeOf_build r tag
  have field : FidServer.fidAt (attachRequest aname tag fid).data 7 = fid :=
    FidServer.firstFid_build (r := r) rfl
  have tagField : UInt16.ofNat (FidServer.fieldAt (attachRequest aname tag fid).data 5 2) = tag :=
    r.tag_build tag
  rw [attachServer]
  simp only [type, field, tagField, true_and]

theorem attachServer_version (s : FidServer) :
    (attachServer msize).exchange versionRequest.data s =
      (fidServer msize).exchange versionRequest.data s := by
  let r := Request.tversion maxMessageSize protocolVersion
  have type : FidServer.typeOf versionRequest.data = some .tversion := FidServer.typeOf_build r 0
  -- the check for a fid in use concerns a Tattach only
  have other : ¬ (FidServer.typeOf versionRequest.data = some .tattach ∧
      s.table (FidServer.fidAt versionRequest.data 7) ≠ none) := by
    rintro ⟨attach, -⟩
    rw [type] at attach
    cases attach
  rw [attachServer]
  simp only [if_neg other]

theorem attachServer_attaches (aname : Bytes) :
    (attachServer msize).Attaches FidServer.table (fun _ => 0) aname
      fun _ => Stream'.const false where
  reset s request failed := by
    rw [attachServer] at failed
    simp only at failed
    split at failed <;> exact absurd rfl failed
  version s ok := by
    rw [attachServer_version]
    exact (fidServer_drops msize).version s rfl
  attach s aname' tag fid := by
    intro answer _
    have exchange := attachServer_exchange msize aname' tag fid s
    split at exchange
    · have refused : isRattach ((Response.rlerror 22).encode tag).data = false := by
        have type := getType_of_header (m := ofData ((Response.rlerror 22).encode tag).data)
          (Response.encode_data (.rlerror 22) tag)
        apply decide_eq_false
        rw [type]
        decide
      simp only [answer, exchange, refused]
      rfl
    · simp only [answer, exchange]
      exact (fidServer_drops msize).attach s aname' tag fid rfl
  fails s request := by
    refine iff_of_false (not_not_intro ?_) Bool.false_ne_true
    rw [attachServer]
    simp only
    split <;> rfl
  next s request := rfl
  accepts s ok := by
    rw [attachServer_version, fidServer_version]
    exact ⟨msize, rfl⟩
  grants s tag fid ok free := by
    rw [attachServer_exchange, if_neg (not_not_intro free), fidServer_attach]
    exact ⟨FidServer.anyQid, rfl⟩
  refuses s tag fid ok used := by
    rw [attachServer_exchange, if_pos used]
    exact ⟨22, rfl⟩

end Laws

/-- Behind a lossy transport; a reset forgets every fid. -/
def lossyAttachServer (msize : UInt32) : Transport (List Fate × FidServer) :=
  (attachServer msize).lossy fun s => { s with table := FidTable.empty }

theorem lossyAttachServer_attaches (msize : UInt32) (aname : Bytes) :
    (lossyAttachServer msize).Attaches (fun s => s.2.table) (fun _ => 0) aname
      fun s => lost s.1 :=
  (attachServer_attaches msize aname).lossy fun _ => rfl

end Virtio9p
