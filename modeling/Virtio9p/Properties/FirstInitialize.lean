import Virtio9p.Server.Failures

/-!
# The first Initialize of a session

`Initialize` runs again inside its own `Transact` when an exchange fails. The outer call goes on
with the fid, the pool and the request it has made before, and only if its two requests are
disturbed alike does that come out right.
-/
namespace Virtio9p

open NinePMessage

variable {σ Obj : Type}

/-- `Initialize` stores the attach name first. -/
def Link.named (aname : Bytes) (w : Link σ) : Link σ :=
  { w with session := { w.session with aname := aname } }

/-- The link in which the Tattach is built. -/
def Link.agreed (size : UInt32) (w : Link σ) : Link σ := { w with session := w.session.setUp size }

/-- A `Transact` of the call is never answered: its attempts are used up, or a nested
`Reinitialize` fails. -/
def GivesUp (T : Transport σ) (aname : Bytes) (w : Link σ) : Prop :=
  let version := transact T versionRequest (w.named aname)
  (w.named aname).received T versionRequest = none ∨ ∃ size, acceptVersion version.1 = .ok size ∧
    let agreed := version.2.agreed size
    agreed.tagged.received T
      (attachRequest aname agreed.session.nextTag agreed.session.rootFid) = none

structure InitializesCleanly (T : Transport σ) (table : σ → FidTable Obj) (root : Bytes → Obj)
    (aname : Bytes) (w : Link σ) : Prop where
  fails : (initializeSession T aname w).1 ≠ 0 → GivesUp T aname w
  attached : (initializeSession T aname w).1 = 0 →
    let w' := (initializeSession T aname w).2
    table w'.transport w'.session.rootFid = some (root aname) ∧
      w'.session.fidPool.allocated = {w'.session.rootFid}

/-- If both requests are answered, either both have lost an attempt before or neither has. -/
def DisturbedAlike (failures : Stream' Bool) : Prop :=
  ∀ version rest attach rest', answered maxRetries failures = some (version, rest) →
    answered maxRetries rest = some (attach, rest') → version = attach

section Attach

variable {T : Transport σ} {table : σ → FidTable Obj} {root : Bytes → Obj} {aname : Bytes}
  {failures : σ → Stream' Bool} (attaches : T.Attaches table root aname failures) {w v : Link σ}

theorem acceptVersion_failed {reply : Int32 × NinePMessage} (code : reply.1 ≠ 0) :
    acceptVersion reply = .error reply.1 := by
  rw [acceptVersion, readReply, if_pos code]

theorem attachWith_transact (T : Transport σ) (aname : Bytes) (w : Link σ) :
    let attach := transact T (attachRequest aname w.session.nextTag w.session.rootFid) w.tagged
    attachWith (transact T) aname w =
      match readReply (fun m => (parseRattach m).1) attach.1 with
      | .error rc => (rc, attach.2.release attach.2.session.rootFid)
      | .ok _ => (0, attach.2) := rfl

theorem attachWith_failed {rc : Int32}
    (read : readReply (fun m => (parseRattach m).1) (transact T (attachRequest aname
      w.session.nextTag w.session.rootFid) w.tagged).1 = .error rc) :
    (attachWith (transact T) aname w).1 ≠ 0 := by
  have nonzero := readReply_error read
  rw [attachWith_transact]
  simp only [read]
  exact nonzero

include attaches in
/-- The outcome of a Tattach that is answered in `v`. -/
theorem attachWith_answered
    (same : transact T (attachRequest aname w.session.nextTag w.session.rootFid) w.tagged =
      (v.answer T (attachRequest aname w.session.nextTag w.session.rootFid),
        v.exchanged T (attachRequest aname w.session.nextTag w.session.rootFid)))
    (ok : v.exchangeCode T (attachRequest aname w.session.nextTag w.session.rootFid) = 0) :
    (table v.transport w.session.rootFid = none →
      (attachWith (transact T) aname w).1 = 0 ∧
      (attachWith (transact T) aname w).2.session = v.session ∧
      table (attachWith (transact T) aname w).2.transport =
        Function.update (table v.transport) w.session.rootFid (some (root aname))) ∧
    (table v.transport w.session.rootFid ≠ none → (attachWith (transact T) aname w).1 ≠ 0) := by
  constructor
  · intro free
    obtain ⟨⟨qid, read⟩, bound⟩ := attach_granted attaches ok free
    rw [attachWith_transact]
    simp only [same, read]
    exact ⟨trivial, rfl, bound⟩
  · intro used
    obtain ⟨rc, read, -⟩ := attach_refused attaches ok used
    exact attachWith_failed (by rw [same]; exact read)

include attaches in
/-- The second step of `Initialize`, after a Tversion that has left no fid on the server. -/
theorem attachWith_outcome (outer : w.session.reinitializing = false)
    (named : w.session.aname = aname) (dropped : table w.transport = FidTable.empty) :
    let received := w.tagged.received T
      (attachRequest aname w.session.nextTag w.session.rootFid)
    let result := attachWith (transact T) aname w
    match answered maxRetries (failures w.transport) with
    | none => received = none ∧ result.1 ≠ 0
    | some (false, _) => received ≠ none ∧ result.1 = 0 ∧ result.2.session = w.tagged.session ∧
        table result.2.transport = FidTable.single w.session.rootFid (root aname)
    | some (true, _) => received ≠ none ∧
        -- fid 0 is the root of the nested session
        (w.session.rootFid = 0 → result.1 ≠ 0) ∧
        (w.session.rootFid ≠ 0 → result.1 = 0 ∧ result.2.session.rootFid = 0 ∧
          result.2.session.fidPool.allocated = {0} ∧
          table result.2.transport 0 = some (root aname)) := by
  intro received result
  -- it is answered in the session that built it, or in the one of a nested `Initialize`
  have second := transact_answered attaches
    (attachRequest aname w.session.nextTag w.session.rootFid) (w := w.tagged) outer named
  have same : failures w.tagged.transport = failures w.transport := rfl
  have empty : table w.tagged.transport = FidTable.empty := dropped
  cases outcome : answered maxRetries (failures w.transport) with
  | none =>
    simp only [same, outcome] at second
    obtain ⟨never, code⟩ := second
    exact ⟨never, attachWith_failed (if_pos code)⟩
  | some attach =>
    obtain ⟨disturbed, rest⟩ := attach
    simp only [same, outcome] at second
    obtain ⟨response, v, start, ok, attached, -⟩ := second
    obtain ⟨granted, refused⟩ := attachWith_answered attaches attached ok
    cases disturbed with
    | false =>
      -- the first attempt is answered
      cases start
      obtain ⟨code, session, bound⟩ := granted (by rw [empty]; rfl)
      refine ⟨response, code, session, ?_⟩
      rw [bound, empty]
      rfl
    | true =>
      -- the answered attempt follows a re-initialization
      obtain ⟨fresh, -⟩ := start
      refine ⟨response, ?_, ?_⟩
      · intro zero
        apply refused
        rw [zero, fresh.bound, FidTable.single_self]
        exact Option.some_ne_none _
      · intro other
        have free : table v.transport w.session.rootFid = none := by
          rw [fresh.bound, FidTable.single, Function.update_of_ne other]
          rfl
        obtain ⟨code, session, bound⟩ := granted free
        refine ⟨code, ?_, ?_, ?_⟩
        · rw [session, fresh.rootFid]
        · rw [session, fresh.allocated]
        · rw [bound, Function.update_of_ne other.symm, fresh.bound, FidTable.single_self]

end Attach

theorem initializeSession_transact (T : Transport σ) (aname : Bytes) (w : Link σ) :
    let version := transact T versionRequest (w.named aname)
    initializeSession T aname w =
      match acceptVersion version.1 with
      | .error rc => (rc, version.2)
      | .ok size => attachWith (transact T) aname (version.2.agreed size) := rfl

/-- The session that goes on to the Tattach: its root fid is 1 if a nested `Initialize` has taken
fid 0. -/
theorem agreed_session {table : σ → FidTable Obj} {object : Obj} {aname : Bytes} {s : σ}
    {disturbed : Bool} {v : Link σ}
    (before : Link.AnsweredFrom table object aname
      (Link.named aname ⟨NinePSession.new, s, []⟩) disturbed v) (size : UInt32) :
    (v.session.setUp size).reinitializing = false ∧ (v.session.setUp size).aname = aname ∧
      (v.session.setUp size).rootFid = (if disturbed then 1 else 0) ∧
      (v.session.setUp size).fidPool.allocated = (if disturbed then {1, 0} else {0}) := by
  cases disturbed with
  | false =>
    cases before
    exact ⟨rfl, rfl, rfl, rfl⟩
  | true =>
    obtain ⟨fresh, next⟩ := before
    refine ⟨fresh.outer, fresh.aname, next, ?_⟩
    -- `setUp` takes fid 1 from the pool of the nested session
    change insert v.session.fidPool.nextFid v.session.fidPool.allocated = _
    rw [next, fresh.allocated]
    rfl

/-- The second step in `x`, after a Tversion that was answered: the call does what it should
exactly if the Tattach is disturbed as the Tversion was. -/
private theorem attaches_cleanly_iff {T : Transport σ} {table : σ → FidTable Obj}
    {root : Bytes → Obj} {aname : Bytes} {failures : σ → Stream' Bool}
    (attaches : T.Attaches table root aname failures) {w x : Link σ} {disturbed : Bool}
    (whole : initializeSession T aname w = attachWith (transact T) aname x)
    (gives : GivesUp T aname w ↔ x.tagged.received T
      (attachRequest aname x.session.nextTag x.session.rootFid) = none)
    (outer : x.session.reinitializing = false) (named : x.session.aname = aname)
    (rootFid : x.session.rootFid = if disturbed then 1 else 0)
    (pool : x.session.fidPool.allocated = if disturbed then {1, 0} else {0})
    (dropped : table x.transport = FidTable.empty) :
    InitializesCleanly T table root aname w ↔ ∀ attach rest,
      answered maxRetries (failures x.transport) = some (attach, rest) → disturbed = attach := by
  have second := attachWith_outcome attaches outer named dropped
  rw [← whole] at second
  cases outcome : answered maxRetries (failures x.transport) with
  | none =>
    simp only [outcome] at second
    -- the Tattach is never answered
    obtain ⟨never, failed⟩ := second
    exact iff_of_true ⟨fun _ => gives.mpr never, fun success => absurd success failed⟩ nofun
  | some attach =>
    obtain ⟨disturbed', rest⟩ := attach
    have only : (∀ attach rest', some (disturbed', rest) = some (attach, rest') →
        disturbed = attach) ↔ disturbed = disturbed' :=
      ⟨fun alike => alike disturbed' rest rfl, by rintro rfl _ _ ⟨⟩; rfl⟩
    rw [only]
    cases disturbed' with
    | false =>
      simp only [outcome] at second
      obtain ⟨-, success, session, bound⟩ := second
      -- fid 0 of a nested session stays in the pool
      have kept : (initializeSession T aname w).2.session.fidPool.allocated =
          {(initializeSession T aname w).2.session.rootFid} ↔ disturbed = false := by
        rw [session]
        change x.session.fidPool.allocated = {x.session.rootFid} ↔ _
        rw [pool, rootFid]
        cases disturbed <;> decide
      constructor
      · intro cleanly
        exact kept.mp (cleanly.attached success).2
      · intro alike
        refine ⟨fun failed => absurd success failed, fun _ => ⟨?_, kept.mpr alike⟩⟩
        rw [bound, session]
        exact FidTable.single_self _ _
    | true =>
      simp only [outcome] at second
      obtain ⟨response, refused, granted⟩ := second
      rw [rootFid] at refused granted
      cases disturbed with
      | false =>
        -- the retried Tattach names fid 0, which the nested session uses
        have failed := refused rfl
        refine iff_of_false (fun cleanly => ?_) Bool.false_ne_true
        exact response (gives.mp (cleanly.fails failed))
      | true =>
        -- the retried Tattach binds fid 1, but the session is the nested one
        obtain ⟨success, rootZero, allocated, bound⟩ := granted (by decide)
        refine iff_of_true ⟨fun failed => absurd success failed, fun _ => ⟨?_, ?_⟩⟩ rfl
        · rw [rootZero, bound]
        · rw [rootZero, allocated]

/-- Without exhausted attempts and failing re-initializations the first `Initialize` does what
it should exactly if the failures disturb both requests or neither. -/
theorem initializes_cleanly_iff {T : Transport σ} {table : σ → FidTable Obj} {root : Bytes → Obj}
    {aname : Bytes} {failures : σ → Stream' Bool}
    (attaches : T.Attaches table root aname failures) (s : σ) :
    InitializesCleanly T table root aname ⟨NinePSession.new, s, []⟩ ↔
      DisturbedAlike (failures s) := by
  let w : Link σ := ⟨NinePSession.new, s, []⟩
  have start : failures (w.named aname).transport = failures s := rfl
  have first := transact_answered attaches versionRequest (w := w.named aname) rfl rfl
  unfold DisturbedAlike
  cases outcome : answered maxRetries (failures s) with
  | none =>
    simp only [start, outcome] at first
    obtain ⟨never, code⟩ := first
    -- the Tversion is never answered
    have failed : (initializeSession T aname w).1 ≠ 0 := by
      rw [initializeSession_transact]
      simp only [acceptVersion_failed code]
      exact code
    exact iff_of_true ⟨fun _ => .inl never, fun success => absurd success failed⟩ nofun
  | some version =>
    obtain ⟨disturbed, rest⟩ := version
    simp only [start, outcome] at first
    obtain ⟨received, v, before, ok, same, later⟩ := first
    obtain ⟨⟨size, accepted⟩, dropped⟩ := version_accepted attaches ok
    let x := (v.exchanged T versionRequest).agreed size
    -- the Tversion is answered in `v` and accepted
    have whole : initializeSession T aname w = attachWith (transact T) aname x := by
      rw [initializeSession_transact]
      simp only [same, accepted]
      rfl
    have gives : GivesUp T aname w ↔ x.tagged.received T
        (attachRequest aname x.session.nextTag x.session.rootFid) = none := by
      unfold GivesUp
      simp only [received, same, accepted, false_or, Except.ok.injEq, exists_eq_left']
      rfl
    obtain ⟨outer, named, rootFid, pool⟩ := agreed_session before size
    rw [attaches_cleanly_iff attaches whole gives outer named rootFid pool dropped,
      show failures x.transport = rest from later]
    constructor
    · rintro alike _ _ attach rest' ⟨⟩ answers
      exact alike attach rest' answers
    · exact fun alike attach rest' => alike disturbed rest attach rest' rfl

/-- The first Tversion is lost. The nested `Initialize` attaches fid 0, the outer one fid 1, and
the pool keeps both. -/
theorem lost_version_keeps_fid : ¬ InitializesCleanly (lossyAttachServer 8192)
    (fun s => s.2.table) (fun _ => 0) []
    ⟨NinePSession.new, FidServer.start [.requestLost], []⟩ := by
  intro cleanly
  obtain ⟨-, allocated⟩ := cleanly.attached (by decide +kernel)
  exact absurd allocated (by decide +kernel)

/-- Both requests lose their first attempt. -/
def bothLost : List Fate := [.requestLost, .delivered, .delivered, .delivered, .responseLost]

theorem initializes_cleanly_iff_both :
    InitializesCleanly (lossyAttachServer 8192) (fun s => s.2.table) (fun _ => 0) []
        ⟨NinePSession.new, FidServer.start bothLost, []⟩ ↔
      DisturbedAlike (lost bothLost) :=
  initializes_cleanly_iff (lossyAttachServer_attaches 8192 []) (FidServer.start bothLost)

end Virtio9p
