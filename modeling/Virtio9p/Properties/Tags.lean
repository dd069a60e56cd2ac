import Virtio9p.Protocol.ReturnCodes
import Virtio9p.Protocol.Sent
import Virtio9p.Server.FidServer

/-!
# Tags

Every request but Tversion has the next number of a 16-bit counter as its tag. Nothing keeps the
counter from coming to `kNoTag`, which is the tag of a Tversion.
-/
namespace Virtio9p

open NinePMessage

variable {σ : Type}

/-- The two bytes of the tag. -/
def tagField (request : Bytes) : UInt16 :=
  UInt16.ofNat (LittleEndian.decode ((request.drop 5).take 2))

/-- A Tversion, or a request with a tag of its own. -/
def WellTagged (request : Bytes) : Prop :=
  typeByte request = MessageType.tversion.code ∨ tagField request ≠ noTag

theorem wellTagged_build (r : Request) (tag : UInt16) :
    WellTagged (r.build tag).data ↔ r.type = .tversion ∨ tag ≠ noTag := by
  have kind : typeByte (r.build tag).data = r.type.code := getType_of_header (r.build_data tag)
  have sent : tagField (r.build tag).data = r.sentTag tag := r.tag_build tag
  unfold WellTagged
  rw [kind, sent, MessageType.code_injective.eq_iff]
  cases r with
  | tversion maxSize version => exact iff_of_true (.inl rfl) (.inl rfl)
  | _ => exact Iff.rfl

theorem wellTagged_version : WellTagged versionRequest.data :=
  (wellTagged_build (.tversion maxMessageSize protocolVersion) 0).mpr (.inl rfl)

theorem wellTagged_attach (aname : Bytes) (tag : UInt16) (fid : UInt32) :
    WellTagged (attachRequest aname tag fid).data ↔ tag ≠ noTag :=
  (wellTagged_build (.tattach fid noFid [] aname 0) tag).trans (or_iff_right nofun)

theorem wellTagged_restart (aname : Bytes) : WellTagged (attachRequest aname 0 0).data :=
  (wellTagged_attach aname 0 0).mpr (by decide)

/-! ### One call -/

/-- The call sends a request with the next number of the counter. `Initialize` does if the server
accepts its first Tversion; a Tversion that gets lost restarts the counter. -/
def SessionCall.TakesTag (T : Transport σ) (w : Link σ) : SessionCall → Prop
  | .initializeSession _ => ∃ size, acceptVersion (w.answer T versionRequest) = .ok size
  | call => call.request w.session ≠ none

/-- If the call takes the next number, it is not `kNoTag`. -/
def TagLeft (T : Transport σ) (call : SessionCall) (w : Link σ) : Prop :=
  call.TakesTag T w → w.session.nextTag ≠ noTag

section Calls

variable (T : Transport σ) (w : Link σ)

/-- No call but `Initialize` sends a Tversion of its own. -/
private theorem request_proper {call : SessionCall} {s : NinePSession} {r : Request}
    (sends : call.request s = some r) : r.type ≠ .tversion := by
  cases call with
  | initializeSession aname => cases sends
  | walkParent path =>
    simp only [SessionCall.request] at sends
    split at sends
    · cases sends
    · cases sends
      intro wrong
      cases wrong
  | _ =>
    cases sends
    intro wrong
    cases wrong

private theorem performCall_silent {call : SessionCall}
    (other : ∀ aname, call ≠ .initializeSession aname) (silent : call.request w.session = none) :
    (performCall T call w).2 = w := by
  cases call with
  | initializeSession aname => exact absurd rfl (other aname)
  | walkParent path =>
    simp only [SessionCall.request] at silent
    split at silent
    · rename_i nameless
      unfold performCall walkParent
      simp only [if_pos nameless]
    · cases silent
  | _ => cases silent

/-- A call other than `Initialize` sends its request, if any, with the next tag. -/
private theorem request_allSent_iff {call : SessionCall}
    (other : ∀ aname, call ≠ .initializeSession aname) :
    (performCall T call w).2.AllSent WellTagged ↔ w.AllSent WellTagged ∧ TagLeft T call w := by
  have takes : call.TakesTag T w ↔ call.request w.session ≠ none := by
    cases call with
    | initializeSession aname => exact absurd rfl (other aname)
    | _ => exact Iff.rfl
  rw [TagLeft, takes]
  cases sends : call.request w.session with
  | none =>
    rw [performCall_silent T w other sends]
    exact (and_iff_left fun some => absurd rfl some).symm
  | some r =>
    have sent := (performCall_wire (T := T) sends).sent
    have transacted := transact_allSent_iff wellTagged_version wellTagged_restart T
      (r.build w.session.nextTag) (w.onSession call.prepared).tagged
    rw [wellTagged_build, or_iff_right (request_proper sends)] at transacted
    rw [Link.AllSent, sent, forall_prop_of_true (Option.some_ne_none r)]
    exact transacted

/-- What the first Tversion of an `Initialize` comes to. -/
private theorem agreed_iff (aname : Bytes) {agreed : (Int32 × NinePMessage) × Link σ}
    (result : agreed = transact T versionRequest (w.onSession fun s => { s with aname := aname })) :
    (∀ size, acceptVersion agreed.1 = .ok size → agreed.2.session.nextTag ≠ noTag) ↔
      TagLeft T (.initializeSession aname) w := by
  unfold TagLeft SessionCall.TakesTag
  simp only [forall_exists_index]
  by_cases ok : w.exchangeCode T versionRequest = 0
  · -- the first exchange decides, and takes no tag
    have once : transact T versionRequest (w.onSession fun s => { s with aname := aname }) = _ :=
      transact_ok ok
    rw [result, once]
    exact Iff.rfl
  · have lost : ∀ size, acceptVersion (w.answer T versionRequest) ≠ .ok size := by
      intro size accepted
      have code := (acceptVersion_ok accepted).1
      rw [Link.answer, if_pos ok] at code
      exact ok code
    refine iff_of_true ?_ fun size accepted => absurd accepted (lost size)
    intro size accepted
    cases outer : w.session.reinitializing with
    | true =>
      have once : transact T versionRequest (w.onSession fun s => { s with aname := aname }) = _ :=
        transactWith_reinitializing _ outer
      rw [result, once] at accepted
      exact absurd accepted (lost size)
    | false =>
      have restarted : agreed.2.session.nextTag = 0 ∨ agreed.2.session.nextTag = 1 := by
        rw [result]
        exact transact_nextTag_failed ok outer
      rcases restarted with zero | one
      · rw [zero]
        decide
      · rw [one]
        decide

/-- The requests are well tagged after a call exactly if they were so before and a tag was left
for its own one. -/
theorem performCall_allSent_iff (call : SessionCall) :
    (performCall T call w).2.AllSent WellTagged ↔ w.AllSent WellTagged ∧ TagLeft T call w := by
  cases call with
  | initializeSession aname =>
    have sent := initializeSession_allSent_iff wellTagged_version wellTagged_restart T aname w
    simp only [wellTagged_attach] at sent
    exact sent.trans (and_congr_right fun _ => agreed_iff T w aname rfl)
  | _ => exact request_allSent_iff T w nofun

end Calls

/-! ### Runs -/

/-- A session as a machine. -/
def sessionCalls (T : Transport σ) : Machine SessionCall (Option UInt32) (Link σ) where
  step call w := performCall T call w

theorem run_allSent_iff (T : Transport σ) (calls : List SessionCall) (w : Link σ) :
    ((sessionCalls T).run calls w).2.AllSent WellTagged ↔
      w.AllSent WellTagged ∧ (sessionCalls T).Meets (TagLeft T) calls w :=
  Machine.run_invariant_iff (fun call w => performCall_allSent_iff T w call) calls w

/-- In a run of calls of a new session, every request but a Tversion has a tag other than `kNoTag`
exactly if the counter is at another number whenever a call takes the next one. -/
theorem tags_iff (T : Transport σ) (s : σ) (calls : List SessionCall) :
    ((sessionCalls T).run calls ⟨NinePSession.new, s, []⟩).2.AllSent WellTagged ↔
      (sessionCalls T).Meets (TagLeft T) calls ⟨NinePSession.new, s, []⟩ :=
  (run_allSent_iff T calls _).trans (and_iff_right nofun)

/-! ### Short and long runs -/

section Counter

variable {T : Transport σ}

/-- A restart leaves 1 at most. -/
private theorem transact_nextTag_le (T : Transport σ) (request : NinePMessage) (w : Link σ) :
    (transact T request w).2.session.nextTag.toNat ≤ max w.session.nextTag.toNat 1 := by
  rcases transactLoop_nextTag T request maxRetries w with same | zero | one
  · have kept : (transact T request w).2.session.nextTag = _ := same
    rw [kept]
    exact Nat.le_max_left _ 1
  · have restarted : (transact T request w).2.session.nextTag = _ := zero
    rw [restarted]
    exact Nat.zero_le _
  · have restarted : (transact T request w).2.session.nextTag = _ := one
    rw [restarted]
    exact Nat.le_max_right _ 1

private theorem tagged_nextTag_le (w : Link σ) :
    w.tagged.session.nextTag.toNat ≤ w.session.nextTag.toNat + 1 := by
  have one : (1 : UInt16).toNat = 1 := rfl
  change (w.session.nextTag + 1).toNat ≤ _
  rw [UInt16.toNat_add, one]
  exact Nat.mod_le _ _

private theorem attachWith_nextTag_le (T : Transport σ) (aname : Bytes) (w : Link σ) :
    (attachWith (transact T) aname w).2.session.nextTag.toNat ≤
      w.session.nextTag.toNat + 1 := by
  have taken := tagged_nextTag_le w
  rw [(attachWith_wire T aname w).nextTag]
  calc (transact T (attachRequest aname w.session.nextTag w.session.rootFid)
        w.tagged).2.session.nextTag.toNat
      ≤ max w.tagged.session.nextTag.toNat 1 := transact_nextTag_le T _ w.tagged
    _ ≤ w.session.nextTag.toNat + 1 := by omega

/-- `Initialize` ends with its Tversion, or goes on with a Tattach. -/
private theorem initializeSession_parts (T : Transport σ) (aname : Bytes) {w : Link σ}
    {agreed : (Int32 × NinePMessage) × Link σ}
    (version : transact T versionRequest (w.onSession fun s => { s with aname := aname }) =
      agreed) :
    (∃ rc, acceptVersion agreed.1 = .error rc ∧ (initializeSession T aname w).2 = agreed.2) ∨
      ∃ size, acceptVersion agreed.1 = .ok size ∧ (initializeSession T aname w).2 =
        (attachWith (transact T) aname (agreed.2.onSession fun s => s.setUp size)).2 := by
  subst version
  generalize initialized : initializeSession T aname w = result
  unfold initializeSession initializeWith at initialized
  simp only at initialized
  split at initialized
  · rename_i rc refused
    exact .inl ⟨rc, refused, congrArg Prod.snd initialized.symm⟩
  · rename_i size accepted
    exact .inr ⟨size, accepted, congrArg Prod.snd initialized.symm⟩

/-- It moves the counter on by one at most from where its Tversion leaves it. -/
private theorem initializeSession_nextTag_le (T : Transport σ) (aname : Bytes) {w : Link σ}
    {agreed : (Int32 × NinePMessage) × Link σ}
    (version : transact T versionRequest (w.onSession fun s => { s with aname := aname }) =
      agreed) :
    (initializeSession T aname w).2.session.nextTag.toNat ≤ agreed.2.session.nextTag.toNat + 1 := by
  obtain ⟨rc, -, stopped⟩ | ⟨size, -, attached⟩ := initializeSession_parts T aname version
  · rw [stopped]
    exact Nat.le_succ _
  · rw [attached]
    exact attachWith_nextTag_le T aname _

/-- A call moves the counter on by one at most, or starts it again. -/
theorem performCall_nextTag_le (T : Transport σ) (call : SessionCall) (w : Link σ) :
    (performCall T call w).2.session.nextTag.toNat ≤ max (w.session.nextTag.toNat + 1) 2 := by
  by_cases first : ∃ aname, call = .initializeSession aname
  · obtain ⟨aname, rfl⟩ := first
    have version := transact_nextTag_le T versionRequest
      (w.onSession fun s => { s with aname := aname })
    change _ ≤ max w.session.nextTag.toNat 1 at version
    exact (initializeSession_nextTag_le T aname rfl).trans (by omega)
  · have other : ∀ aname, call ≠ .initializeSession aname := not_exists.mp first
    cases sends : call.request w.session with
    | none =>
      rw [performCall_silent T w other sends]
      omega
    | some r =>
      have same := (performCall_wire (T := T) sends).nextTag
      have kept : (w.onSession call.prepared).session.nextTag = w.session.nextTag := by
        change (call.prepared w.session).nextTag = _
        unfold SessionCall.prepared
        split <;> rfl
      have transacted := transact_nextTag_le T (r.build w.session.nextTag)
        (w.onSession call.prepared).tagged
      have taken := tagged_nextTag_le (w.onSession call.prepared)
      rw [kept] at taken
      rw [same]
      exact transacted.trans (by omega)

theorem few_calls_meet (calls : List SessionCall) {w : Link σ} {k : Nat}
    (counter : w.session.nextTag.toNat ≤ k + 1) (few : k + calls.length < 65535) :
    (sessionCalls T).Meets (TagLeft T) calls w := by
  induction calls generalizing w k with
  | nil => exact trivial
  | cons call calls ih =>
    rw [List.length_cons] at few
    constructor
    · intro _ last
      have all : noTag.toNat = 65535 := rfl
      rw [last, all] at counter
      omega
    · have moved := performCall_nextTag_le T call w
      have next : (performCall T call w).2.session.nextTag.toNat ≤ (k + 1) + 1 := by omega
      exact ih next (by omega)

/-- No run of fewer than 65535 calls comes to `kNoTag`, whatever fails in it. -/
theorem tags_of_few (T : Transport σ) (s : σ) {calls : List SessionCall}
    (few : calls.length < 65535) :
    ((sessionCalls T).run calls ⟨NinePSession.new, s, []⟩).2.AllSent WellTagged := by
  have start : (NinePSession.new).nextTag.toNat ≤ 0 + 1 := Nat.zero_le 1
  have meets : (sessionCalls T).Meets (TagLeft T) calls ⟨NinePSession.new, s, []⟩ :=
    few_calls_meet calls start (by omega)
  exact (run_allSent_iff T calls _).mpr ⟨nofun, meets⟩

end Counter

/-! ### The counter between two restarts -/

section Restarts

variable {T : Transport σ}

/-- How many tags the call takes. -/
def SessionCall.tags (T : Transport σ) (w : Link σ) : SessionCall → Nat
  | .initializeSession _ =>
    match acceptVersion (w.answer T versionRequest) with
    | .error _ => 0
    | .ok _ => 1
  | call => if call.request w.session = none then 0 else 1

/-- How many tags the calls of the run take. -/
def tagsTaken (T : Transport σ) : List SessionCall → Link σ → Nat
  | [], _ => 0
  | call :: calls, w => call.tags T w + tagsTaken T calls (performCall T call w).2

theorem SessionCall.tags_taken {call : SessionCall} {w : Link σ} (takes : call.TakesTag T w) :
    call.tags T w = 1 := by
  cases call with
  | initializeSession aname =>
    obtain ⟨size, accepted⟩ := takes
    unfold tags
    rw [accepted]
  | _ =>
    unfold tags
    exact if_neg takes

theorem SessionCall.tags_none {call : SessionCall} {w : Link σ} (none : ¬ call.TakesTag T w) :
    call.tags T w = 0 := by
  cases call with
  | initializeSession aname =>
    unfold tags
    cases accepted : acceptVersion (w.answer T versionRequest) with
    | error rc => rfl
    | ok size => exact absurd ⟨size, accepted⟩ none
  | _ =>
    unfold tags
    exact if_pos (not_not.mp none)

private theorem initializeSession_nextTag {aname : Bytes} {w : Link σ}
    (undisturbed : Undisturbed T (.initializeSession aname) w) :
    (initializeSession T aname w).2.session.nextTag =
      w.session.nextTag + UInt16.ofNat ((SessionCall.initializeSession aname).tags T w) := by
  rw [initializeSession_once undisturbed.1 undisturbed.2]
  unfold Link.initializedOnce SessionCall.tags
  cases acceptVersion (w.answer T versionRequest) with
  | error rc => exact (UInt16.add_zero _).symm
  | ok size =>
    simp only
    split <;> rfl

/-- An undisturbed call moves the counter on by the tags it takes. -/
theorem performCall_nextTag {call : SessionCall} {w : Link σ}
    (undisturbed : Undisturbed T call w) :
    (performCall T call w).2.session.nextTag =
      w.session.nextTag + UInt16.ofNat (call.tags T w) := by
  by_cases first : ∃ aname, call = .initializeSession aname
  · obtain ⟨aname, rfl⟩ := first
    exact initializeSession_nextTag undisturbed
  · have other : ∀ aname, call ≠ .initializeSession aname := not_exists.mp first
    have tags : call.tags T w = if call.request w.session = none then 0 else 1 := by
      cases call with
      | initializeSession aname => exact absurd rfl (other aname)
      | _ => rfl
    have exchanges (r : Request) (sends : call.request w.session = some r) :
        w.exchangeCode T (r.build w.session.nextTag) = 0 := by
      cases call with
      | initializeSession aname => exact absurd rfl (other aname)
      | _ => exact undisturbed r sends
    rw [tags]
    cases sends : call.request w.session with
    | none =>
      rw [performCall_silent T w other sends]
      exact (UInt16.add_zero _).symm
    | some r =>
      have ok : (w.onSession call.prepared).tagged.exchangeCode T
          (r.build w.session.nextTag) = 0 := exchanges r sends
      have once : transact T (r.build w.session.nextTag) (w.onSession call.prepared).tagged = _ :=
        transact_ok ok
      have kept : (call.prepared w.session).nextTag = w.session.nextTag := by
        unfold SessionCall.prepared
        split <;> rfl
      rw [(performCall_wire (T := T) sends).nextTag, SessionCall.transacted, once, ← kept]
      rfl

/-- A call that is disturbed starts the counter again. -/
theorem performCall_restarts {call : SessionCall} {w : Link σ}
    (disturbed : ¬ Undisturbed T call w) (outer : w.session.reinitializing = false) :
    (performCall T call w).2.session.nextTag.toNat ≤ 2 := by
  have small {tag : UInt16} (restarted : tag = 0 ∨ tag = 1) : tag.toNat ≤ 1 := by
    rcases restarted with rfl | rfl <;> decide
  by_cases first : ∃ aname, call = .initializeSession aname
  · obtain ⟨aname, rfl⟩ := first
    let named := w.onSession fun s => { s with aname := aname }
    change (initializeSession T aname w).2.session.nextTag.toNat ≤ 2
    by_cases version : w.exchangeCode T versionRequest = 0
    · -- the Tversion is answered, so it is the Tattach that gets lost
      obtain ⟨rc, refused, -⟩ | ⟨size, accepted, attached⟩ :=
        initializeSession_parts T aname (w := w) (transact_ok version)
      · refine absurd ⟨version, fun size accepted => ?_⟩ disturbed
        cases refused.symm.trans accepted
      · have lost : (w.exchanged T versionRequest).exchangeCode T
            (attachRequest aname w.session.nextTag w.session.fidPool.nextFid) ≠ 0 :=
          fun ok => disturbed ⟨version, fun _ _ => ok⟩
        have restarted := transact_nextTag_failed
          (w := ((named.exchanged T versionRequest).onSession fun s => s.setUp size).tagged)
          lost outer
        rw [attached, (attachWith_wire T aname _).nextTag]
        exact (small restarted).trans (by decide)
    · have restarted := small (transact_nextTag_failed (w := named) version outer)
      exact (initializeSession_nextTag_le T aname rfl).trans (Nat.succ_le_succ restarted)
  · have other : ∀ aname, call ≠ .initializeSession aname := not_exists.mp first
    obtain ⟨r, sends, failed⟩ : ∃ r, call.request w.session = some r ∧
        w.exchangeCode T (r.build w.session.nextTag) ≠ 0 := by
      cases call with
      | initializeSession aname => exact absurd rfl (other aname)
      | _ => simpa only [Undisturbed, not_forall, exists_prop] using disturbed
    have unset : (call.prepared w.session).reinitializing = false := by
      unfold SessionCall.prepared
      split <;> exact outer
    have restarted := transact_nextTag_failed (w := (w.onSession call.prepared).tagged) failed unset
    rw [(performCall_wire (T := T) sends).nextTag]
    exact (small restarted).trans (by decide)

/-- In a run without restarts the counter goes on by the number of tags that the calls take. -/
theorem run_nextTag {calls : List SessionCall} {w : Link σ}
    (undisturbed : (sessionCalls T).Meets (Undisturbed T) calls w) :
    ((sessionCalls T).run calls w).2.session.nextTag =
      w.session.nextTag + UInt16.ofNat (tagsTaken T calls w) := by
  induction calls generalizing w with
  | nil => exact (UInt16.add_zero _).symm
  | cons call calls ih =>
    have moved : ((sessionCalls T).step call w).2.session.nextTag = _ :=
      performCall_nextTag undisturbed.1
    have rest := ih undisturbed.2
    rw [moved, UInt16.add_assoc, ← UInt16.ofNat_add] at rest
    exact rest

/-- No call of such a run finds the counter at `kNoTag` exactly if the number it starts with and
the tags that are taken come to `kNoTag` at most. -/
theorem tagLeft_iff_tagsTaken {calls : List SessionCall} {w : Link σ}
    (undisturbed : (sessionCalls T).Meets (Undisturbed T) calls w) :
    (sessionCalls T).Meets (TagLeft T) calls w ↔
      w.session.nextTag.toNat + tagsTaken T calls w ≤ noTag.toNat := by
  have last : noTag.toNat = 65535 := rfl
  induction calls generalizing w with
  | nil =>
    have bound := w.session.nextTag.toNat_lt
    refine iff_of_true trivial ?_
    rw [tagsTaken, last]
    omega
  | cons call calls ih =>
    have moved : (performCall T call w).2.session.nextTag =
        w.session.nextTag + UInt16.ofNat (call.tags T w) := performCall_nextTag undisturbed.1
    have rest : (sessionCalls T).Meets (TagLeft T) calls (performCall T call w).2 ↔
        (performCall T call w).2.session.nextTag.toNat +
          tagsTaken T calls (performCall T call w).2 ≤ noTag.toNat := ih undisturbed.2
    rw [moved] at rest
    refine (and_congr_right fun _ => rest).trans ?_
    rw [tagsTaken, TagLeft]
    have bound := w.session.nextTag.toNat_lt
    by_cases takes : call.TakesTag T w
    · have left : w.session.nextTag ≠ noTag ↔ w.session.nextTag.toNat ≠ 65535 :=
        not_congr UInt16.toNat_inj.symm
      have one : (UInt16.ofNat 1).toNat = 1 := rfl
      rw [SessionCall.tags_taken takes, forall_prop_of_true takes, left, UInt16.toNat_add, one]
      omega
    · have zero : UInt16.ofNat 0 = 0 := rfl
      rw [SessionCall.tags_none takes, zero, UInt16.add_zero, Nat.zero_add]
      exact and_iff_right fun some => absurd some takes

/-- In a run without restarts of a new session, every request but a Tversion has a tag other than
`kNoTag` exactly if the calls take no more than the tags below it. -/
theorem allSent_iff_tagsTaken {s : σ} {calls : List SessionCall}
    (undisturbed : (sessionCalls T).Meets (Undisturbed T) calls ⟨NinePSession.new, s, []⟩) :
    ((sessionCalls T).run calls ⟨NinePSession.new, s, []⟩).2.AllSent WellTagged ↔
      tagsTaken T calls ⟨NinePSession.new, s, []⟩ ≤ 65535 := by
  have start : (NinePSession.new).nextTag.toNat = 0 := rfl
  rw [run_allSent_iff, tagLeft_iff_tagsTaken undisturbed, start, Nat.zero_add]
  exact and_iff_right nofun

/-- A transport that never fails disturbs no call. -/
theorem undisturbed_of_delivers (delivers : ∀ s request, (T.exchange request s).1.1 = 0)
    (calls : List SessionCall) (w : Link σ) :
    (sessionCalls T).Meets (Undisturbed T) calls w := by
  induction calls generalizing w with
  | nil => exact trivial
  | cons call calls ih =>
    refine ⟨?_, ih _⟩
    cases call with
    | initializeSession aname => exact ⟨delivers _ _, fun _ _ => delivers _ _⟩
    | _ => exact fun _ _ => delivers _ _

theorem tagsTaken_requests {calls : List SessionCall}
    (requests : ∀ call ∈ calls, ∀ w : Link σ, call.TakesTag T w) (w : Link σ) :
    tagsTaken T calls w = calls.length := by
  induction calls generalizing w with
  | nil => rfl
  | cons call calls ih =>
    rw [tagsTaken, SessionCall.tags_taken (requests call List.mem_cons_self w),
      ih (fun call member => requests call (List.mem_cons_of_mem _ member)), List.length_cons,
      Nat.add_comm]

end Restarts

/-- `Initialize`, and a request with each of the tags 1 to 65535. -/
def allTags : List SessionCall := .initializeSession [] :: List.replicate 65535 (.getAttr 0)

/-- The last of them carries `kNoTag`. -/
theorem last_tag_is_noTag : ¬ ((sessionCalls (fidServer 8192)).run allTags
    ⟨NinePSession.new, ⟨FidTable.empty, 0⟩, []⟩).2.AllSent WellTagged := by
  have requests (call : SessionCall) (member : call ∈ List.replicate 65535 (.getAttr 0))
      (w : Link FidServer) : call.TakesTag (fidServer 8192) w := by
    rw [List.eq_of_mem_replicate member]
    exact Option.some_ne_none _
  rw [allSent_iff_tagsTaken (undisturbed_of_delivers (fun _ _ => rfl) _ _), allTags, tagsTaken,
    tagsTaken_requests requests, List.length_replicate]
  decide +kernel

end Virtio9p
