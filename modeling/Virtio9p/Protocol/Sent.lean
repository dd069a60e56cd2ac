import Virtio9p.Protocol.Calls

/-!
# What is sent

Whatever the transport does, an operation sends its own request, perhaps several times, and in
between the two requests of a re-initialization, which restarts the tags.
-/
namespace Virtio9p

open NinePMessage

variable {σ : Type}

/-- All requests sent so far satisfy `good`. -/
def Link.AllSent (good : Bytes → Prop) (w : Link σ) : Prop := ∀ entry ∈ w.sent, good entry.2

/-- From `w` to `w'` only requests that satisfy `good` were sent. -/
def Link.Sends (good : Bytes → Prop) (w w' : Link σ) : Prop :=
  ∃ news, w'.sent = w.sent ++ news ∧ ∀ entry ∈ news, good entry.2

section Sends

variable {good : Bytes → Prop} {w w' w'' : Link σ}

theorem Link.Sends.of_eq (same : w'.sent = w.sent) : w.Sends good w' :=
  ⟨[], by rw [same, List.append_nil], nofun⟩

theorem Link.Sends.trans (first : w.Sends good w') (next : w'.Sends good w'') :
    w.Sends good w'' := by
  obtain ⟨news, sent, all⟩ := first
  obtain ⟨news', sent', all'⟩ := next
  refine ⟨news ++ news', by rw [sent', sent, List.append_assoc], ?_⟩
  intro entry member
  rcases List.mem_append.mp member with old | new
  · exact all entry old
  · exact all' entry new

theorem Link.Sends.exchanged (T : Transport σ) {request : NinePMessage}
    (own : good request.data) (w : Link σ) : w.Sends good (w.exchanged T request) := by
  refine ⟨[(w.session.messageSize, request.data)], rfl, ?_⟩
  intro entry member
  rw [List.mem_singleton.mp member]
  exact own

theorem Link.Sends.mem (sends : w.Sends good w') {entry : UInt32 × Bytes}
    (member : entry ∈ w.sent) :
    entry ∈ w'.sent := by
  obtain ⟨news, sent, -⟩ := sends
  rw [sent]
  exact List.mem_append_left news member

theorem Link.Sends.allSent_iff (sends : w.Sends good w') : w'.AllSent good ↔ w.AllSent good := by
  obtain ⟨news, sent, all⟩ := sends
  unfold Link.AllSent
  rw [sent]
  constructor
  · intro every entry member
    exact every entry (List.mem_append_left news member)
  · intro every entry member
    rcases List.mem_append.mp member with old | new
    · exact every entry old
    · exact all entry new

end Sends

/-! ### Reinitialize -/

section Transact

variable {T : Transport σ} {good : Bytes → Prop}

/-- A re-initialization sends a Tversion, and a Tattach with tag 0 if the version is accepted. -/
theorem reinitializeSession_sends (version : good versionRequest.data)
    (attach : ∀ aname, good (attachRequest aname 0 0).data) (w : Link σ) :
    w.Sends good (reinitializeSession T w).2 := by
  let restarted : Link σ := { w with session := w.session.restarted }
  have agreed : w.Sends good (restarted.exchanged T versionRequest) :=
    .exchanged T version restarted
  have initialized : w.Sends good (restarted.initializedOnce T w.session.aname).2 := by
    unfold Link.initializedOnce
    simp only
    split
    · exact agreed
    · split <;> exact agreed.trans (.exchanged T (attach w.session.aname) _)
  rw [reinitializeSession_once w]
  exact initialized

/-- It leaves 0 or 1 as the next tag. -/
theorem reinitializeSession_nextTag (T : Transport σ) (w : Link σ) :
    (reinitializeSession T w).2.session.nextTag = 0 ∨
      (reinitializeSession T w).2.session.nextTag = 1 := by
  let restarted : Link σ := { w with session := w.session.restarted }
  have initialized : (restarted.initializedOnce T w.session.aname).2.session.nextTag = 0 ∨
      (restarted.initializedOnce T w.session.aname).2.session.nextTag = 1 := by
    unfold Link.initializedOnce
    simp only
    split
    · exact .inl rfl
    · split <;> exact .inr rfl
  rw [reinitializeSession_once w]
  exact initialized

/-! ### Transact -/

theorem transactLoop_sends {request : NinePMessage} (restarts : ∀ w : Link σ,
    w.Sends good (reinitializeSession T w).2) (own : good request.data) (attempts : Nat)
    (w : Link σ) :
    w.Sends good (transactLoop T (reinitializeSession T) request attempts w).2 := by
  -- every round is an exchange, and a re-initialization if that fails
  induction attempts generalizing w with
  | zero => exact .of_eq rfl
  | succ attempts ih =>
    have sent : w.Sends good (w.exchanged T request) := .exchanged T own w
    by_cases ok : w.exchangeCode T request = 0
    · rw [transactLoop_ok _ ok]
      exact sent
    · cases outer : w.session.reinitializing with
      | true =>
        rw [transactLoop_reinitializing _ outer]
        exact sent
      | false =>
        rw [transactLoop_failed _ ok outer]
        have again := restarts (w.exchanged T request)
        split
        · exact sent.trans again
        · exact (sent.trans again).trans (ih _)

/-- The next tag stays what it is, or it has been restarted. -/
theorem transactLoop_nextTag (T : Transport σ) (request : NinePMessage) (attempts : Nat)
    (w : Link σ) :
    let w' := (transactLoop T (reinitializeSession T) request attempts w).2
    w'.session.nextTag = w.session.nextTag ∨ w'.session.nextTag = 0 ∨ w'.session.nextTag = 1 := by
  induction attempts generalizing w with
  | zero => exact .inl rfl
  | succ attempts ih =>
    by_cases ok : w.exchangeCode T request = 0
    · rw [transactLoop_ok _ ok]
      exact .inl rfl
    · cases outer : w.session.reinitializing with
      | true =>
        rw [transactLoop_reinitializing _ outer]
        exact .inl rfl
      | false =>
        rw [transactLoop_failed _ ok outer]
        have restarted := reinitializeSession_nextTag T (w.exchanged T request)
        split
        · exact .inr restarted
        · right
          rcases ih (reinitializeSession T (w.exchanged T request)).2 with same | again
          · rw [same]
            exact restarted
          · exact again

/-- A first exchange that fails restarts the tags. -/
theorem transact_nextTag_failed {request : NinePMessage} {w : Link σ}
    (failed : w.exchangeCode T request ≠ 0) (outer : w.session.reinitializing = false) :
    (transact T request w).2.session.nextTag = 0 ∨
      (transact T request w).2.session.nextTag = 1 := by
  have restarted := reinitializeSession_nextTag T (w.exchanged T request)
  have again : transact T request w = _ := transactLoop_failed _ failed outer 2
  rw [again]
  split
  · exact restarted
  · rcases transactLoop_nextTag T request 2 (reinitializeSession T (w.exchanged T request)).2 with
      same | restarts
    · rw [same]
      exact restarted
    · exact restarts

/-- The request has been sent when `Transact` returns. -/
private theorem transact_exchanged (request : NinePMessage) (w : Link σ) :
    (w.exchanged T request).Sends anyRequest (transact T request w).2 := by
  by_cases ok : w.exchangeCode T request = 0
  · rw [transact_ok ok]
    exact .of_eq rfl
  · cases outer : w.session.reinitializing with
    | true =>
      have inner : transact T request w = _ := transactWith_reinitializing _ outer
      rw [inner]
      exact .of_eq rfl
    | false =>
      have failed : transact T request w = _ := transactLoop_failed _ ok outer 2
      have restarts (w : Link σ) : w.Sends anyRequest (reinitializeSession T w).2 :=
        reinitializeSession_sends trivial (fun _ => trivial) w
      rw [failed]
      split
      · exact restarts _
      · exact (restarts _).trans (transactLoop_sends restarts trivial 2 _)

/-- On the wire the second step of `Initialize` is the `Transact` of the Tattach. -/
theorem attachWith_wire (T : Transport σ) (aname : Bytes) (w : Link σ) :
    (attachWith (transact T) aname w).2.SameWire
      (transact T (attachRequest aname w.session.nextTag w.session.rootFid) w.tagged).2 := by
  unfold attachWith
  simp only
  split <;> exact ⟨rfl, rfl, rfl⟩

variable (version : good versionRequest.data)
  (attach : ∀ aname, good (attachRequest aname 0 0).data)

include version attach

/-- All requests are good after a `Transact` if they were so before and its own one is. -/
theorem transact_allSent_iff (T : Transport σ) (request : NinePMessage) (w : Link σ) :
    (transact T request w).2.AllSent good ↔ w.AllSent good ∧ good request.data := by
  constructor
  · intro all
    have before : (w.exchanged T request).AllSent good := fun entry member =>
      all entry ((transact_exchanged request w).mem member)
    refine ⟨fun entry member => before entry (List.mem_append_left _ member), ?_⟩
    exact before (w.session.messageSize, request.data)
      (List.mem_append_right _ List.mem_cons_self)
  · rintro ⟨all, own⟩
    exact (transactLoop_sends (reinitializeSession_sends version attach) own maxRetries
      w).allSent_iff.mpr
      all

/-- For `Initialize` the Tattach counts, if it comes to that. -/
theorem initializeSession_allSent_iff (T : Transport σ) (aname : Bytes) (w : Link σ) :
    let agreed := transact T versionRequest (w.onSession fun s => { s with aname := aname })
    (initializeSession T aname w).2.AllSent good ↔ w.AllSent good ∧
      ∀ size, acceptVersion agreed.1 = .ok size →
        good (attachRequest aname agreed.2.session.nextTag
          agreed.2.session.fidPool.nextFid).data := by
  intro agreed
  have first : agreed.2.AllSent good ↔ w.AllSent good :=
    (transact_allSent_iff version attach T versionRequest _).trans (and_iff_left version)
  change (initializeWith (transact T) aname w).2.AllSent good ↔ _
  unfold initializeWith
  simp only
  split
  · rename_i rc refused
    have none : acceptVersion agreed.1 = .error rc := refused
    rw [none]
    exact first.trans (and_iff_left nofun).symm
  · rename_i size accepted
    have some : acceptVersion agreed.1 = .ok size := accepted
    have second := transact_allSent_iff version attach T
      (attachRequest aname agreed.2.session.nextTag agreed.2.session.fidPool.nextFid)
      (agreed.2.onSession fun s => s.setUp size).tagged
    have sent := (attachWith_wire T aname (agreed.2.onSession fun s => s.setUp size)).sent
    calc (attachWith (transact T) aname (agreed.2.onSession fun s => s.setUp size)).2.AllSent good
        ↔ _ := by rw [Link.AllSent, sent]; exact second
      _ ↔ _ := and_congr first ⟨fun own _ _ => own, fun own => own size some⟩

end Transact

end Virtio9p
