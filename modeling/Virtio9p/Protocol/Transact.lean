import Virtio9p.Protocol.Parser
import Virtio9p.Protocol.Session

/-!
# The mutual recursion of Transact, Reinitialize and Initialize

Inside a re-initialization `Transact` makes one attempt and does not recurse, so the
three functions satisfy the equations of the source. A call whose first exchange
succeeds changes nothing in the session but the next tag.
-/
namespace Virtio9p

open Cursor NinePMessage

variable {σ : Type} (T : Transport σ)

/-- The link after one exchange. -/
def Link.exchanged (request : NinePMessage) (w : Link σ) : Link σ :=
  { w with
    transport := (T.exchange request.data w.transport).2
    sent := w.sent ++ [(w.session.messageSize, request.data)] }

/-- The result code of one exchange. -/
def Link.exchangeCode (request : NinePMessage) (w : Link σ) : Int32 :=
  (T.exchange request.data w.transport).1.1

/-- What `Transact` makes of a response. -/
def readResponse (responseData : Bytes) : Int32 × NinePMessage :=
  match isRlerror (NinePMessage.ofData responseData) with
  | some errorCode => (-errorCode.toInt32, NinePMessage.ofData responseData)
  | none => (0, NinePMessage.ofData responseData)

/-- What one exchange gives when there is no second attempt. -/
def Link.answer (request : NinePMessage) (w : Link σ) : Int32 × NinePMessage :=
  if w.exchangeCode T request ≠ 0 then (w.exchangeCode T request, NinePMessage.empty)
  else readResponse (T.exchange request.data w.transport).1.2

@[simp] theorem Link.exchanged_session (request : NinePMessage) (w : Link σ) :
    (w.exchanged T request).session = w.session := rfl

variable {T}

/-! ### One attempt -/

theorem transactLoop_ok (R : Link σ → Int32 × Link σ) {request : NinePMessage} {w : Link σ}
    (ok : w.exchangeCode T request = 0) (n : Nat) :
    transactLoop T R request (n + 1) w = (w.answer T request, w.exchanged T request) := by
  simp only [Link.exchangeCode] at ok
  simp only [transactLoop, ok, ne_eq, not_true_eq_false, if_false, Link.answer, readResponse,
    Link.exchangeCode, Link.exchanged]
  cases isRlerror (NinePMessage.ofData (T.exchange request.data w.transport).1.2) <;> rfl

theorem transactLoop_failed (R : Link σ → Int32 × Link σ) {request : NinePMessage} {w : Link σ}
    (failed : w.exchangeCode T request ≠ 0) (outer : w.session.reinitializing = false) (n : Nat) :
    transactLoop T R request (n + 1) w =
      if (R (w.exchanged T request)).1 ≠ 0 then
        ((w.exchangeCode T request, NinePMessage.empty), (R (w.exchanged T request)).2)
      else transactLoop T R request n (R (w.exchanged T request)).2 := by
  simp only [Link.exchangeCode] at failed
  simp only [transactLoop, outer, Bool.false_eq_true, if_false, if_pos failed]
  rfl

theorem transactLoop_reinitializing (R : Link σ → Int32 × Link σ) {request : NinePMessage}
    {w : Link σ} (inner : w.session.reinitializing = true) (n : Nat) :
    transactLoop T R request (n + 1) w = (w.answer T request, w.exchanged T request) := by
  by_cases ok : w.exchangeCode T request = 0
  · exact transactLoop_ok R ok n
  · have code := ok
    simp only [Link.exchangeCode] at code
    simp only [transactLoop, code, inner, ne_eq, not_false_eq_true, if_true, Link.answer,
      Link.exchangeCode, Link.exchanged]

/-- A first exchange that succeeds decides the result, with the session untouched. -/
theorem transact_ok {request : NinePMessage} {w : Link σ}
    (ok : w.exchangeCode T request = 0) :
    transact T request w = (w.answer T request, w.exchanged T request) :=
  transactLoop_ok _ ok 2

theorem transactWith_reinitializing (R : Link σ → Int32 × Link σ) {request : NinePMessage}
    {w : Link σ} (inner : w.session.reinitializing = true) :
    transactWith T R request w = (w.answer T request, w.exchanged T request) :=
  transactLoop_reinitializing R inner 2

/-! ### The equations of the source -/

private theorem attachWith_reinitializing (R R' : Link σ → Int32 × Link σ) (aname : Bytes)
    {w : Link σ} (inner : w.session.reinitializing = true) :
    attachWith (transactWith T R) aname w = attachWith (transactWith T R') aname w := by
  simp only [attachWith]
  rw [transactWith_reinitializing R (by exact inner),
    transactWith_reinitializing R' (by exact inner)]

private theorem initializeWith_reinitializing (R R' : Link σ → Int32 × Link σ) (aname : Bytes)
    {w : Link σ} (inner : w.session.reinitializing = true) :
    initializeWith (transactWith T R) aname w = initializeWith (transactWith T R') aname w := by
  obtain ⟨named, set⟩ : ∃ named : Link σ, { w with session := { w.session with aname := aname } } =
    named := ⟨_, rfl⟩
  have nested : named.session.reinitializing = true := by
    rw [← set]
    exact inner
  -- neither of the two requests gets to a re-initialization
  have version (X : Link σ → Int32 × Link σ) : transactWith T X versionRequest named =
      (named.answer T versionRequest, named.exchanged T versionRequest) :=
    transactWith_reinitializing X nested
  simp only [initializeWith, set, version R, version R']
  cases acceptVersion (named.answer T versionRequest) with
  | error rc => rfl
  | ok size => exact attachWith_reinitializing R R' aname nested

/-- `Reinitialize` calls `Initialize`, as in the source. -/
theorem reinitializeSession_eq :
    reinitializeSession T = reinitializeWith (initializeSession T) := by
  funext w
  simp only [reinitializeSession, reinitializeWith, initializeSession, transact]
  rw [initializeWith_reinitializing _ (reinitializeSession T) _ rfl]
  rfl

/-! ### Calls whose first exchange succeeds -/

/-- The link after the next tag was taken. -/
def Link.tagged (w : Link σ) : Link σ := { w with session := w.session.takeTag.2 }

/-- The first exchange of a call: the request is built with the next tag. -/
def Link.callOnce (T : Transport σ) (build : UInt16 → NinePMessage) (w : Link σ) : Link σ :=
  w.tagged.exchanged T (build w.session.nextTag)

theorem callOnce_transport (build : UInt16 → NinePMessage) {w : Link σ} {answer : Int32 × Bytes}
    {s : σ} (exchange : T.exchange (build w.session.nextTag).data w.transport = (answer, s)) :
    (w.callOnce T build).transport = s :=
  congrArg Prod.snd exchange

theorem call_ok {α : Type} {build : UInt16 → NinePMessage} {w : Link σ}
    (parse : NinePMessage → Option α)
    (ok : w.tagged.exchangeCode T (build w.session.nextTag) = 0) :
    Link.call T build parse w =
      (readReply parse (w.tagged.answer T (build w.session.nextTag)), w.callOnce T build) := by
  have once : transact T (build w.session.nextTag) w.tagged = _ := transact_ok ok
  change (readReply parse (transact T (build w.session.nextTag) w.tagged).1,
    (transact T (build w.session.nextTag) w.tagged).2) = _
  rw [once]
  rfl

/-- `Walk` with a first exchange that succeeds. -/
theorem walk_once {path : Bytes} {w : Link σ}
    (ok : w.exchangeCode T (buildTwalk w.session.nextTag w.session.rootFid
      w.session.fidPool.nextFid (splitPath path)) = 0) :
    let fid := w.session.fidPool.nextFid
    let request := buildTwalk w.session.nextTag w.session.rootFid fid (splitPath path)
    let w' : Link σ := { w with session := w.session.allocateFid.2 }
    walk T path w =
      match readReply (fun m => (parseRwalk [] m).1) (w.answer T request) with
      | .error rc => (.error rc, (w'.tagged.exchanged T request).release fid)
      | .ok qids =>
        if qids.length ≠ (splitPath path).length then
          (.error (-enoent), (w'.tagged.exchanged T request).release fid)
        else (.ok fid, w'.tagged.exchanged T request) := by
  intro fid request w'
  let build tag := buildTwalk tag w.session.rootFid fid (splitPath path)
  have sent : w'.tagged.exchangeCode T (build w'.session.nextTag) = 0 := ok
  have called := call_ok (fun m => (parseRwalk [] m).1) sent
  simp only [walk]
  exact called ▸ rfl

/-- What `Initialize` gives when each of its two requests is decided by one exchange. -/
def Link.initializedOnce (T : Transport σ) (aname : Bytes) (w : Link σ) : Int32 × Link σ :=
  let request := attachRequest aname w.session.nextTag w.session.fidPool.nextFid
  let agreed := (Link.mk { w.session with aname := aname } w.transport w.sent).exchanged T
    versionRequest
  match acceptVersion (w.answer T versionRequest) with
  | .error rc => (rc, agreed)
  | .ok size =>
    let attached := (Link.mk (agreed.session.setUp size) agreed.transport agreed.sent).tagged
      |>.exchanged T request
    match readReply (fun m => (parseRattach m).1) (agreed.answer T request) with
    | .error rc => (rc, attached.release w.session.fidPool.nextFid)
    | .ok _ => (0, attached)

theorem initializeWith_once {transact : NinePMessage → Link σ → (Int32 × NinePMessage) × Link σ}
    {aname : Bytes} {w : Link σ}
    (version : ∀ w', w'.transport = w.transport →
      w'.session.reinitializing = w.session.reinitializing →
      transact versionRequest w' = (w'.answer T versionRequest, w'.exchanged T versionRequest))
    (attach : ∀ size, acceptVersion (w.answer T versionRequest) = .ok size → ∀ w',
      w'.transport = (w.exchanged T versionRequest).transport →
      w'.session.reinitializing = w.session.reinitializing →
      let request := attachRequest aname w.session.nextTag w.session.fidPool.nextFid
      transact request w' = (w'.answer T request, w'.exchanged T request)) :
    initializeWith transact aname w = w.initializedOnce T aname := by
  let named : Link σ := { w with session := { w.session with aname := aname } }
  have first := version named rfl rfl
  simp only [initializeWith, Link.initializedOnce]
  rw [show transact versionRequest _ = _ from first]
  change (match acceptVersion (w.answer T versionRequest) with
    | .error rc => (rc, _) | .ok size => _) = _
  cases accepted : acceptVersion (w.answer T versionRequest) with
  | error rc => rfl
  | ok size =>
    have second := attach size accepted
      { named.exchanged T versionRequest with session := (named.session.setUp size).takeTag.2 }
      rfl rfl
    simp only [attachWith]
    exact second ▸ rfl

/-- `Initialize` whose two exchanges succeed. -/
theorem initializeSession_once {aname : Bytes} {w : Link σ}
    (version : w.exchangeCode T versionRequest = 0)
    (attach : ∀ size, acceptVersion (w.answer T versionRequest) = .ok size →
      (w.exchanged T versionRequest).exchangeCode T
        (attachRequest aname w.session.nextTag w.session.fidPool.nextFid) = 0) :
    initializeSession T aname w = w.initializedOnce T aname := by
  refine initializeWith_once ?_ ?_
  · intro w' same _
    exact transact_ok (by rw [Link.exchangeCode, same]; exact version)
  · intro size accepted w' same _
    exact transact_ok (by rw [Link.exchangeCode, same]; exact attach size accepted)

/-- `Initialize` as `Reinitialize` calls it. -/
theorem reinitializeSession_once (w : Link σ) :
    let restarted : Link σ := { w with session := w.session.restarted }
    let initialized := restarted.initializedOnce T w.session.aname
    reinitializeSession T w =
      (initialized.1, { initialized.2 with session := initialized.2.session.resumed }) := by
  intro restarted initialized
  have once : initializeWith (transactWith T fun w => (-eio, w)) w.session.aname restarted =
      initialized := by
    refine initializeWith_once ?_ ?_
    · intro w' _ inner
      exact transactWith_reinitializing _ inner
    · intro size _ w' _ inner
      exact transactWith_reinitializing _ inner
  exact congrArg (fun result : Int32 × Link σ =>
    (result.1, { result.2 with session := result.2.session.resumed })) once

/-- The server has answered the first exchange of a call with `r`. -/
def Link.Answers (T : Transport σ) (build : UInt16 → NinePMessage) (r : Response) (w : Link σ) :
    Prop :=
  ∃ s, T.exchange (build w.session.nextTag).data w.transport =
    ((0, (r.encode w.session.nextTag).data), s)

theorem Link.Answers.received {build : UInt16 → NinePMessage} {w : Link σ} {r : Response}
    (answers : w.Answers T build r) :
    w.exchangeCode T (build w.session.nextTag) = 0 ∧
      w.answer T (build w.session.nextTag) =
        readResponse (r.encode w.session.nextTag).data := by
  obtain ⟨s, exchange⟩ := answers
  have ok : w.exchangeCode T (build w.session.nextTag) = 0 := by
    rw [Link.exchangeCode, exchange]
  refine ⟨ok, ?_⟩
  rw [Link.answer, if_neg (not_not_intro ok), exchange]

/-- An answer to the first exchange of a call is the result of the call. -/
theorem call_of_answers {α : Type} {build : UInt16 → NinePMessage} {w : Link σ} {r : Response}
    (answers : w.Answers T build r) (parse : NinePMessage → Option α) :
    Link.call T build parse w =
      (readReply parse (readResponse (r.encode w.session.nextTag).data), w.callOnce T build) := by
  -- taking the tag leaves the transport alone
  obtain ⟨ok, answer⟩ : w.tagged.exchangeCode T (build w.session.nextTag) = 0 ∧
      w.tagged.answer T (build w.session.nextTag) = _ := answers.received
  rw [call_ok parse ok, answer]

theorem call_answered {α : Type} {build : UInt16 → NinePMessage} {w : Link σ} {r : Response}
    {a : α} (answers : w.Answers T build r) (parse : NinePMessage → Option α)
    (proper : r.type ≠ .rlerror)
    (parsed : parse (ofData (r.encode w.session.nextTag).data) = some a) :
    Link.call T build parse w = (.ok a, w.callOnce T build) := by
  rw [call_of_answers answers, readResponse, isRlerror_encode r _ proper, readReply,
    if_neg (by simp)]
  simp only [parsed]

/-- A payload decoder reads back what a proper answer encodes. -/
theorem parsed_encode {α : Type} (r : Response) (tag : UInt16) {decoder : Decoder α} {a : α}
    (consumes : Consumes messageView decoder r.payload a) (small : 7 + r.payload.length < 2 ^ 32) :
    (parsePayload r.type decoder (ofData (r.encode tag).data)).1 = some a := by
  rw [parsePayload_encode r tag consumes small]

end Virtio9p
