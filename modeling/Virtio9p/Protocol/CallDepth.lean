import Virtio9p.Protocol.Transact

/-!
# How deep the session calls itself

`Transact`, `Reinitialize` and `Initialize` as they call each other, with a bound on the calls
of `Transact` that are open at a time and a trace of what happens. A call above the bound has
no result.
-/
namespace Virtio9p

variable {σ : Type}

inductive Event where
  | exchange
  /-- `Reinitialize` is entered, and left. -/
  | enter
  | leave
  deriving DecidableEq, Repr

/-- A link with what has happened on it. -/
structure Traced (σ : Type) where
  link : Link σ
  trace : List Event

namespace Traced

/-- `reinitializing_` -/
def reinitializing (w : Traced σ) : Bool := w.link.session.reinitializing

def log (event : Event) (w : Traced σ) : Traced σ := { w with trace := w.trace ++ [event] }

/-- One exchange. -/
def exchanged (T : Transport σ) (request : NinePMessage) (w : Traced σ) : Traced σ :=
  log .exchange { w with link := w.link.exchanged T request }

/-- The attempts of `Transact` that are left. -/
def transactLoop (T : Transport σ) (reinitializeSession : Traced σ → Option (Int32 × Traced σ))
    (request : NinePMessage) : Nat → Traced σ → Option ((Int32 × NinePMessage) × Traced σ)
  | 0, w => some ((-eio, NinePMessage.empty), w)
  | attempts + 1, w =>
    let answer := (T.exchange request.data w.link.transport).1
    let w := w.exchanged T request
    if answer.1 ≠ 0 then
      if w.reinitializing then some ((answer.1, NinePMessage.empty), w)
      else
        (reinitializeSession w).bind fun reinit =>
          if reinit.1 ≠ 0 then some ((answer.1, NinePMessage.empty), reinit.2)
          else transactLoop T reinitializeSession request attempts reinit.2
    else some (readResponse answer.2, w)

/-- The second step of `Initialize`. -/
def attachWith (transact : NinePMessage → Traced σ → Option ((Int32 × NinePMessage) × Traced σ))
    (aname : Bytes) (w : Traced σ) : Option (Int32 × Traced σ) :=
  let tag := w.link.session.takeTag
  (transact (attachRequest aname tag.1 w.link.session.rootFid)
      { w with link := { w.link with session := tag.2 } }).map fun attach =>
    match readReply (fun m => (parseRattach m).1) attach.1 with
    | .error rc =>
      (rc, { attach.2 with link := attach.2.link.release attach.2.link.session.rootFid })
    | .ok _ => (0, attach.2)

/-- `Initialize`, given the `Transact` it calls. -/
def initializeWith (transact : NinePMessage → Traced σ → Option ((Int32 × NinePMessage) × Traced σ))
    (aname : Bytes) (w : Traced σ) : Option (Int32 × Traced σ) :=
  let session := { w.link.session with aname := aname }
  (transact versionRequest { w with link := { w.link with session := session } }).bind
    fun version =>
    match acceptVersion version.1 with
    | .error rc => some (rc, version.2)
    | .ok negotiatedSize =>
      let session := version.2.link.session.setUp negotiatedSize
      attachWith transact aname
        { version.2 with link := { version.2.link with session := session } }

/-- `Reinitialize`, given the `Initialize` it calls. -/
def reinitializeWith (initSession : Bytes → Traced σ → Option (Int32 × Traced σ)) (w : Traced σ) :
    Option (Int32 × Traced σ) :=
  let session := w.link.session.restarted
  (initSession session.aname
      (log .enter { w with link := { w.link with session := session } })).map fun result =>
    let session := result.2.link.session.resumed
    (result.1, log .leave { result.2 with link := { result.2.link with session := session } })

/-- `Transact`, with at most `depth` calls of it open. -/
def transact (T : Transport σ) : Nat → NinePMessage → Traced σ →
    Option ((Int32 × NinePMessage) × Traced σ)
  | 0 => fun _ _ => none
  | depth + 1 =>
    fun request => transactLoop T (reinitializeWith (initializeWith (transact T depth))) request
      maxRetries

def initializeSession (T : Transport σ) (depth : Nat) : Bytes → Traced σ →
    Option (Int32 × Traced σ) :=
  initializeWith (transact T depth)

end Traced

/-! ### One re-initialization at a time -/

/-- Whether `Reinitialize` is open behind an event; it is not entered again while it is. -/
def Event.after : Bool → Event → Option Bool
  | inside, .exchange => some inside
  | false, .enter => some true
  | true, .leave => some false
  | _, _ => none

/-- From `w` to `w'` there are at most `exchanges` exchanges, `Reinitialize` is never open twice,
and `reinitializing_` is what it was. -/
structure Returned (w w' : Traced σ) (exchanges : Nat) : Prop where
  flag : w'.reinitializing = w.reinitializing
  events : ∃ events, w'.trace = w.trace ++ events ∧ events.count .exchange ≤ exchanges ∧
    events.foldlM Event.after w.reinitializing = some w.reinitializing

namespace Returned

variable {w w' w'' : Traced σ} {m n : Nat}

theorem refl (w : Traced σ) : Returned w w 0 :=
  ⟨rfl, [], (List.append_nil _).symm, le_rfl, rfl⟩

theorem trans (first : Returned w w' m) (second : Returned w' w'' n) : Returned w w'' (m + n) := by
  obtain ⟨flag, events, trace, count, alone⟩ := first
  obtain ⟨flag', events', trace', count', alone'⟩ := second
  refine ⟨flag'.trans flag, events ++ events', ?_, ?_, ?_⟩
  · rw [trace', trace, List.append_assoc]
  · rw [List.count_append]
    exact Nat.add_le_add count count'
  · rw [List.foldlM_append, alone]
    exact flag ▸ alone'

theorem mono (returned : Returned w w' m) (le : m ≤ n) : Returned w w' n := by
  obtain ⟨flag, events, trace, count, alone⟩ := returned
  exact ⟨flag, events, trace, count.trans le, alone⟩

/-- A step that changes neither the trace nor the flag does not count. -/
theorem of_same {v v' : Traced σ} (returned : Returned w w' m) (trace : v.trace = w.trace)
    (flag : v.reinitializing = w.reinitializing) (trace' : v'.trace = w'.trace)
    (flag' : v'.reinitializing = w'.reinitializing) : Returned v v' m := by
  obtain ⟨same, events, appended, count, alone⟩ := returned
  refine ⟨flag'.trans (same.trans flag.symm), events, ?_, count, ?_⟩
  · rw [trace', appended, trace]
  · rw [flag, alone]

theorem exchanged (T : Transport σ) (request : NinePMessage) (w : Traced σ) :
    Returned w (w.exchanged T request) 1 := by
  refine ⟨rfl, [.exchange], rfl, le_rfl, ?_⟩
  cases w.reinitializing <;> rfl

end Returned

/-! ### The traced functions and the plain ones -/

/-- Where `reinitializing_` is `flag`, the traced function returns, it does what the plain one
does, and it makes no more exchanges than its result allows. -/
def Agrees {α : Type} (flag : Bool) (traced : Traced σ → Option (α × Traced σ))
    (plain : Link σ → α × Link σ) (exchanges : α → Nat) : Prop :=
  ∀ w : Traced σ, w.reinitializing = flag → ∃ w', traced w = some ((plain w.link).1, w') ∧
    w'.link = (plain w.link).2 ∧ Returned w w' (exchanges (plain w.link).1)

variable {T : Transport σ}

/-- One attempt behind which nothing is tried again. -/
theorem transactLoop_ended {R : Traced σ → Option (Int32 × Traced σ)} {request : NinePMessage}
    {w : Traced σ} (n : Nat)
    (decided : w.link.exchangeCode T request = 0 ∨ w.reinitializing = true) :
    Traced.transactLoop T R request (n + 1) w =
      some (w.link.answer T request, w.exchanged T request) := by
  rw [Traced.transactLoop]
  by_cases ok : w.link.exchangeCode T request = 0
  · rw [Link.answer, if_neg (not_not_intro ok)]
    exact if_neg (not_not_intro ok)
  · have inside : (w.exchanged T request).reinitializing = true := decided.resolve_left ok
    rw [Link.answer, if_pos ok]
    exact (if_pos ok).trans (if_pos inside)

/-- Inside a re-initialization `Transact` makes one exchange. -/
theorem transact_inside (depth : Nat) (R : Link σ → Int32 × Link σ) (request : NinePMessage) :
    Agrees true (Traced.transact T (depth + 1) request) (transactWith T R request) fun _ => 1 := by
  intro w inside
  refine ⟨w.exchanged T request, ?_, ?_, Returned.exchanged T request w⟩
  · rw [transactWith_reinitializing R inside]
    exact transactLoop_ended 2 (.inr inside)
  · rw [transactWith_reinitializing R inside]
    rfl

theorem code_of_acceptVersion {reply : Int32 × NinePMessage} {size : UInt32}
    (accepted : acceptVersion reply = .ok size) : reply.1 = 0 := by
  by_contra failed
  rw [acceptVersion, readReply, if_pos failed] at accepted
  cases accepted

section Calls

variable {flag : Bool}
  {traced : NinePMessage → Traced σ → Option ((Int32 × NinePMessage) × Traced σ)}
  {plain : NinePMessage → Link σ → (Int32 × NinePMessage) × Link σ}
  {exchanges : Int32 × NinePMessage → Nat}

theorem attachWith_agrees
    (agrees : ∀ request, Agrees flag (traced request) (plain request) exchanges)
    {most : Nat} (bounded : ∀ reply, exchanges reply ≤ most) (aname : Bytes) :
    Agrees flag (Traced.attachWith traced aname) (attachWith plain aname) fun _ => most := by
  intro w same
  let tagged : Traced σ :=
    { w with link := { w.link with session := w.link.session.takeTag.2 } }
  obtain ⟨w', result, link, returned⟩ := agrees
    (attachRequest aname w.link.session.takeTag.1 w.link.session.rootFid) tagged same
  have within : Returned w w' most :=
    (returned.mono (bounded _)).of_same rfl rfl rfl rfl
  rw [Traced.attachWith, attachWith]
  simp only
  rw [show traced _ _ = _ from result, Option.map_some]
  simp only
  cases readReply (fun m => (parseRattach m).1) (plain _ tagged.link).1 with
  | error rc =>
    -- releasing a fid leaves the trace and the flag alone
    exact ⟨_, rfl, congrArg (fun l : Link σ => l.release l.session.rootFid) link,
      within.of_same rfl rfl rfl rfl⟩
  | ok _ => exact ⟨w', rfl, link, within⟩

/-- The attach is sent only behind a version request that was answered. -/
theorem initializeWith_agrees
    (agrees : ∀ request, Agrees flag (traced request) (plain request) exchanges)
    {answered most : Nat} (success : ∀ reply, reply.1 = 0 → exchanges reply ≤ answered)
    (bounded : ∀ reply, exchanges reply ≤ most) (aname : Bytes) :
    Agrees flag (Traced.initializeWith traced aname) (initializeWith plain aname)
      fun _ => answered + most := by
  intro w same
  let named : Traced σ :=
    { w with link := { w.link with session := { w.link.session with aname := aname } } }
  obtain ⟨version, result, link, returned⟩ := agrees versionRequest named same
  have flagged : version.reinitializing = flag := returned.flag.trans same
  rw [Traced.initializeWith, initializeWith]
  simp only
  rw [show traced _ _ = _ from result, Option.bind_some]
  simp only
  cases accepted : acceptVersion (plain versionRequest named.link).1 with
  | error rc =>
    have within : Returned w version most := (returned.mono (bounded _)).of_same rfl rfl rfl rfl
    exact ⟨version, rfl, link, within.mono (Nat.le_add_left ..)⟩
  | ok size =>
    let agreed : Traced σ :=
      { version with link := { version.link with session := version.link.session.setUp size } }
    obtain ⟨w', result', link', returned'⟩ := attachWith_agrees agrees bounded aname agreed flagged
    have before : Returned w agreed answered :=
      (returned.mono (success _ (code_of_acceptVersion accepted))).of_same rfl rfl rfl rfl
    have plainAgreed : agreed.link = { (plain versionRequest named.link).2 with
        session := (plain versionRequest named.link).2.session.setUp size } := by
      rw [← link]
    rw [plainAgreed] at result' link'
    exact ⟨w', result', link', before.trans returned'⟩

end Calls

section Reinitialization

variable {inner : Bytes → Traced σ → Option (Int32 × Traced σ)}
  {plain : Bytes → Link σ → Int32 × Link σ} {most : Nat}

/-- `Reinitialize` opens once around an `Initialize` that keeps the flag. -/
theorem reinitializeWith_agrees
    (agrees : ∀ aname, Agrees true (inner aname) (plain aname) fun _ => most) :
    Agrees false (Traced.reinitializeWith inner) (reinitializeWith plain) fun _ => most := by
  intro w outside
  let entered : Traced σ :=
    Traced.log .enter { w with link := { w.link with session := w.link.session.restarted } }
  obtain ⟨w', result, link, flag, events, trace, count, alone⟩ :=
    agrees w.link.session.aname entered rfl
  rw [Traced.reinitializeWith, reinitializeWith]
  simp only
  refine ⟨_, congrArg (Option.map _) result, ?_, ?_, .enter :: events ++ [.leave], ?_, ?_, ?_⟩
  · exact congrArg (fun l : Link σ => { l with session := l.session.resumed }) link
  · exact outside.symm
  · change w'.trace ++ [.leave] = _
    rw [trace]
    simp [entered, Traced.log]
  · simpa using count
  · rw [outside, List.cons_append, List.foldlM_cons]
    change (events ++ [Event.leave]).foldlM Event.after true = _
    rw [List.foldlM_append, show events.foldlM Event.after true = some true from alone]
    rfl

/-- Each attempt outside makes one exchange and one re-initialization at most, and the last one
no re-initialization if it is answered. -/
theorem transactLoop_agrees {R : Traced σ → Option (Int32 × Traced σ)}
    {R' : Link σ → Int32 × Link σ}
    (agrees : Agrees false R R' fun _ => most) (request : NinePMessage) (attempts : Nat) :
    Agrees false (Traced.transactLoop T R request attempts) (transactLoop T R' request attempts)
      fun reply => (1 + most) * attempts - if reply.1 = 0 then most else 0 := by
  induction attempts with
  | zero => exact fun w _ => ⟨w, rfl, rfl, (Returned.refl w).mono (Nat.zero_le _)⟩
  | succ attempts ih =>
    intro w outside
    have once := Returned.exchanged T request w
    have room : (1 + most) * (attempts + 1) = (1 + most) * attempts + (1 + most) :=
      Nat.mul_succ ..
    by_cases ok : w.link.exchangeCode T request = 0
    · rw [transactLoop_ended attempts (.inl ok), transactLoop_ok R' ok]
      refine ⟨_, rfl, rfl, once.mono ?_⟩
      simp only
      split <;> omega
    · let failed := w.exchanged T request
      obtain ⟨reinit, result, link, returned⟩ := agrees failed outside
      have before := once.trans returned
      have unfolded : Traced.transactLoop T R request (attempts + 1) w =
          (R failed).bind fun reinit =>
            if reinit.1 ≠ 0 then
              some ((w.link.exchangeCode T request, NinePMessage.empty), reinit.2)
            else Traced.transactLoop T R request attempts reinit.2 :=
        (if_pos ok).trans (if_neg (by rw [show failed.reinitializing = false from outside]; decide))
      have plain : transactLoop T R' request (attempts + 1) w.link =
          if (R' failed.link).1 ≠ 0 then
            ((w.link.exchangeCode T request, NinePMessage.empty), (R' failed.link).2)
          else transactLoop T R' request attempts (R' failed.link).2 :=
        transactLoop_failed R' ok outside attempts
      rw [unfolded, result, Option.bind_some, plain]
      by_cases again : (R' failed.link).1 = 0
      · rw [if_neg (not_not_intro again), if_neg (not_not_intro again), ← link]
        obtain ⟨w', result', link', returned'⟩ := ih reinit (returned.flag.trans outside)
        -- with no attempt left there is no answer
        have answered : (transactLoop T R' request attempts reinit.link).1.1 = 0 →
            1 + most ≤ (1 + most) * attempts := by
          cases attempts with
          | zero => exact fun ok => absurd ok (by decide : -eio ≠ 0)
          | succ n => exact fun _ => Nat.le_mul_of_pos_right _ (Nat.succ_pos n)
        refine ⟨w', result', link', (before.trans returned').mono ?_⟩
        simp only
        split
        · have := answered ‹_›
          omega
        · omega
      · rw [if_pos again, if_pos again]
        refine ⟨reinit, rfl, link, before.mono ?_⟩
        simp only [if_neg ok]
        omega

end Reinitialization

/-! ### The recursion -/

theorem initialize_inside (depth : Nat) (R : Link σ → Int32 × Link σ) (aname : Bytes) :
    Agrees true (Traced.initializeSession T (depth + 1) aname)
      (initializeWith (transactWith T R) aname) fun _ => 2 :=
  initializeWith_agrees (transact_inside depth R) (fun _ _ => le_rfl) (fun _ => le_rfl) aname

theorem reinitialize_agrees (depth : Nat) :
    Agrees false (Traced.reinitializeWith (Traced.initializeSession T (depth + 1)))
      (reinitializeSession T) fun _ => 2 :=
  reinitializeWith_agrees (initialize_inside depth _)

/-- Two calls of `Transact` are open at most. -/
theorem transact_agrees (depth : Nat) (request : NinePMessage) :
    Agrees false (Traced.transact T (depth + 2) request) (transact T request)
      fun reply => 9 - if reply.1 = 0 then 2 else 0 :=
  transactLoop_agrees (reinitialize_agrees depth) request maxRetries

theorem initialize_agrees (depth : Nat) (aname : Bytes) :
    Agrees false (Traced.initializeSession T (depth + 2) aname) (initializeSession T aname)
      fun _ => 7 + 9 :=
  initializeWith_agrees (transact_agrees depth)
    (fun reply ok => by rw [if_pos ok]) (fun reply => Nat.sub_le ..) aname

end Virtio9p
