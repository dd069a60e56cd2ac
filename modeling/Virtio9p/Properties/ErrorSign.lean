import Virtio9p.Protocol.ReturnCodes
import Virtio9p.Resmgr.Handlers

/-!
# The sign of an error

A call returns a negative number after every Rlerror exactly when no Rlerror it receives
carries a code above `2 ^ 31`. Two handlers test the sign alone: a positive result of
`Read` is a byte count to `IoRead`, one of `Write` to `IoWrite`.
-/
namespace Virtio9p

open NinePMessage

variable {σ : Type}

/-! ### What a call returns and receives -/

/-- The return value of an operation that gives 0 on success. -/
def returned {α : Type} : Except Int32 α → Int32
  | .ok _ => 0
  | .error rc => rc

/-- The return value of a call; `none` where the parser has no defined behaviour. -/
def SessionCall.returnCode (T : Transport σ) (w : Link σ) : SessionCall → Option Int32
  | initializeSession aname => some (Virtio9p.initializeSession T aname w).1
  | walk path => some (returned (Virtio9p.walk T path w).1)
  | walkParent path => some (returned (Virtio9p.walkParent T path w).1)
  | openFid fid flags => some (returned (Virtio9p.openFid T fid flags w).1)
  | read fid offset count => (Virtio9p.read T fid offset count w).1.map Prod.fst
  | getAttr fid => some (returned (Virtio9p.getAttr T fid w).1)
  | readDir fid offset count => (Virtio9p.readDir T fid offset count w).1.map returned
  | clunk fid => some (returned (Virtio9p.clunk T fid w).1)
  | write fid offset data =>
    some (Virtio9p.write T fid offset data (UInt32.ofNat data.length) w).1
  | create parentFid name flags mode gid =>
    some (returned (Virtio9p.create T parentFid name flags mode gid w).1)
  | mkdir parentFid name mode gid =>
    some (returned (Virtio9p.mkdir T parentFid name mode gid w).1)
  | unlink dirfid name flags => some (returned (Virtio9p.unlink T dirfid name flags w).1)
  | rename olddirfid oldname newdirfid newname =>
    some (returned (Virtio9p.rename T olddirfid oldname newdirfid newname w).1)

/-- The responses to the Tversion and, if that is accepted, to the Tattach. -/
def Link.initializeReceived (T : Transport σ) (aname : Bytes) (w : Link σ) : List Bytes :=
  let w : Link σ := { w with session := { w.session with aname := aname } }
  let version := transact T versionRequest w
  (w.received T versionRequest).toList ++
    match acceptVersion version.1 with
    | .error _ => []
    | .ok negotiatedSize =>
      let w : Link σ := { version.2 with session := version.2.session.setUp negotiatedSize }
      let request := attachRequest aname w.session.nextTag w.session.rootFid
      (w.tagged.received T request).toList

/-- The response to each request that a call passes to `Transact`, as far as it gets one. -/
def SessionCall.received (T : Transport σ) (call : SessionCall) (w : Link σ) : List Bytes :=
  match call with
  | initializeSession aname => w.initializeReceived T aname
  | call =>
    match call.request w.session with
    | none => []
    | some r => ((w.onSession call.prepared).tagged.received T (r.build w.session.nextTag)).toList

/-- The R-types that answer the requests of a call. -/
def SessionCall.answers : SessionCall → List MessageType
  | initializeSession _ => [.rversion, .rattach]
  | walk _ => [.rwalk]
  | walkParent _ => [.rwalk]
  | openFid _ _ => [.rlopen]
  | read _ _ _ => [.rread]
  | getAttr _ => [.rgetattr]
  | readDir _ _ _ => [.rreaddir]
  | clunk _ => [.rclunk]
  | write _ _ _ => [.rwrite]
  | create _ _ _ _ _ => [.rlcreate]
  | mkdir _ _ _ _ => [.rmkdir]
  | unlink _ _ _ => [.runlinkat]
  | rename _ _ _ _ => [.rrenameat]

/-- A result that is not negative comes with the R-types that answer the requests, and
every Rlerror among the responses makes the result negative. -/
structure ErrorsNegative (returnCode : Option Int32) (received : List Bytes)
    (answers : List MessageType) : Prop where
  answered : ∀ rc, returnCode = some rc → 0 ≤ rc →
    received.map typeByte = answers.map MessageType.code
  negative : ∀ bytes ∈ received, typeByte bytes = MessageType.rlerror.code →
    ∃ rc, returnCode = some rc ∧ rc < 0

/-! ### Calls with one request -/

section Call

variable {T : Transport σ}

theorem HugeError.typeByte {bytes : Bytes} (huge : HugeError bytes) :
    typeByte bytes = MessageType.rlerror.code := by
  obtain ⟨ecode, error, -⟩ := huge
  exact isRlerror_iff.mp ⟨ecode, error⟩

private theorem not_nonnegative {rc : Int32} (negative : rc < 0) : ¬ 0 ≤ rc :=
  Int32.not_le.mpr negative

/-- It is enough to know the sign after a huge error code, and that without one the
result is negative or every answer has its R-type. -/
theorem errorsNegative_iff {returnCode : Option Int32} {received : List Bytes}
    {answers : List MessageType} (proper : .rlerror ∉ answers)
    (huge : ∀ bytes ∈ received, HugeError bytes → ∃ rc, returnCode = some rc ∧ 0 < rc)
    (harmless : (∀ bytes ∈ received, ¬ HugeError bytes) →
      (∃ rc, returnCode = some rc ∧ rc < 0) ∨
        received.map typeByte = answers.map MessageType.code) :
    ErrorsNegative returnCode received answers ↔ ∀ bytes ∈ received, ¬ HugeError bytes := by
  constructor
  · intro fine bytes member error
    -- one result cannot be positive and negative
    obtain ⟨rc, code, positive⟩ := huge bytes member error
    obtain ⟨rc', code', negative⟩ := fine.negative bytes member error.typeByte
    rw [code] at code'
    cases code'
    exact absurd (Int32.lt_trans positive negative) Int32.lt_irrefl
  · intro small
    rcases harmless small with ⟨rc, code, negative⟩ | types
    · constructor
      · intro rc' code' nonnegative
        rw [code] at code'
        cases code'
        exact absurd nonnegative (not_nonnegative negative)
      · intro bytes member error
        exact ⟨rc, code, negative⟩
    · constructor
      · intro rc code nonnegative
        exact types
      · intro bytes member error
        -- an Rlerror among the answers would be of a type that is expected
        have answered : typeByte bytes ∈ answers.map MessageType.code :=
          types ▸ List.mem_map_of_mem member
        obtain ⟨type, expected, same⟩ := List.mem_map.mp answered
        rw [error] at same
        exact absurd (MessageType.code_injective same ▸ expected) proper

theorem Signed.errorsNegative {α : Type} {type : MessageType} {response : Option Bytes}
    {result : Except Int32 α} (signed : Signed type response result) (proper : type ≠ .rlerror)
    {returnCode : Option Int32} (same : ∀ rc, result = .error rc → returnCode = some rc) :
    ErrorsNegative returnCode response.toList [type] ↔
      ∀ bytes ∈ response.toList, ¬ HugeError bytes := by
  apply errorsNegative_iff
  · simpa using proper.symm
  · intro bytes member huge
    obtain ⟨rc, failed, positive⟩ := signed.huge bytes (Option.mem_toList.mp member) huge
    exact ⟨rc, same rc failed, positive⟩
  · intro harmless
    cases result with
    -- a value comes from a response of the right type
    | ok a =>
      obtain ⟨bytes, got, kind⟩ := Option.map_eq_some_iff.mp (signed.value a rfl)
      right
      rw [got]
      exact congrArg (fun byte => [byte]) kind
    -- without a huge code the error is negative
    | error rc =>
      left
      refine ⟨rc, same rc rfl, ?_⟩
      rcases signed.error rc rfl with negative | ⟨bytes, got, huge⟩
      · exact negative
      · exact absurd huge (harmless bytes (by simp [got]))

theorem call_signed {α : Type} {type : MessageType} {parse : NinePMessage → Option α}
    (only : ParsesOnly type parse) (proper : type ≠ .rlerror) (nonpositive : T.Nonpositive)
    (build : UInt16 → NinePMessage) (w : Link σ) :
    Signed type (w.tagged.received T (build w.session.nextTag)) (Link.call T build parse w).1 :=
  signed_reply only proper nonpositive (build w.session.nextTag) w.tagged

private theorem walk_signed (nonpositive : T.Nonpositive) (path : Bytes) (w : Link σ)
    {returnCode : Option Int32} (same : returnCode = some (returned (walk T path w).1)) :
    ErrorsNegative returnCode ((SessionCall.walk path).received T w) [.rwalk] ↔
      ∀ bytes ∈ (SessionCall.walk path).received T w, ¬ HugeError bytes := by
  let build := fun tag =>
    buildTwalk tag w.session.rootFid w.session.allocateFid.1 (splitPath path)
  have signed := call_signed (parsesOnly_payload .rwalk (rwalkFields [])) (by decide) nonpositive
    build { w with session := w.session.allocateFid.2 }
  refine signed.errorsNegative (by decide) ?_
  intro rc failed
  rw [same]
  simp only [walk]
  rw [show (Link.call T _ (fun m => (parseRwalk [] m).1) _).1 = .error rc from failed]
  rfl

theorem returned_map {α β : Type} (result : Except Int32 α) (f : α → β) :
    returned (result.map f) = returned result := by
  cases result <;> rfl

theorem walkParent_received {path : Bytes} {w : Link σ} (basename : (splitParent path).2 ≠ []) :
    (SessionCall.walkParent path).received T w =
      (SessionCall.walk (splitParent path).1).received T w := by
  have takes : SessionCall.takesFid (.walkParent path) = true := decide_eq_true basename
  have same : (SessionCall.walkParent path).prepared =
      (SessionCall.walk (splitParent path).1).prepared := by
    funext s
    simp only [SessionCall.prepared, takes]
    rfl
  simp only [SessionCall.received, SessionCall.request, if_neg basename, same]

/-- The calls whose result is that of the parser. -/
private theorem plain_signed {α : Type} {type : MessageType} {parse : NinePMessage → Option α}
    (only : ParsesOnly type parse) (proper : type ≠ .rlerror) (nonpositive : T.Nonpositive)
    (build : UInt16 → NinePMessage) (w : Link σ) :
    let response := (w.tagged.received T (build w.session.nextTag)).toList
    ErrorsNegative (some (returned (Link.call T build parse w).1)) response [type] ↔
      ∀ bytes ∈ response, ¬ HugeError bytes := by
  refine (call_signed only proper nonpositive build w).errorsNegative proper ?_
  intro rc failed
  rw [failed]
  rfl

private theorem call_errorsNegative (nonpositive : T.Nonpositive) {call : SessionCall}
    {w : Link σ} {r : Request} (sends : call.request w.session = some r) :
    ErrorsNegative (call.returnCode T w) (call.received T w) call.answers ↔
      ∀ bytes ∈ call.received T w, ¬ HugeError bytes := by
  cases call with
  | initializeSession aname => cases sends
  | walk path => exact walk_signed nonpositive path w rfl
  | walkParent path =>
    by_cases basename : (splitParent path).2 = []
    · simp only [SessionCall.request, if_pos basename] at sends
      cases sends
    · rw [walkParent_received basename]
      refine walk_signed nonpositive _ w ?_
      simp only [SessionCall.returnCode, walkParent, if_neg basename, returned_map]
  | openFid fid flags =>
    exact plain_signed ((parsesOnly_payload .rlopen qidAndIounit).map fun _ => Prod.snd)
      (by decide) nonpositive (fun tag => buildTlopen tag fid flags) w
  | read fid offset count =>
    have signed := call_signed (markFault_only .rread rreadFields) (by decide) nonpositive
      (fun tag => buildTread tag fid offset count) w
    refine signed.errorsNegative (by decide) ?_
    intro rc failed
    simp only [SessionCall.returnCode, read, parseRread]
    rw [failed]
    rfl
  | getAttr fid =>
    exact plain_signed (parsesOnly_payload .rgetattr rgetattrFields) (by decide) nonpositive
      (fun tag => buildTgetattr tag fid getattrBasic) w
  | readDir fid offset count =>
    have signed := call_signed (markFault_only .rreaddir (rreaddirFields [])) (by decide)
      nonpositive (fun tag => buildTreaddir tag fid offset count) w
    refine signed.errorsNegative (by decide) ?_
    intro rc failed
    simp only [SessionCall.returnCode, readDir, parseRreaddir]
    rw [failed]
    rfl
  | clunk fid =>
    exact plain_signed (parsesOnly_header .rclunk) (by decide) nonpositive
      (fun tag => buildTclunk tag fid) w
  | write fid offset data =>
    have signed := call_signed (parsesOnly_payload .rwrite getU32) (by decide) nonpositive
      (fun tag => buildTwrite tag fid offset data (UInt32.ofNat data.length)) w
    refine signed.errorsNegative (by decide) ?_
    intro rc failed
    simp only [SessionCall.returnCode, write, parseRwrite]
    rw [failed]
  | create parentFid name flags mode gid =>
    exact plain_signed (parsesOnly_payload .rlcreate qidAndIounit) (by decide) nonpositive
      (fun tag => buildTlcreate tag parentFid name flags mode gid) w
  | mkdir parentFid name mode gid =>
    exact plain_signed (parsesOnly_payload .rmkdir getQid) (by decide) nonpositive
      (fun tag => buildTmkdir tag parentFid name mode gid) w
  | unlink dirfid name flags =>
    exact plain_signed (parsesOnly_header .runlinkat) (by decide) nonpositive
      (fun tag => buildTunlinkat tag dirfid name flags) w
  | rename olddirfid oldname newdirfid newname =>
    exact plain_signed (parsesOnly_header .rrenameat) (by decide) nonpositive
      (fun tag => buildTrenameat tag olddirfid oldname newdirfid newname) w

end Call

/-! ### Initialize -/

section Initialize

variable {T : Transport σ}

/-- A further check may turn a value into a negative error. -/
theorem Signed.checked {α β : Type} {type : MessageType} {received : Option Bytes}
    {result : Except Int32 α} {result' : Except Int32 β} (signed : Signed type received result)
    (failed : ∀ rc, result = .error rc → result' = .error rc)
    (negative : ∀ a rc, result = .ok a → result' = .error rc → rc < 0) :
    Signed type received result' := by
  constructor
  · intro b value
    cases result with
    | ok a => exact signed.value a rfl
    | error rc =>
      rw [failed rc rfl] at value
      cases value
  · intro rc error
    cases result with
    | ok a => exact .inl (negative a rc rfl error)
    | error first =>
      rw [failed first rfl] at error
      cases error
      exact signed.error rc rfl
  · intro bytes got huge
    obtain ⟨rc, error, positive⟩ := signed.huge bytes got huge
    exact ⟨rc, failed rc error, positive⟩

theorem signed_acceptVersion (nonpositive : T.Nonpositive) (w : Link σ) :
    Signed .rversion (w.received T versionRequest)
      (acceptVersion (transact T versionRequest w).1) := by
  have signed := signed_reply (parsesOnly_payload .rversion rversionFields) (by decide)
    nonpositive versionRequest w
  apply signed.checked
  · intro rc failed
    simp only [acceptVersion, parseRversion, failed]
  · intro fields rc parsed error
    simp only [acceptVersion, parseRversion, parsed] at error
    split at error
    · cases error
      decide
    · cases error

theorem attachWith_returned (transact : NinePMessage → Link σ → (Int32 × NinePMessage) × Link σ)
    (aname : Bytes) (w : Link σ) :
    (attachWith transact aname w).1 = returned (readReply (fun m => (parseRattach m).1)
      (transact (attachRequest aname w.session.nextTag w.session.rootFid) w.tagged).1) := by
  simp only [attachWith]
  split
  · rename_i rc failed
    exact (congrArg returned failed).symm
  · rename_i qid done
    exact (congrArg returned done).symm

private theorem initialize_errorsNegative (nonpositive : T.Nonpositive) (aname : Bytes)
    (w : Link σ) :
    ErrorsNegative (some (initializeSession T aname w).1) (w.initializeReceived T aname)
        [.rversion, .rattach] ↔
      ∀ bytes ∈ w.initializeReceived T aname, ¬ HugeError bytes := by
  let named : Link σ := { w with session := { w.session with aname := aname } }
  have version := signed_acceptVersion nonpositive named
  simp only [initializeSession, initializeWith, Link.initializeReceived]
  cases accepted : acceptVersion (transact T versionRequest named).1 with
  | error rc =>
    rw [accepted] at version
    simp only [List.append_nil]
    apply errorsNegative_iff (by decide)
    · intro bytes member huge
      obtain ⟨_, ⟨⟩, positive⟩ := version.huge bytes (Option.mem_toList.mp member) huge
      exact ⟨rc, rfl, positive⟩
    · intro harmless
      left
      refine ⟨rc, rfl, ?_⟩
      rcases version.error rc rfl with negative | ⟨bytes, got, huge⟩
      · exact negative
      · exact absurd huge (harmless bytes (Option.mem_toList.mpr got))
  | ok size =>
    rw [accepted] at version
    let attaching : Link σ := { (transact T versionRequest named).2 with
      session := (transact T versionRequest named).2.session.setUp size }
    let request := attachRequest aname attaching.session.nextTag attaching.session.rootFid
    have attach := signed_reply (parsesOnly_payload .rattach getQid) (by decide) nonpositive
      request attaching.tagged
    obtain ⟨versionBytes, got, versionType⟩ := Option.map_eq_some_iff.mp (version.value size rfl)
    -- the version was accepted, so its response was no Rlerror
    have unharmed : ¬ HugeError versionBytes := by
      intro huge
      obtain ⟨_, ⟨⟩, -⟩ := version.huge versionBytes got huge
    simp only [attachWith_returned]
    change ErrorsNegative (some (returned (readReply _ (transact T request attaching.tagged).1)))
        ((named.received T versionRequest).toList ++
          (attaching.tagged.received T request).toList) _ ↔
      ∀ bytes ∈ (named.received T versionRequest).toList ++
        (attaching.tagged.received T request).toList, _
    rw [got, Option.toList_some, List.singleton_append]
    apply errorsNegative_iff (by decide)
    · intro bytes member huge
      rcases List.mem_cons.mp member with rfl | member
      · exact absurd huge unharmed
      · -- so the huge code is in the response to the Tattach
        obtain ⟨rc, failed, positive⟩ := attach.huge bytes (Option.mem_toList.mp member) huge
        exact ⟨rc, congrArg (fun result => some (returned result)) failed, positive⟩
    · intro harmless
      cases result : readReply (fun m => (parseRattach m).1)
          (transact T request attaching.tagged).1 with
      | error rc =>
        left
        refine ⟨rc, rfl, ?_⟩
        rcases attach.error rc result with negative | ⟨bytes, answer, huge⟩
        · exact negative
        · exact absurd huge (harmless bytes
            (List.mem_cons_of_mem _ (Option.mem_toList.mpr answer)))
      | ok qid =>
        right
        obtain ⟨bytes, answer, attachType⟩ :=
          Option.map_eq_some_iff.mp (attach.value qid result)
        rw [answer]
        simp [versionType, attachType]

end Initialize

/-- Every call returns a negative number after an Rlerror if and only if none of its
responses is an Rlerror with a code above `2 ^ 31`. -/
theorem call_errorsNegative_iff {T : Transport σ} (nonpositive : T.Nonpositive)
    (call : SessionCall) (w : Link σ) :
    ErrorsNegative (call.returnCode T w) (call.received T w) call.answers ↔
      ∀ bytes ∈ call.received T w, ¬ HugeError bytes := by
  cases sends : call.request w.session with
  | some r => exact call_errorsNegative nonpositive sends
  | none =>
    cases call with
    | initializeSession aname => exact initialize_errorsNegative nonpositive aname w
    | walkParent path =>
      -- no request is sent for a path without basename
      have basename : (splitParent path).2 = [] := by
        by_contra named
        simp only [SessionCall.request, if_neg named] at sends
        cases sends
      have silent : (SessionCall.walkParent path).received T w = [] := by
        simp only [SessionCall.received, sends]
      have code : (SessionCall.walkParent path).returnCode T w = some (-einval) := by
        simp only [SessionCall.returnCode, walkParent, if_pos basename]
        rfl
      rw [silent, code]
      apply errorsNegative_iff (by simp [SessionCall.answers])
      · rintro bytes ⟨⟩
      · intro _
        exact .inl ⟨_, rfl, by decide⟩
    | _ => cases sends

/-! ### IoRead and IoWrite -/

/-- The call that `IoRead` makes. -/
def readCall (msg : IoRead) (ocb : ExtOcb) : SessionCall :=
  if ocb.data.isDirectory then .readDir ocb.data.fid ocb.data.offset msg.nbytes
  else .read ocb.data.fid ocb.data.offset msg.nbytes

/-- The calls of `IoRead`, with the links they are made on. -/
def ioReadCalls (msg : IoRead) (ocb : ExtOcb) (w : Link σ) : List (SessionCall × Link σ) :=
  if msg.verify ≠ eok then [] else [(readCall msg ocb, w)]

/-- The calls of the chunk loop, with the links they are made on. -/
def writeRounds (T : Transport σ) (msg : IoWrite) (plan : WritePlan) :
    Nat → Nat → UInt32 → Link σ → List (SessionCall × Link σ)
  | fuel, round, totalWritten, w =>
    if totalWritten < plan.nbytes then
      match fuel with
      | 0 => []
      | fuel + 1 =>
        match writeChunk msg plan round totalWritten with
        | .error _ => []
        | .ok buf =>
          let copied := UInt32.ofNat buf.length
          let sent := write T plan.fid (plan.offset + totalWritten.toUInt64) buf copied w
          let later :=
            if sent.1 < 0 then []
            else if sent.1.toUInt32 < copied then []
            else writeRounds T msg plan fuel (round + 1) (totalWritten + sent.1.toUInt32) sent.2
          (.write plan.fid (plan.offset + totalWritten.toUInt64) buf, w) :: later
    else []

def ioWriteCalls (T : Transport σ) (q : Qnx) (fuel : Nat) (msg : IoWrite) (ocb : ExtOcb)
    (w : Link σ) : List (SessionCall × Link σ) :=
  if msg.verify ≠ eok then []
  else if msg.nbytes = 0 then []
  else
    match writePlan q msg ocb with
    | .error _ => []
    | .ok plan => writeRounds T msg plan fuel 0 0 w

/-- A handler that receives an Rlerror in one of its calls ends with that call, and the
error number of the call is what the client gets. -/
def ErrorsReported (T : Transport σ) (calls : List (SessionCall × Link σ)) (ocb : ExtOcb)
    (outcome : (Reply × ExtOcb) × Link σ) : Prop :=
  ∀ call ∈ calls, ∀ bytes ∈ call.1.received T call.2,
    typeByte bytes = MessageType.rlerror.code →
    ∃ rc, call.1.returnCode T call.2 = some rc ∧ rc < 0 ∧
      outcome = ((.errno (-rc), ocb), (performCall T call.1 call.2).2)

section Handlers

variable {T : Transport σ}

/-- It is enough that the handler reports negative results. -/
theorem errorsReported_iff (nonpositive : T.Nonpositive) {calls : List (SessionCall × Link σ)}
    {ocb : ExtOcb} {outcome : (Reply × ExtOcb) × Link σ}
    (reports : ∀ call ∈ calls, ∀ rc, call.1.returnCode T call.2 = some rc → rc < 0 →
      outcome = ((.errno (-rc), ocb), (performCall T call.1 call.2).2)) :
    ErrorsReported T calls ocb outcome ↔
      ∀ call ∈ calls, ∀ bytes ∈ call.1.received T call.2, ¬ HugeError bytes := by
  constructor
  · intro reported call member bytes got huge
    obtain ⟨rc, code, negative, -⟩ := reported call member bytes got huge.typeByte
    -- the handler ends with this call, whose code it negates
    have fine : ErrorsNegative (call.1.returnCode T call.2) (call.1.received T call.2)
        call.1.answers := by
      constructor
      · intro rc' code' nonnegative
        rw [code] at code'
        cases code'
        exact absurd nonnegative (not_nonnegative negative)
      · intro _ _ _
        exact ⟨rc, code, negative⟩
    exact (call_errorsNegative_iff nonpositive call.1 call.2).mp fine bytes got huge
  · intro harmless call member bytes got error
    have fine := (call_errorsNegative_iff nonpositive call.1 call.2).mpr (harmless call member)
    obtain ⟨rc, code, negative⟩ := fine.negative bytes got error
    exact ⟨rc, code, negative, reports call member rc code negative⟩

private theorem ioRead_reports {q : Qnx} {msg : IoRead} {ocb : ExtOcb} {w : Link σ} :
    ∀ call ∈ ioReadCalls msg ocb w, ∀ rc, call.1.returnCode T call.2 = some rc → rc < 0 →
      ioRead T q msg ocb w = ((.errno (-rc), ocb), (performCall T call.1 call.2).2) := by
  intro call member rc code negative
  unfold ioReadCalls at member
  split at member
  · cases member
  rename_i verified
  rw [List.mem_singleton.mp member] at code ⊢
  cases directory : ocb.data.isDirectory with
  -- `ReadDir` returns 0 or an error, and any error is reported
  | true =>
    simp only [readCall, directory, if_true, SessionCall.returnCode] at code
    obtain ⟨result, listed, same⟩ := Option.map_eq_some_iff.mp code
    cases result with
    | ok entries =>
      rw [← same] at negative
      exact absurd negative Int32.lt_irrefl
    | error failed =>
      obtain ⟨w', whole⟩ : ∃ w', readDir T ocb.data.fid ocb.data.offset msg.nbytes w =
          (some (.error failed), w') := ⟨_, Prod.ext listed rfl⟩
      simp only [ioRead, if_neg verified, readCall, directory, if_true, performCall, whole]
      exact congrArg (fun rc => ((Reply.errno (-rc), ocb), _)) same
  -- `Read` returns a count or an error: the sign decides
  | false =>
    simp only [readCall, directory, Bool.false_eq_true, if_false, SessionCall.returnCode] at code
    obtain ⟨result, got, same⟩ := Option.map_eq_some_iff.mp code
    obtain ⟨w', whole⟩ : ∃ w', read T ocb.data.fid ocb.data.offset msg.nbytes w =
        (some result, w') := ⟨_, Prod.ext got rfl⟩
    simp only [ioRead, if_neg verified, readCall, directory, Bool.false_eq_true, if_false,
      performCall, whole, same, if_pos negative]

private theorem writeLoop_reports {msg : IoWrite} {plan : WritePlan} {fuel round : Nat}
    {totalWritten : UInt32} {w : Link σ} :
    ∀ call ∈ writeRounds T msg plan fuel round totalWritten w, ∀ rc,
      call.1.returnCode T call.2 = some rc → rc < 0 →
      writeLoop T msg plan fuel round totalWritten w =
        (some (.error (-rc)), (performCall T call.1 call.2).2) := by
  -- on the rounds: the loop is in the state in which it makes the call
  induction fuel generalizing round totalWritten w with
  | zero =>
    intro call member
    rw [writeRounds] at member
    split at member <;> cases member
  | succ fuel ih =>
    intro call member rc code negative
    rw [writeRounds] at member
    split at member
    · rename_i more
      rw [writeLoop, if_pos more]
      simp only at member ⊢
      cases chunk : writeChunk msg plan round totalWritten with
      | error errno =>
        rw [chunk] at member
        cases member
      | ok buf =>
        rw [chunk] at member
        simp only at member ⊢
        rcases List.mem_cons.mp member with rfl | member
        · -- the loop stops with this call
          have result : (write T plan.fid (plan.offset + totalWritten.toUInt64) buf
              (UInt32.ofNat buf.length) w).1 = rc := Option.some.inj code
          rw [if_pos (result ▸ negative), result]
          rfl
        · -- the call belongs to a later round
          split at member
          · cases member
          · rename_i counted
            split at member
            · cases member
            · rename_i whole
              rw [if_neg counted, if_neg whole]
              exact ih call member rc code negative
    · cases member

private theorem ioWrite_reports {q : Qnx} {fuel : Nat} {msg : IoWrite} {ocb : ExtOcb}
    {w : Link σ} :
    ∀ call ∈ ioWriteCalls T q fuel msg ocb w, ∀ rc, call.1.returnCode T call.2 = some rc →
      rc < 0 →
      ioWrite T q fuel msg ocb w = ((.errno (-rc), ocb), (performCall T call.1 call.2).2) := by
  intro call member rc code negative
  unfold ioWriteCalls at member
  unfold ioWrite
  split at member
  · cases member
  rename_i verified
  split at member
  · cases member
  rename_i some
  rw [if_neg verified, if_neg some]
  cases planned : writePlan q msg ocb with
  | error errno =>
    rw [planned] at member
    cases member
  | ok plan =>
    rw [planned] at member
    simp only [writeLoop_reports call member rc code negative]

end Handlers

/-- After every Rlerror a call returns a negative number and `IoRead` and `IoWrite` report
it, if and only if no Rlerror received carries a code above `2 ^ 31`. -/
theorem errors_negative_iff (T : Transport σ) (nonpositive : T.Nonpositive) (w : Link σ) :
    (∀ call : SessionCall,
      ErrorsNegative (call.returnCode T w) (call.received T w) call.answers ↔
      ∀ bytes ∈ call.received T w, ¬ HugeError bytes) ∧
    (∀ q msg ocb, ErrorsReported T (ioReadCalls msg ocb w) ocb (ioRead T q msg ocb w) ↔
      ∀ call ∈ ioReadCalls msg ocb w, ∀ bytes ∈ call.1.received T call.2, ¬ HugeError bytes) ∧
    ∀ q fuel msg ocb,
      ErrorsReported T (ioWriteCalls T q fuel msg ocb w) ocb (ioWrite T q fuel msg ocb w) ↔
      ∀ call ∈ ioWriteCalls T q fuel msg ocb w, ∀ bytes ∈ call.1.received T call.2,
        ¬ HugeError bytes := by
  refine ⟨?_, ?_, ?_⟩
  · intro call
    exact call_errorsNegative_iff nonpositive call w
  · intro q msg ocb
    exact errorsReported_iff nonpositive ioRead_reports
  · intro q fuel msg ocb
    exact errorsReported_iff nonpositive ioWrite_reports

/-- A server that answers every request with the same bytes. -/
def fixedServer (response : Bytes) : Transport Unit := ⟨fun _ s => ((0, response), s)⟩

theorem fixedServer_nonpositive (response : Bytes) : (fixedServer response).Nonpositive :=
  fun _ _ => Int32.le_refl 0

/-- An Rlerror with tag 0 and error code `2 ^ 32 - 1`. -/
def hugeRlerror : Bytes := [11, 0, 0, 0, 7, 0, 0, 255, 255, 255, 255]

/-- A freshly made session. -/
def idleLink : Link Unit := ⟨NinePSession.new, (), []⟩

/-- A file opened on fid 1, and a read of 64 bytes from it. -/
def fileOnFid1 : ExtOcb := ⟨0, 0o100644, 0, ⟨1, 0, 0, false, 0⟩⟩

def readMessage : IoRead := ⟨64, .none, eok⟩

/-- A write of two bytes. -/
def writeMessage : IoWrite where
  nbytes := 2
  xtype := .none
  memory := fun _ => 7
  ctpOffset := 0
  msglen := 18
  verify := eok
  msgread := fun _ _ _ => .error eio
  bounded := nofun

/-- An Rlerror with tag 0 and error code 5. -/
def smallRlerror : Bytes := [11, 0, 0, 0, 7, 0, 0, 5, 0, 0, 0]

theorem smallRlerror_harmless : ¬ HugeError smallRlerror := by
  rintro ⟨ecode, error, huge⟩
  have code : isRlerror (ofData smallRlerror) = some 5 := by decide
  rw [code] at error
  cases error
  exact absurd huge (by decide)

/-- After the error code 5 a call returns a negative number and both handlers report it; after the
code `2 ^ 32 - 1` the call does not. -/
theorem errors_negative_fixedServer :
    ErrorsNegative ((SessionCall.clunk 1).returnCode (fixedServer smallRlerror) idleLink)
        ((SessionCall.clunk 1).received (fixedServer smallRlerror) idleLink) [.rclunk] ∧
      ErrorsReported (fixedServer smallRlerror) (ioReadCalls readMessage fileOnFid1 idleLink)
        fileOnFid1 (ioRead (fixedServer smallRlerror) Qnx.headers readMessage fileOnFid1 idleLink) ∧
      ErrorsReported (fixedServer smallRlerror)
        (ioWriteCalls (fixedServer smallRlerror) Qnx.headers 1 writeMessage fileOnFid1 idleLink)
        fileOnFid1
        (ioWrite (fixedServer smallRlerror) Qnx.headers 1 writeMessage fileOnFid1 idleLink) ∧
      ¬ ErrorsNegative ((SessionCall.clunk 1).returnCode (fixedServer hugeRlerror) idleLink)
        ((SessionCall.clunk 1).received (fixedServer hugeRlerror) idleLink) [.rclunk] := by
  obtain ⟨calls, reads, writes⟩ :=
    errors_negative_iff _ (fixedServer_nonpositive smallRlerror) idleLink
  -- whatever is asked, that is the response
  have harmless {responses : List Bytes} (all : ∀ bytes ∈ responses, bytes = smallRlerror) :
      ∀ bytes ∈ responses, ¬ HugeError bytes :=
    fun bytes member => all bytes member ▸ smallRlerror_harmless
  refine ⟨(calls (.clunk 1)).mpr (harmless (by decide)),
    (reads Qnx.headers readMessage fileOnFid1).mpr ?_,
    (writes Qnx.headers 1 writeMessage fileOnFid1).mpr ?_, ?_⟩
  · intro call member
    rw [show call = (SessionCall.read 1 0 64, idleLink) from List.mem_singleton.mp member]
    exact harmless (by decide)
  · intro call member
    rw [show call = (SessionCall.write 1 0 [7, 7], idleLink) from List.mem_singleton.mp member]
    exact harmless (by decide)
  · have received : (SessionCall.clunk 1).received (fixedServer hugeRlerror) idleLink =
        [hugeRlerror] := by decide
    intro fine
    have harmless :=
      ((errors_negative_iff _ (fixedServer_nonpositive hugeRlerror) idleLink).1 (.clunk 1)).mp fine
    refine harmless hugeRlerror (received ▸ List.mem_singleton_self _) ⟨0xFFFFFFFF, ?_, ?_⟩
    · decide
    · decide

/-- After the Rlerror `Read` returns 1, which `IoRead` takes for the end of the file. -/
theorem read_hugeRlerror :
    (SessionCall.read 1 0 64).received (fixedServer hugeRlerror) idleLink = [hugeRlerror] ∧
    typeByte hugeRlerror = MessageType.rlerror.code ∧
    (SessionCall.read 1 0 64).returnCode (fixedServer hugeRlerror) idleLink = some 1 ∧
    ¬ ErrorsNegative ((SessionCall.read 1 0 64).returnCode (fixedServer hugeRlerror) idleLink)
      ((SessionCall.read 1 0 64).received (fixedServer hugeRlerror) idleLink) [.rread] ∧
    (ioRead (fixedServer hugeRlerror) Qnx.headers readMessage fileOnFid1 idleLink).1 =
      (.nbytes 0, fileOnFid1) := by
  have received : (SessionCall.read 1 0 64).received (fixedServer hugeRlerror) idleLink =
      [hugeRlerror] := by decide
  have code : (SessionCall.read 1 0 64).returnCode (fixedServer hugeRlerror) idleLink =
      some 1 := by decide
  refine ⟨received, by decide, code, ?_, by decide⟩
  intro fine
  obtain ⟨rc, same, negative⟩ :=
    fine.negative hugeRlerror (received ▸ List.mem_singleton_self _) (by decide)
  rw [code] at same
  cases same
  exact absurd negative (by decide)

end Virtio9p
