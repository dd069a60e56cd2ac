import Virtio9p.Properties.RequestRoundTrip
import Virtio9p.Resmgr.HandlerSteps
import Virtio9p.Server.FidServer

/-!
# The negotiated message size

No handler looks at `message_size_`. In a run whose messages ask for no more than the
smallest size that is ever negotiated, every request is at most `message_size_` bytes
long when it is sent, and so is the reply that a read asks for.
-/
namespace Virtio9p

open NinePMessage

/-- The request fits, and if it is a Tread or a Treaddir its reply fits, too. -/
def Within (size : Nat) (request : Bytes) : Prop :=
  request.length ≤ size ∧ ∀ tag fid offset count,
    request = (buildTread tag fid offset count).data ∨
      request = (buildTreaddir tag fid offset count).data → 11 + count.toNat ≤ size

/-- Size of the Twalk for a path. -/
def walkSize (path : Bytes) : Nat := 17 + ((splitPath path).map fun name => 2 + name.length).sum

/-- What a message asks for fits `M` bytes. -/
def FitsMessage {σ : Type} (M : Nat) (q : Qnx) : Call → Driver σ → Prop
  | .connectOpen msg _, _ =>
    let parent := splitParent (openPath msg)
    walkSize (openPath msg) ≤ M ∧ (msg.ioflag &&& q.oCreat ≠ 0 → parent.2 ≠ [] →
      walkSize parent.1 ≤ M ∧ 25 + parent.2.length ≤ M)
  | .connectMknod msg, _ =>
    let parent := splitParent msg.path
    sIsdir msg.mode → parent.2 ≠ [] → walkSize parent.1 ≤ M ∧ 21 + parent.2.length ≤ M
  | .connectUnlink msg, _ =>
    let parent := splitParent msg.path
    parent.2 ≠ [] → walkSize parent.1 ≤ M ∧ walkSize msg.path ≤ M ∧ 17 + parent.2.length ≤ M
  | .connectRename msg, _ =>
    let parent := splitParent msg.path
    let newParent := splitParent msg.newPath
    parent.2 ≠ [] → walkSize parent.1 ≤ M ∧ (newParent.2 ≠ [] →
      walkSize newParent.1 ≤ M ∧ 19 + parent.2.length + newParent.2.length ≤ M)
  | .ioRead _ msg, _ => msg.verify = eok → 11 + msg.nbytes.toNat ≤ M
  | .ioWrite i msg _, d => msg.verify = eok → msg.xtype ≠ .other → ∀ ocb, d.ocbs[i]? = some ocb →
    23 + min msg.nbytes.toNat (chunkSize ocb).toNat ≤ M
  | .ioStat _, _ => True
  | .ioCloseOcb _, _ => True

/-! ### Sizes of the requests -/

theorem within_build {M : Nat} (r : Request) (tag : UInt16) (size : 7 + r.payload.length ≤ M)
    (reply : ∀ fid offset count, r = .tread fid offset count ∨ r = .treaddir fid offset count →
      11 + count.toNat ≤ M) : Within M (r.build tag).data := by
  refine ⟨by rw [Request.build_length]; exact size, ?_⟩
  rintro tag' fid offset count (isRead | isReaddir)
  · have same : (r.build tag).data = ((Request.tread fid offset count).build tag').data := isRead
    have type := Request.type_eq_of_build same
    cases r with
    | tread fid₁ offset₁ count₁ =>
      have fits : (Request.tread fid₁ offset₁ count₁).Fits := trivial
      have fits' : (Request.tread fid offset count).Fits := trivial
      have equal := Request.build_injective fits fits'
        (by rw [Request.build_length]; simp [Request.payload]) same
      exact reply fid offset count (Or.inl equal.1)
    | _ => cases type
  · have same : (r.build tag).data = ((Request.treaddir fid offset count).build tag').data :=
      isReaddir
    have type := Request.type_eq_of_build same
    cases r with
    | treaddir fid₁ offset₁ count₁ =>
      have fits : (Request.treaddir fid₁ offset₁ count₁).Fits := trivial
      have fits' : (Request.treaddir fid offset count).Fits := trivial
      have equal := Request.build_injective fits fits'
        (by rw [Request.build_length]; simp [Request.payload]) same
      exact reply fid offset count (Or.inr equal.1)
    | _ => cases type

section Sizes

variable {M : Nat}

/-- A request that is no read asks for no reply of a certain size. -/
theorem within_sized (r : Request) (tag : UInt16) (other : r.type ≠ .tread ∧ r.type ≠ .treaddir)
    (size : 7 + r.payload.length ≤ M) : Within M (r.build tag).data := by
  apply within_build r tag size
  rintro fid offset count (rfl | rfl)
  · exact absurd rfl other.1
  · exact absurd rfl other.2

theorem within_walk {path : Bytes} (fits : walkSize path ≤ M) : Walkable (Within M) path := by
  intro tag fid newfid
  refine within_sized (.twalk fid newfid (splitPath path)) tag (by simp [Request.type]) ?_
  have names : ((splitPath path).flatMap Wire.str).length =
      ((splitPath path).map fun name => 2 + name.length).sum := by
    rw [List.length_flatMap]
    simp only [Wire.str_length]
  simp only [Request.payload, List.length_append, Wire.u32_length, Wire.u16_length, names]
  unfold walkSize at fits
  omega

/-- The requests of fixed size fit as soon as the Tattach does. -/
theorem within_serviceable {aname : Bytes} (attach : 23 + aname.length ≤ M) :
    Serviceable (Within M) aname where
  version := within_sized (.tversion maxMessageSize protocolVersion) 0 (by simp [Request.type])
    (by simp [Request.payload, protocolVersion]; omega)
  attach tag fid := within_sized (.tattach fid noFid [] aname 0) tag (by simp [Request.type])
    (by simp [Request.payload]; omega)
  lopen tag fid flags := within_sized (.tlopen fid flags) tag (by simp [Request.type])
    (by simp [Request.payload]; omega)
  getattr tag fid := within_sized (.tgetattr fid getattrBasic) tag (by simp [Request.type])
    (by simp [Request.payload]; omega)
  clunk tag fid := within_sized (.tclunk fid) tag (by simp [Request.type])
    (by simp [Request.payload]; omega)

end Sizes

/-! ### Runs -/

section Runs

variable {σ : Type} {T : Transport σ} {M : Nat}

/-- A request was within the message size at its time, and so within the transport's
request buffer. -/
def InForce (p : UInt32 × Bytes) : Prop := Within p.1.toNat p.2 ∧ p.1 ≤ maxMessageSize

/-- Every request so far was. -/
def Link.SentInForce (w : Link σ) : Prop := ∀ p ∈ w.sent, InForce p

/-- The invariant of the session: its size is at least `M`. -/
structure SentWithin (M : Nat) (w : Link σ) : Prop where
  sent : w.SentInForce
  least : M ≤ w.session.messageSize.toNat
  most : w.session.messageSize ≤ maxMessageSize

theorem Within.mono {size size' : Nat} {request : Bytes} (within : Within size request)
    (le : size ≤ size') : Within size' request :=
  ⟨within.1.trans le, fun tag fid offset count asks =>
    (within.2 tag fid offset count asks).trans le⟩

theorem sentWithin_step (room : M ≤ maxMessageSize.toNat)
    (negotiates : ∀ size, T.Negotiates size → M ≤ size.toNat) {w w' : Link σ}
    (step : Link.Step T (Within M) w w') (within : SentWithin M w) : SentWithin M w' := by
  cases step with
  | exchange request sendable =>
    refine ⟨?_, within.least, within.most⟩
    intro p member
    rcases List.mem_append.mp member with old | new
    · exact within.sent p old
    · rw [List.mem_singleton.mp new]
      exact ⟨Within.mono sendable within.least, within.most⟩
  | setUp size accepted =>
    -- `Initialize` takes the smaller of the server's size and its own
    by_cases smaller : size < maxMessageSize
    · have stored : (w.session.setUp size).messageSize = size := if_pos smaller
      refine ⟨within.sent, ?_, ?_⟩
      · change M ≤ (w.session.setUp size).messageSize.toNat
        rw [stored]
        exact negotiates size accepted
      · change (w.session.setUp size).messageSize ≤ maxMessageSize
        rw [stored]
        exact UInt32.le_of_lt smaller
    · have stored : (w.session.setUp size).messageSize = maxMessageSize := if_neg smaller
      refine ⟨within.sent, ?_, ?_⟩
      · change M ≤ (w.session.setUp size).messageSize.toNat
        rw [stored]
        exact room
      · change (w.session.setUp size).messageSize ≤ maxMessageSize
        rw [stored]
        exact UInt32.le_refl _
  | takeTag => exact ⟨within.sent, within.least, within.most⟩
  | allocate => exact ⟨within.sent, within.least, within.most⟩
  | release fid => exact ⟨within.sent, within.least, within.most⟩
  | restart => exact ⟨within.sent, within.least, within.most⟩
  | resume => exact ⟨within.sent, within.least, within.most⟩

theorem sentWithin_steps (room : M ≤ maxMessageSize.toNat)
    (negotiates : ∀ size, T.Negotiates size → M ≤ size.toNat) {w w' : Link σ}
    (steps : Link.Steps T (Within M) w w') (within : SentWithin M w) : SentWithin M w' := by
  induction steps with
  | refl => exact within
  | tail _ step ih => exact sentWithin_step room negotiates step ih

/-- A message that fits is handled by steps that fit. -/
theorem handle_steps {aname : Bytes} (attach : 23 + aname.length ≤ M) {q : Qnx} {d : Driver σ}
    (named : d.link.session.aname = aname) (call : Call) (fits : FitsMessage M q call d) :
    Link.Steps T (Within M) d.link (d.handle T q call).2.link := by
  have base := within_serviceable attach
  cases call with
  | connectOpen msg openDefault =>
    refine connectOpen_steps base named openDefault msg (within_walk fits.1) ?_
    intro create nonempty
    obtain ⟨walk, size⟩ := fits.2 create nonempty
    refine ⟨within_walk walk, fun tag fid flags mode gid => ?_⟩
    exact within_sized (.tlcreate fid (splitParent (openPath msg)).2 flags mode gid) tag
      (by simp [Request.type]) (by simp [Request.payload]; omega)
  | connectMknod msg =>
    refine connectMknod_steps base named msg ?_
    intro directory nonempty
    obtain ⟨walk, size⟩ := fits directory nonempty
    refine ⟨within_walk walk, fun tag dfid mode gid => ?_⟩
    exact within_sized (.tmkdir dfid (splitParent msg.path).2 mode gid) tag
      (by simp [Request.type]) (by simp [Request.payload]; omega)
  | connectUnlink msg =>
    refine connectUnlink_steps base named msg ?_
    intro nonempty
    obtain ⟨walk, target, size⟩ := fits nonempty
    refine ⟨within_walk walk, within_walk target, fun tag dirfid flags => ?_⟩
    exact within_sized (.tunlinkat dirfid (splitParent msg.path).2 flags) tag
      (by simp [Request.type]) (by simp [Request.payload]; omega)
  | connectRename msg =>
    refine connectRename_steps base named msg (fun nonempty => within_walk (fits nonempty).1) ?_
    intro nonempty newNonempty
    obtain ⟨walk, size⟩ := (fits nonempty).2 newNonempty
    refine ⟨within_walk walk, fun tag olddirfid newdirfid => ?_⟩
    exact within_sized (.trenameat olddirfid (splitParent msg.path).2 newdirfid
      (splitParent msg.newPath).2) tag
      (by simp [Request.type]) (by simp [Request.payload]; omega)
  | ioRead i msg =>
    unfold Driver.handle
    cases found : d.ocbs[i]? with
    | none => simpa only [found] using Relation.ReflTransGen.refl
    | some ocb =>
      simp only [found]
      refine ioRead_steps base named msg ocb ?_
      intro verified tag
      have room := fits verified
      constructor
      · refine within_build (.tread ocb.data.fid ocb.data.offset msg.nbytes) tag
          (by simp [Request.payload]; omega) ?_
        rintro _ _ _ (h | h) <;> cases h
        exact room
      · refine within_build (.treaddir ocb.data.fid ocb.data.offset msg.nbytes) tag
          (by simp [Request.payload]; omega) ?_
        rintro _ _ _ (h | h) <;> cases h
        exact room
  | ioWrite i msg fuel =>
    unfold Driver.handle
    cases found : d.ocbs[i]? with
    | none => simpa only [found] using Relation.ReflTransGen.refl
    | some ocb =>
      simp only [found]
      refine ioWrite_steps base named fuel msg ocb ?_
      intro verified known tag offset buf short
      have room := fits verified known ocb found
      refine within_sized (.twrite ocb.data.fid offset buf) tag (by simp [Request.type]) ?_
      -- `count` is the length of the chunk
      have taken := List.length_take_le (UInt32.ofNat buf.length).toNat buf
      simp [Request.payload]
      omega
  | ioStat i =>
    unfold Driver.handle
    cases found : d.ocbs[i]? with
    | none => simpa only [found] using Relation.ReflTransGen.refl
    | some ocb => simpa only [found] using ioStat_steps base named q ocb
  | ioCloseOcb i =>
    unfold Driver.handle
    cases found : d.ocbs[i]? with
    | none => simpa only [found] using Relation.ReflTransGen.refl
    | some ocb =>
      simp only [found, ioCloseOcb]
      exact clunked_steps base named ocb.data.fid

/-- The invariant of a run. -/
structure Bounded (M : Nat) (aname : Bytes) (d : Driver σ) : Prop where
  named : d.link.session.aname = aname
  within : SentWithin M d.link

/-- From `Initialize` on, every request of a run is within the message size in force when
it is sent. -/
theorem requests_within (room : M ≤ maxMessageSize.toNat)
    (negotiates : ∀ size, T.Negotiates size → M ≤ size.toNat) (q : Qnx) (aname : Bytes)
    (attach : 23 + aname.length ≤ M) (s : σ) (calls : List Call)
    (fits : (driver T q).Meets (FitsMessage M q) calls
      ⟨(initializeSession T aname ⟨NinePSession.new, s, []⟩).2, []⟩) :
    ((driver T q).run calls
      ⟨(initializeSession T aname ⟨NinePSession.new, s, []⟩).2, []⟩).2.link.SentInForce := by
  have step (call : Call) (d : Driver σ) (bounded : Bounded M aname d)
      (meets : FitsMessage M q call d) : Bounded M aname (d.handle T q call).2 := by
    have steps := handle_steps (T := T) attach bounded.named call meets
    exact ⟨(aname_steps steps).trans bounded.named,
      sentWithin_steps room negotiates steps bounded.within⟩
  -- a new session starts with the largest size
  have start : Bounded M aname
      ⟨(initializeSession T aname ⟨NinePSession.new, s, []⟩).2, []⟩ := by
    have initialized := initializeSession_steps (T := T) (within_serviceable attach).toRestartable
      ⟨NinePSession.new, s, []⟩
    refine ⟨aname_steps initialized, sentWithin_steps room negotiates initialized ?_⟩
    exact ⟨by rintro p ⟨⟩, room, UInt32.le_refl _⟩
  exact (fits.invariant step start).within.sent

end Runs

/-! ### A server that offers a size -/

theorem fidServer_negotiates {msize size : UInt32}
    (negotiated : (fidServer msize).Negotiates size) : size = msize := by
  obtain ⟨s, _, parsed⟩ := negotiated
  rw [fidServer_version] at parsed
  have read := parsed_encode (.rversion msize protocolVersion) noTag
    (consumes_rversionFields msize protocolVersion (by decide))
    (by simp [Response.payload, protocolVersion])
  cases Option.some.inj (read.symm.trans parsed)
  rfl

/-- Open the file "a". -/
def openA : Call := .connectOpen ⟨[97], 0, 0, by decide⟩ fun _ _ => eok

def readAll (nbytes : UInt32) : Call := .ioRead 0 ⟨nbytes, .none, eok⟩

theorem requests_within_read :
    ((driver (fidServer 4096) Qnx.headers).run [openA, readAll 4085]
      ⟨(initializeSession (fidServer 4096) [] ⟨NinePSession.new, ⟨FidTable.empty, 0⟩, []⟩).2,
        []⟩).2.link.SentInForce := by
  have negotiates (size : UInt32) (negotiated : (fidServer 4096).Negotiates size) :
      4096 ≤ size.toNat := by
    rw [fidServer_negotiates negotiated]
    decide
  have fits : (driver (fidServer 4096) Qnx.headers).Meets (FitsMessage 4096 Qnx.headers)
      [openA, readAll 4085] ⟨(initializeSession (fidServer 4096) []
        ⟨NinePSession.new, ⟨FidTable.empty, 0⟩, []⟩).2, []⟩ := by
    refine ⟨⟨by decide, fun create => ?_⟩, ?_, trivial⟩
    · exact absurd create (by decide)
    · intro _
      decide
  exact requests_within (T := fidServer 4096) (by decide) negotiates Qnx.headers [] (by decide)
    ⟨FidTable.empty, 0⟩ [openA, readAll 4085] fits

/-- A read of as many bytes as the message size: the reply does not fit. -/
theorem readAll_reply_too_long :
    ¬ ((driver (fidServer 8192) Qnx.headers).run [openA, readAll 8192]
      ⟨(initializeSession (fidServer 8192) [] ⟨NinePSession.new, ⟨FidTable.empty, 0⟩, []⟩).2,
        []⟩).2.link.SentInForce := by
  intro within
  have sent : (8192, (buildTread 4 1 0 8192).data) ∈
      ((driver (fidServer 8192) Qnx.headers).run [openA, readAll 8192]
        ⟨(initializeSession (fidServer 8192) [] ⟨NinePSession.new, ⟨FidTable.empty, 0⟩, []⟩).2,
          []⟩).2.link.sent := by
    decide +kernel
  exact absurd ((within _ sent).1.2 4 1 0 8192 (Or.inl rfl)) (by decide)

end Virtio9p
