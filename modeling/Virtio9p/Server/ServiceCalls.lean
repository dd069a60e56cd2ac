import Virtio9p.Server.Tracks

/-!
# Session calls on a file service

Each session operation on fids is coupled with the operation of the host on the objects that
these fids are bound to.
-/
namespace Virtio9p

open Cursor NinePMessage Attempt

variable {σ ν φ : Type}

/-- The session returns the negated error number of a refusal. -/
def Refused (rc errno : Int32) : Prop := rc = -errno ∧ rc < 0

/-! ### Paths that fit a request -/

/-- Every piece but the last one has a separator behind it. -/
theorem intercalate_separators (x : UInt8) (pieces : List Bytes) :
    (pieces.map List.length).sum + pieces.length ≤ ([x].intercalate pieces).length + 1 := by
  induction pieces with
  | nil => exact Nat.zero_le 1
  | cons first pieces ih =>
    cases pieces with
    | nil => simp
    | cons second pieces =>
      rw [List.intercalate_cons_cons, List.length_append, List.length_append, List.map_cons,
        List.sum_cons, List.length_cons, List.length_singleton]
      omega

/-- The length field of a component takes as much as its separator and half a byte of its own. -/
theorem splitPath_size (path : Bytes) :
    2 * ((splitPath path).flatMap Wire.str).length ≤ 3 * (path.length + 1) := by
  have pieces := intercalate_separators 47 (path.splitOn 47)
  rw [List.intercalate_splitOn] at pieces
  refine Nat.le_trans ?_ (Nat.mul_le_mul_left 3 pieces)
  unfold splitPath
  generalize path.splitOn 47 = pieces
  induction pieces with
  | nil => exact Nat.le_refl 0
  | cons piece pieces ih =>
    rw [List.map_cons, List.sum_cons, List.length_cons]
    by_cases empty : piece = []
    · rw [List.filter_cons_of_neg (by simpa using empty)]
      omega
    · have nonempty := List.length_pos_of_ne_nil empty
      rw [List.filter_cons_of_pos (by simpa using empty), List.flatMap_cons, List.length_append,
        Wire.str_length]
      omega

theorem CountedPath.sendable {path : Bytes} (counted : CountedPath path) (fid newfid : UInt32) :
    (Request.twalk fid newfid (splitPath path)).Sendable := by
  have bound : path.length < 2 ^ 16 := counted
  have total := splitPath_size path
  apply Request.sendable_of (counted.walks fid newfid).1
  simp only [Request.payload, List.length_append, Wire.u32_length, Wire.u16_length]
  omega

theorem splitParent_basename_length (path : Bytes) :
    (splitParent path).2.length ≤ path.length := by
  unfold splitParent
  split
  · exact Nat.le_refl _
  · rw [List.length_drop]
    exact Nat.sub_le _ _

/-! ### Calls on fids that are bound -/

section Calls

variable {T : Transport σ} {f : FileService ν φ} {view : σ → ServiceState ν φ}
  (provides : T.Provides f view) {root : ν} {spare : Nat} {held : List (UInt32 × ν)}

include provides

/-- The first exchange of a call brings the server's answer. -/
theorem Link.provided {r : Request} (sendable : r.Sendable) (tagged : ∀ tag, r.sentTag tag = tag)
    (w : Link σ) :
    w.Answers T (fun tag => r.build tag) (f.serve r (view w.transport)).1 ∧
      view (w.callOnce T fun tag => r.build tag).transport =
        (f.serve r (view w.transport)).2 := by
  obtain ⟨s', exchange, after⟩ := provides.serves w.transport w.session.nextTag r sendable
  rw [tagged] at exchange
  refine ⟨⟨s', exchange⟩, ?_⟩
  rw [callOnce_transport _ exchange]
  exact after

omit provides in
theorem refused_ecode (ecode : Ecode) : Refused (refusal ecode.val) ecode.val.toInt32 := by
  have nonzero : ecode.val ≠ 0 := by
    intro zero
    have least := ecode.property.1
    rw [zero] at least
    exact absurd least (by decide)
  have small : ecode.val.toNat ≤ 2 ^ 31 :=
    Nat.le_trans (UInt32.le_iff_toNat_le.mp ecode.property.2) (by decide)
  have code : refusal ecode.val = -ecode.val.toInt32 := if_neg nonzero
  rw [code]
  exact ⟨rfl, negated_code nonzero small⟩

omit provides in
theorem refused_neg {errno : Int32} (negative : -errno < 0) : Refused (-errno) errno :=
  ⟨rfl, negative⟩

/-- A call whose answer is that of one operation of the host. -/
theorem call_couples {α β : Type} {r : Request} (sendable : r.Sendable)
    (tagged : ∀ tag, r.sentTag tag = tag) {x : Attempt φ Ecode α} (type : MessageType)
    (response : α → Response) (after : α → ServiceState ν φ → ServiceState ν φ)
    (held' : α → List (UInt32 × ν)) {parse : NinePMessage → Option β} (value : α → β)
    (served : ∀ w s, Tracks view root spare held w s → f.serve r (view w.transport) =
      (view w.transport).answer x fun a s => (response a, after a s))
    (kept : ∀ a w w' s s', Tracks view root spare held w s → w'.session = w.session.takeTag.2 →
      view w'.transport = after a { view w.transport with files := s' } →
      Tracks view root spare (held' a) w' s')
    (proper : type ≠ .rlerror) (only : ParsesOnly type parse)
    (typed : ∀ a, (response a).type ≠ .rlerror)
    (parsed : ∀ a s s', x s = (.ok a, s') → ∀ tag,
      parse (ofData ((response a).encode tag).data) = some (value a)) :
    Couples Refused (Tracks view root spare held) (Tracks view root spare held)
      (fun b a w s => b = value a ∧ Tracks view root spare (held' a) w s)
      (Link.call T (fun tag => r.build tag) parse) (hosted x) := by
  intro w s tracks
  obtain ⟨answers, view'⟩ := Link.provided provides sendable tagged w
  rw [served w s tracks] at answers view'
  simp only [ServiceState.answer, tracks.files] at answers view'
  unfold hosted Attempt.fold
  cases performed : x s with
  | mk result s' =>
    rw [performed] at answers view'
    cases result with
    | error ecode =>
      rw [call_rlerror only proper answers]
      refine ⟨refused_ecode ecode, tracks.moved rfl rfl ?_ ?_⟩
      · rw [view']
      · rw [view']
    | ok a =>
      rw [call_answered answers parse (typed a) (parsed a s s' performed _)]
      exact ⟨rfl, kept a w _ s s' tracks rfl view'⟩

/-- A call whose request does not change the fids on the server. -/
theorem call_couples_same {α β : Type} {r : Request} (sendable : r.Sendable)
    (tagged : ∀ tag, r.sentTag tag = tag) {x : Attempt φ Ecode α} (type : MessageType)
    (response : α → Response) {parse : NinePMessage → Option β} (value : α → β)
    (served : ∀ v : ServiceState ν φ, (∀ h ∈ held, v.fids h.1 = some h.2) →
      f.serve r v = v.answer x fun a v => (response a, v))
    (proper : type ≠ .rlerror) (only : ParsesOnly type parse)
    (typed : ∀ a, (response a).type ≠ .rlerror)
    (parsed : ∀ a s s', x s = (.ok a, s') → ∀ tag,
      parse (ofData ((response a).encode tag).data) = some (value a)) :
    Couples Refused (Tracks view root spare held) (Tracks view root spare held)
      (fun b a w s => b = value a ∧ Tracks view root spare held w s)
      (Link.call T (fun tag => r.build tag) parse) (hosted x) := by
  refine call_couples provides sendable tagged type response (fun _ v => v)
    (fun _ => held) value ?_ ?_
    proper only typed parsed
  · intro w s tracks
    exact served _ tracks.objects
  · intro a w w' s s' tracks session view'
    refine tracks.moved ?_ ?_ ?_ ?_
    · rw [session]
      rfl
    · rw [session]
      rfl
    · rw [view']
    · rw [view']

omit provides in
/-- The parser of a payload reads back what was encoded, and stays inside it. -/
theorem markFault_encode {α : Type} (r : Response) (tag : UInt16) {decoder : Decoder α} {a : α}
    (consumes : Consumes messageView decoder r.payload a) (small : 7 + r.payload.length < 2 ^ 32) :
    markFault (parsePayload r.type decoder) (ofData (r.encode tag).data) = some (a, false) := by
  rw [markFault, parsePayload_encode r tag consumes small]
  rfl

omit provides in
theorem ServiceState.withFid_bound {v : ServiceState ν φ} {fid : UInt32} {object : ν}
    (bound : v.fids fid = some object) (use : ν → Response × ServiceState ν φ) :
    v.withFid fid use = use object := by
  simp only [ServiceState.withFid, bound]

section Bound

variable {fid : UInt32} {object : ν} (member : (fid, object) ∈ held)

include member

theorem openFid_couples (flags : UInt32) :
    Couples Refused (Tracks view root spare held) (Tracks view root spare held)
      (fun iounit opened w s => opened.2.toNat + 24 ≤ maxMessageSize.toNat ∧ iounit = opened.2 ∧
        Tracks view root spare held w s)
      (openFid T fid flags) (hosted (f.lopen object flags)) := by
  refine Couples.gives ?_ fun s opened s' done => f.opened _ _ _ opened.1 _ _ (hosted_ok done)
  have sendable : (Request.tlopen fid flags).Sendable :=
    Request.sendable_of trivial (by simp [Request.payload])
  refine call_couples_same provides sendable (fun _ => rfl) .rlopen
    (fun opened => .rlopen opened.1 opened.2) Prod.snd ?_ ?_ ?_ ?_ ?_
  · intro v bound
    exact v.withFid_bound (bound _ member) _
  · decide
  · exact (parsesOnly_payload .rlopen _).map fun _ => Prod.snd
  · exact fun _ => by simp [Response.type]
  · intro opened _ _ _ tag
    exact congrArg (Option.map Prod.snd) (parsed_encode (.rlopen _ _) tag
      (consumes_qidAndIounit _ _) (by simp [Response.payload]))

theorem getAttr_couples :
    Couples Refused (Tracks view root spare held) (Tracks view root spare held)
      (fun stat stat' w s => stat = stat' ∧ Tracks view root spare held w s)
      (getAttr T fid) (hosted (f.getattr object getattrBasic)) := by
  have sendable : (Request.tgetattr fid getattrBasic).Sendable :=
    Request.sendable_of trivial (by simp [Request.payload])
  refine call_couples_same provides sendable (fun _ => rfl) .rgetattr .rgetattr id ?_ ?_ ?_ ?_ ?_
  · intro v bound
    exact v.withFid_bound (bound _ member) _
  · decide
  · exact parsesOnly_payload .rgetattr _
  · exact fun _ => by simp [Response.type]
  · intro stat _ _ _ tag
    exact parsed_encode (.rgetattr stat) tag (consumes_rgetattrFields stat)
      (by simp [Response.payload])

/-- The bytes of a read come with the mark that the parser has stayed inside the response. -/
theorem readCall_couples (offset : UInt64) (count : UInt32) :
    Couples Refused (Tracks view root spare held) (Tracks view root spare held)
      (fun reply data w s => data.length + 11 ≤ maxMessageSize.toNat ∧ reply = (data, false) ∧
        Tracks view root spare held w s)
      (Link.call T (fun tag => buildTread tag fid offset count) (markFault parseRread))
      (hosted (f.read object offset count)) := by
  refine Couples.gives ?_ fun s data s' done => f.readLength _ _ _ _ _ _ (hosted_ok done)
  have sendable : (Request.tread fid offset count).Sendable :=
    Request.sendable_of trivial (by simp [Request.payload])
  refine call_couples_same provides sendable (fun _ => rfl) .rread .rread
    (fun data => (data, false))
    ?_ ?_ ?_ ?_ ?_
  · intro v bound
    exact v.withFid_bound (bound _ member) _
  · decide
  · exact markFault_only .rread rreadFields
  · exact fun _ => by simp [Response.type]
  · intro data s s' done tag
    have short := f.readLength _ _ _ _ _ _ done
    have size : maxMessageSize.toNat = 131072 := rfl
    have counted : data.length = (UInt32.ofNat data.length).toNat := by
      rw [UInt32.toNat_ofNat']
      omega
    have payload : (Response.rread data).payload =
        Wire.u32 (UInt32.ofNat data.length) ++ data := by
      rw [Response.payload, ← counted, List.take_length]
    apply markFault_encode (.rread data)
    · rw [payload]
      exact consumes_rreadFields data _ counted
    · rw [payload, List.length_append, Wire.u32_length]
      omega

theorem readDirCall_couples (offset : UInt64) (count : UInt32) :
    Couples Refused (Tracks view root spare held) (Tracks view root spare held)
      (fun reply entries w s => reply = (entries, false) ∧ Tracks view root spare held w s)
      (Link.call T (fun tag => buildTreaddir tag fid offset count) (markFault (parseRreaddir [])))
      (hosted (f.readdir object offset count)) := by
  have sendable : (Request.treaddir fid offset count).Sendable :=
    Request.sendable_of trivial (by simp [Request.payload])
  refine call_couples_same provides sendable (fun _ => rfl) .rreaddir .rreaddir
    (fun entries => (entries, false)) ?_ ?_ ?_ ?_ ?_
  · intro v bound
    exact v.withFid_bound (bound _ member) _
  · decide
  · exact markFault_only .rreaddir (rreaddirFields [])
  · exact fun _ => by simp [Response.type]
  · intro entries s s' done tag
    obtain ⟨small, short⟩ := f.listed _ _ _ _ _ _ done
    have size : maxMessageSize.toNat = 131072 := rfl
    have counted : Response.dirSize entries = (UInt32.ofNat (Response.dirSize entries)).toNat := by
      rw [UInt32.toNat_ofNat']
      omega
    apply markFault_encode (.rreaddir entries)
    · exact consumes_rreaddirFields entries short _ counted []
    · rw [Response.payload, List.length_append, Wire.u32_length, Response.dirEntries_length]
      omega

theorem writeCall_couples (offset : UInt64) (data : Bytes)
    (short : data.length + 24 ≤ maxMessageSize.toNat) :
    Couples Refused (Tracks view root spare held) (Tracks view root spare held)
      (fun count count' w s => count'.toNat ≤ data.length ∧ count = count' ∧
        Tracks view root spare held w s)
      (Link.call T (fun tag => buildTwrite tag fid offset data (UInt32.ofNat data.length))
        fun m => (parseRwrite m).1)
      (hosted (f.write object offset data)) := by
  have size : maxMessageSize.toNat = 131072 := rfl
  refine Couples.gives ?_ fun s data s' done => f.written _ _ _ _ _ _ (hosted_ok done)
  have sendable : (Request.twrite fid offset data).Sendable := by
    constructor
    · change data.length < 2 ^ 32
      omega
    · simp only [Request.payload, List.length_append, Wire.u32_length, Wire.u64_length,
        List.length_take]
      omega
  refine call_couples_same provides sendable (fun _ => rfl) .rwrite .rwrite id ?_ ?_ ?_ ?_ ?_
  · intro v bound
    exact v.withFid_bound (bound _ member) _
  · decide
  · exact parsesOnly_payload .rwrite getU32
  · exact fun _ => by simp [Response.type]
  · intro count _ _ _ tag
    exact parsed_encode (.rwrite count) tag (consumes_getU32 count) (by simp [Response.payload])

theorem mkdir_couples {name : Bytes} (short : name.length < 2 ^ 16) (mode gid : UInt32) :
    Couples Refused (Tracks view root spare held) (Tracks view root spare held)
      (fun qid qid' w s => qid = qid' ∧ Tracks view root spare held w s)
      (mkdir T fid name mode gid) (hosted (f.mkdir object name mode gid)) := by
  have sendable : (Request.tmkdir fid name mode gid).Sendable :=
    Request.sendable_of short (by simp [Request.payload]; omega)
  refine call_couples_same provides sendable (fun _ => rfl) .rmkdir .rmkdir id ?_ ?_ ?_ ?_ ?_
  · intro v bound
    exact v.withFid_bound (bound _ member) _
  · decide
  · exact parsesOnly_payload .rmkdir getQid
  · exact fun _ => by simp [Response.type]
  · intro qid _ _ _ tag
    exact parsed_encode (.rmkdir qid) tag (consumes_getQid qid) (by simp [Response.payload])

omit provides member in
/-- A response without fields is known by its type. -/
theorem parseHeader_encode (r : Response) (tag : UInt16) :
    (parseHeader r.type (ofData (r.encode tag).data)).1 = some () := by
  have kind := getType_of_header (m := ofData (r.encode tag).data) (r.encode_data tag)
  rw [parseHeader, if_pos kind]

theorem unlink_couples {name : Bytes} (short : name.length < 2 ^ 16) (flags : UInt32) :
    Couples Refused (Tracks view root spare held) (Tracks view root spare held)
      (fun _ _ w s => Tracks view root spare held w s)
      (unlink T fid name flags) (hosted (f.unlinkat object name flags)) := by
  have sendable : (Request.tunlinkat fid name flags).Sendable :=
    Request.sendable_of short (by simp [Request.payload]; omega)
  refine (call_couples_same provides sendable (fun _ => rfl) .runlinkat
    (fun _ => .runlinkat) id ?_ ?_
    (parsesOnly_header .runlinkat) ?_ ?_).weaken (fun _ _ pre => pre) (fun _ _ fails => fails)
    fun _ _ _ _ done => done.2
  · intro v bound
    exact v.withFid_bound (bound _ member) _
  · decide
  · exact fun _ => by simp [Response.type]
  · intro _ _ _ _ tag
    exact parseHeader_encode .runlinkat tag

theorem rename_couples {fid' : UInt32} {object' : ν} (member' : (fid', object') ∈ held)
    {oldname newname : Bytes} (short : oldname.length < 2 ^ 16) (short' : newname.length < 2 ^ 16)
    (fits : oldname.length + newname.length ≤ 131053) :
    Couples Refused (Tracks view root spare held) (Tracks view root spare held)
      (fun _ _ w s => Tracks view root spare held w s)
      (rename T fid oldname fid' newname) (hosted (f.renameat object oldname object' newname)) := by
  have sendable : (Request.trenameat fid oldname fid' newname).Sendable :=
    Request.sendable_of ⟨short, short'⟩ (by simp [Request.payload]; omega)
  refine (call_couples_same provides sendable (fun _ => rfl) .rrenameat
    (fun _ => .rrenameat) id ?_ ?_
    (parsesOnly_header .rrenameat) ?_ ?_).weaken (fun _ _ pre => pre) (fun _ _ fails => fails)
    fun _ _ _ _ done => done.2
  · intro v bound
    exact (v.withFid_bound (bound _ member) _).trans (v.withFid_bound (bound _ member') _)
  · decide
  · exact fun _ => by simp [Response.type]
  · intro _ _ _ _ tag
    exact parseHeader_encode .rrenameat tag

end Bound

/-- A fid is bound to the file that is created in its directory. -/
theorem create_couples {fid : UInt32} {directory : ν} {name : Bytes} (short : name.length < 2 ^ 16)
    (flags mode gid : UInt32) :
    Couples Refused (Tracks view root spare ((fid, directory) :: held))
      (Tracks view root spare ((fid, directory) :: held))
      (fun made made' w s => made'.2.2.toNat + 24 ≤ maxMessageSize.toNat ∧ made = made'.2 ∧
        Tracks view root spare ((fid, made'.1) :: held) w s)
      (create T fid name flags mode gid) (hosted (f.lcreate directory name flags mode gid)) := by
  refine Couples.gives ?_ fun s made s' done =>
    f.created _ _ _ _ _ _ made.1 made.2.1 _ _ (hosted_ok done)
  have sendable : (Request.tlcreate fid name flags mode gid).Sendable :=
    Request.sendable_of short (by simp [Request.payload]; omega)
  refine call_couples provides sendable (fun _ => rfl) .rlcreate
    (fun made : ν × Qid × UInt32 => .rlcreate made.2.1 made.2.2)
    (fun made s => s.bind fid (some made.1)) (fun made => (fid, made.1) :: held) Prod.snd
    ?_ ?_ ?_ ?_ ?_ ?_
  · intro w s tracks
    exact ServiceState.withFid_bound (tracks.objects _ List.mem_cons_self) _
  · intro made w w' s s' tracks session view'
    exact tracks.rebound session view'
  · decide
  · exact parsesOnly_payload .rlcreate _
  · exact fun _ => by simp [Response.type]
  · intro made _ _ _ tag
    exact parsed_encode (.rlcreate _ _) tag (consumes_qidAndIounit _ _) (by simp [Response.payload])

/-! ### Fids that come and go -/

omit provides in
theorem walk_attempt (path : Bytes) (w : Link σ) :
    walk T path w = ((Attempt.bind (Link.call T (fun tag => buildTwalk tag w.session.rootFid
        w.session.fidPool.nextFid (splitPath path)) fun m => (parseRwalk [] m).1) fun qids =>
          if qids.length ≠ (splitPath path).length then fail (-enoent)
          else pure w.session.fidPool.nextFid).protect fun w' =>
            w'.release w.session.fidPool.nextFid)
              { w with session := w.session.allocateFid.2 } := by
  simp only [walk, Attempt.protect, Attempt.bind, Attempt.fold, NinePSession.allocateFid,
    FidPool.allocate]
  generalize Link.call T _ _ _ = reply
  obtain ⟨_ | qids, w'⟩ := reply
  · rfl
  · by_cases partly : qids.length ≠ (splitPath path).length
    · simp only [if_pos partly]
      rfl
    · simp only [if_neg partly]
      rfl

theorem walk_couples {path : Bytes} (counted : CountedPath path) :
    Couples Refused (Tracks view root (spare + 1) held) (Tracks view root spare held)
      (fun fid object w s => Tracks view root spare ((fid, object) :: held) w s)
      (walk T path) (f.resolve root path) := by
  intro w s tracks
  let fid := w.session.fidPool.nextFid
  let w₀ : Link σ := { w with session := w.session.allocateFid.2 }
  have sendable : (Request.twalk w.session.rootFid fid (splitPath path)).Sendable :=
    counted.sendable _ _
  have few : (splitPath path).length < 2 ^ 16 := sendable.1.1
  have free : (view w.transport).fids fid = none := (tracks.inUse.unused tracks.below).2
  obtain ⟨answers, view'⟩ := Link.provided provides sendable (fun _ => rfl) w₀
  -- the server finds the root, and a fid that is not bound
  have served : f.serve (.twalk w.session.rootFid fid (splitPath path)) (view w.transport) =
      (view w.transport).answer (f.walk root (splitPath path)) fun reached s =>
        (.rwalk (reached.map Prod.snd),
          if reached.length = (splitPath path).length then
            s.bind fid (some ((reached.map Prod.fst).getLastD root))
          else s) := by
    refine (ServiceState.withFid_bound tracks.rooted _).trans (if_neg ?_)
    rintro ⟨-, taken⟩
    exact taken free
  have answers : w₀.Answers T (fun tag => buildTwalk tag w.session.rootFid fid (splitPath path))
      (f.serve (.twalk w.session.rootFid fid (splitPath path)) (view w.transport)).1 := answers
  have view' : view (w₀.callOnce T fun tag => buildTwalk tag w.session.rootFid fid
      (splitPath path)).transport =
        (f.serve (.twalk w.session.rootFid fid (splitPath path)) (view w.transport)).2 := view'
  rw [served] at answers view'
  simp only [ServiceState.answer, tracks.files] at answers view'
  have only : ParsesOnly .rwalk fun m => (parseRwalk [] m).1 := parsesOnly_payload .rwalk _
  rw [walk_attempt]
  simp only [FileService.resolve, Attempt.protect, Attempt.bind, hosted, Attempt.fold]
  cases performed : f.walk root (splitPath path) s with
  | mk result s' =>
    rw [performed] at answers view'
    cases result with
    | error ecode =>
      rw [call_rlerror only (by decide) answers]
      exact ⟨refused_ecode ecode, tracks.unwalked rfl rfl (by rw [Link.release, view'])
        (by rw [Link.release, view'])⟩
    | ok reached =>
      have within : reached.length ≤ (splitPath path).length := (f.walked _ _ _ _ _ performed).1
      have counted' : (reached.map Prod.snd).length = reached.length := List.length_map _
      have parsed : (parseRwalk [] (ofData ((Response.rwalk (reached.map Prod.snd)).encode
          w.session.nextTag).data)).1 = some (reached.map Prod.snd) :=
        parseRwalk_encode (by omega) w.session.nextTag
      rw [call_answered answers _ (by simp [Response.type]) parsed]
      by_cases whole : reached.length = (splitPath path).length
      · simp only [if_pos whole] at view'
        simp only [Attempt.pure, counted', whole, ne_eq, not_true_eq_false, if_false, if_true]
        change Tracks view root spare ((fid, _) :: held) _ s'
        exact tracks.walked rfl rfl (by rw [view']; rfl) (by rw [view']; rfl)
      · -- a path that is resolved in part gives the fid back
        simp only [if_neg whole] at view'
        simp only [Attempt.pure, fail, counted', whole, ne_eq, not_false_eq_true, if_false, if_true]
        exact ⟨refused_neg (by decide), tracks.unwalked rfl rfl (by rw [Link.release, view'])
          (by rw [Link.release, view'])⟩

theorem walkParent_couples {path : Bytes} (counted : CountedPath path) :
    Couples Refused (Tracks view root (spare + 1) held) (Tracks view root spare held)
      (fun parent entry w s => (parent.2 = entry.2 ∧ entry.2.length ≤ path.length) ∧
        Tracks view root spare ((parent.1, entry.1) :: held) w s)
      (walkParent T path) (f.resolveParent root path) := by
  have short := splitParent_basename_length path
  intro w s tracks
  simp only [walkParent, FileService.resolveParent]
  by_cases bare : (splitParent path).2 = []
  · rw [if_pos bare, if_pos bare]
    exact ⟨refused_neg (by decide), tracks.fewer (Nat.le_succ spare)⟩
  · rw [if_neg bare, if_neg bare]
    have outcome := walk_couples provides counted.parent w s tracks
    simp only [Attempt.bind, Attempt.fold]
    revert outcome
    obtain ⟨_ | fid, w'⟩ := walk T (splitParent path).1 w <;>
      obtain ⟨_ | object, s'⟩ := f.resolve root (splitParent path).1 s <;> intro outcome
    · exact outcome
    · exact outcome
    · exact outcome
    · exact ⟨⟨rfl, short⟩, outcome⟩

/-- `Clunk` unbinds the fid and gives it back. -/
theorem clunk_tracks {fid : UInt32} {object : ν} {w : Link σ} {s : φ}
    (tracks : Tracks view root spare ((fid, object) :: held) w s) :
    Tracks view root spare held (clunk T fid w).2 (f.clunk object s) := by
  have sendable : (Request.tclunk fid).Sendable :=
    Request.sendable_of trivial (by simp [Request.payload])
  obtain ⟨answers, view'⟩ := Link.provided provides sendable (fun _ => rfl) w
  have served : f.serve (.tclunk fid) (view w.transport) = (.rclunk,
      { (view w.transport).bind fid none with
        files := f.clunk object (view w.transport).files }) :=
    ServiceState.withFid_bound (tracks.objects _ List.mem_cons_self) _
  rw [served] at answers view'
  have called : Link.call T (fun tag => buildTclunk tag fid) (fun m => (parseRclunk m).1) w =
      (_, w.callOnce T fun tag => (Request.tclunk fid).build tag) :=
    call_of_answers answers _
  -- the fid is released whatever the answer is
  rw [clunk, called]
  refine tracks.unbound rfl rfl ?_ ?_
  · simp only [Link.release]
    rw [view']
    rfl
  · simp only [Link.release]
    rw [view', tracks.files]

end Calls

end Virtio9p
