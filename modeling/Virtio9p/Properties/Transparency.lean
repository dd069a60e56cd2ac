import Mathlib.Data.List.Forall2
import Virtio9p.Resmgr.ServedAsMeant
import Virtio9p.Server.FileCalls

/-!
# The driver is transparent

On a transport without failures to a server on a file service, the driver answers every run of calls
as its handlers would with the service at hand, and leaves the same files behind; and where the
calls are served as they are meant, so would a client that has the service at hand.
-/
namespace Virtio9p

open NinePMessage Attempt FileService

variable {σ ν φ : Type}

/-- The number of paths that a call walks at most. -/
def Call.walks : Call → Nat
  | .connectOpen _ _ => 2
  | .connectMknod _ => 1
  | .connectUnlink _ => 2
  | .connectRename _ => 2
  | _ => 0

/-- The lengths of its paths fit the fields of the connect message. The two paths of a rename also
fit one request: they come behind a header that takes more than the fields of `Trenameat`. -/
def Call.Counted : Call → Prop
  | .connectOpen msg _ => CountedPath msg.path
  | .connectMknod msg => CountedPath msg.path
  | .connectUnlink msg => CountedPath msg.path
  | .connectRename msg => CountedPath msg.path ∧ CountedPath msg.newPath ∧
    msg.path.length + msg.newPath.length ≤ 131053
  | _ => True

/-- The open files with their fids. -/
def heldBy (ocbs : List ExtOcb) (opened : List (OpenFile ν)) : List (UInt32 × ν) :=
  List.zipWith (fun ocb file => (ocb.data.fid, file.object)) ocbs opened

/-- The open OCBs of the driver stand for the open files of the client, in order. -/
structure Mirrors (view : σ → ServiceState ν φ) (spare : Nat) (d : Driver σ)
    (c : DirectClient ν φ) : Prop where
  opened : List.Forall₂ (fun ocb file => Stands ocb.data file) d.ocbs c.opened
  tracks : Tracks view c.root spare (heldBy d.ocbs c.opened) d.link c.files

section Held

variable {ocbs : List ExtOcb} {opened : List (OpenFile ν)}

/-- An open file is at the same place on both sides. -/
theorem opened_at (same : List.Forall₂ (fun ocb file => Stands ocb.data file) ocbs opened)
    {i : Nat} {ocb : ExtOcb} (found : ocbs[i]? = some ocb) :
    ∃ file, opened[i]? = some file ∧ Stands ocb.data file ∧
      (ocb.data.fid, file.object) ∈ heldBy ocbs opened := by
  induction same generalizing i with
  | nil => cases found
  | @cons ocb' file ocbs opened stands same ih =>
    cases i with
    | zero =>
      cases found
      exact ⟨file, rfl, stands, List.mem_cons_self⟩
    | succ i =>
      obtain ⟨file', there, stands', member⟩ := ih found
      exact ⟨file', there, stands', List.mem_cons_of_mem _ member⟩

theorem not_opened_at (same : List.Forall₂ (fun ocb file => Stands ocb.data file) ocbs opened)
    {i : Nat} (missing : ocbs[i]? = none) : opened[i]? = none := by
  rw [List.getElem?_eq_none_iff] at missing ⊢
  rw [← same.length_eq]
  exact missing

theorem opened_set (same : List.Forall₂ (fun ocb file => Stands ocb.data file) ocbs opened)
    {i : Nat} {ocb ocb' : ExtOcb} {file file' : OpenFile ν} (found : ocbs[i]? = some ocb)
    (there : opened[i]? = some file) (stands : Stands ocb'.data file')
    (fid : ocb'.data.fid = ocb.data.fid) (object : file'.object = file.object) :
    List.Forall₂ (fun ocb file => Stands ocb.data file) (ocbs.set i ocb') (opened.set i file') ∧
      heldBy (ocbs.set i ocb') (opened.set i file') = heldBy ocbs opened := by
  induction same generalizing i with
  | nil => cases found
  | @cons first firstFile ocbs opened stands' same ih =>
    cases i with
    | zero =>
      cases found
      cases there
      refine ⟨same.cons stands, ?_⟩
      simp only [heldBy, List.set_cons_zero, List.zipWith_cons_cons, fid, object]
    | succ i =>
      obtain ⟨rest, held⟩ := ih found there
      refine ⟨rest.cons stands', ?_⟩
      simp only [List.set_cons_succ]
      exact congrArg ((first.data.fid, firstFile.object) :: ·) held

theorem opened_eraseIdx (same : List.Forall₂ (fun ocb file => Stands ocb.data file) ocbs opened)
    {i : Nat} {ocb : ExtOcb} {file : OpenFile ν} (found : ocbs[i]? = some ocb)
    (there : opened[i]? = some file) :
    List.Forall₂ (fun ocb file => Stands ocb.data file) (ocbs.eraseIdx i) (opened.eraseIdx i) ∧
      (heldBy ocbs opened).Perm
        ((ocb.data.fid, file.object) :: heldBy (ocbs.eraseIdx i) (opened.eraseIdx i)) := by
  induction same generalizing i with
  | nil => cases found
  | @cons first firstFile ocbs opened stands same ih =>
    cases i with
    | zero =>
      cases found
      cases there
      exact ⟨same, List.Perm.refl _⟩
    | succ i =>
      obtain ⟨rest, perm⟩ := ih found there
      refine ⟨rest.cons stands, ?_⟩
      exact (perm.cons (first.data.fid, firstFile.object)).trans (List.Perm.swap _ _ _)

theorem opened_append (same : List.Forall₂ (fun ocb file => Stands ocb.data file) ocbs opened)
    {ocb : ExtOcb} {file : OpenFile ν} (stands : Stands ocb.data file) :
    List.Forall₂ (fun ocb file => Stands ocb.data file) (ocbs ++ [ocb]) (opened ++ [file]) ∧
      ((ocb.data.fid, file.object) :: heldBy ocbs opened).Perm
        (heldBy (ocbs ++ [ocb]) (opened ++ [file])) := by
  refine ⟨List.rel_append same (.cons stands .nil), ?_⟩
  simp only [heldBy, List.zipWith_append same.length_eq]
  exact (List.perm_append_singleton _ _).symm

/-- The fid of an open OCB is bound to the object of the file it stands for. -/
theorem objects_held (same : List.Forall₂ (fun ocb file => Stands ocb.data file) ocbs opened)
    {fids : FidTable ν} (objects : ∀ h ∈ heldBy ocbs opened, fids h.1 = some h.2) :
    List.Forall₂ (fun ocb file => fids ocb.data.fid = some file.object) ocbs opened := by
  induction same with
  | nil => exact .nil
  | @cons ocb file ocbs opened stands same ih =>
    refine .cons (objects (ocb.data.fid, file.object) List.mem_cons_self) (ih ?_)
    exact fun h member => objects h (List.mem_cons_of_mem _ member)

end Held

/-! ### One call -/

section Step

variable {T : Transport σ} {f : FileService ν φ} {view : σ → ServiceState ν φ}
  (provides : T.Provides f view) {q : Qnx} {spare : Nat} {d : Driver σ} {c : DirectClient ν φ}

/-- A handler that opens nothing. -/
theorem mirrors_settled {α β : Type} {Value : α → β → Prop} {x : Attempt (Link σ) Int32 α}
    {y : Attempt φ Int32 β} {pre : Nat} (mirrors : Mirrors view pre d c)
    (couples : Couples Negated (Tracks view c.root pre (heldBy d.ocbs c.opened))
      (Tracks view c.root spare (heldBy d.ocbs c.opened))
      (fun a b w s => Value a b ∧ Tracks view c.root spare (heldBy d.ocbs c.opened) w s) x y) :
    (settled x d.link).1 = errnoOf (y c.files).1 ∧
      Mirrors view spare { d with link := (settled x d.link).2 }
        { c with files := (y c.files).2 } := by
  unfold settled
  rcases couples.outcomes mirrors.tracks with
    ⟨_, errno, w', s', called, served, rfl, tracks⟩ | ⟨_, _, w', s', called, served, -, tracks⟩
  · simp only [called, served, Int32.neg_neg]
    exact ⟨rfl, mirrors.opened, tracks⟩
  · simp only [called, served]
    exact ⟨rfl, mirrors.opened, tracks⟩

/-- A use of an open file. -/
theorem mirrors_used {handle : ExtOcb → (Reply × ExtOcb) × Link σ}
    {use : OpenFile ν → Attempt φ Int32 (Reply × OpenFile ν)} (mirrors : Mirrors view spare d c)
    (agrees : ∀ ocb file, Stands ocb.data file →
      (ocb.data.fid, file.object) ∈ heldBy d.ocbs c.opened →
        UsedAlike view c.root spare (heldBy d.ocbs c.opened) ocb.data.fid file.object (handle ocb)
          (used use file c.files))
    {i : Nat} {ocb : ExtOcb} (found : d.ocbs[i]? = some ocb) :
    (handle ocb).1.1 = (useFile i use c).1 ∧
      Mirrors view spare ⟨(handle ocb).2, d.ocbs.set i (handle ocb).1.2⟩ (useFile i use c).2 := by
  obtain ⟨file, there, stands, member⟩ := opened_at mirrors.opened found
  have both := agrees ocb file stands member
  obtain ⟨opened, held⟩ := opened_set mirrors.opened found there both.stands both.fid both.object
  simp only [useFile, there]
  refine ⟨both.reply, opened, ?_⟩
  rw [held]
  exact both.tracks

include provides

theorem connectOpen_mirrors {msg : IoConnect} (counted : CountedPath msg.path)
    (openDefault : UInt32 → UInt32 → Int32) (mirrors : Mirrors view (spare + 2) d c) :
    (d.handle T q (.connectOpen msg openDefault)).1 =
    (f.call q c (.connectOpen msg openDefault)).1 ∧
      Mirrors view spare (d.handle T q (.connectOpen msg openDefault)).2
        (f.call q c (.connectOpen msg openDefault)).2 := by
  simp only [Driver.handle, FileService.call, connectOpen_attempt]
  have couples : Couples Negated (Tracks view c.root (spare + 2) (heldBy d.ocbs c.opened)) _ _
      (openAttempt T q openDefault msg) (f.openPathname c.root q openDefault msg) :=
    open_couples provides counted
  rcases couples.outcomes mirrors.tracks with
    ⟨_, errno, w', s', called, served, rfl, tracks⟩ |
    ⟨ocb, file, w', s', called, served, stands, tracks⟩
  · simp only [called, served, openResult, Int32.neg_neg]
    refine ⟨rfl, ?_, ?_⟩
    · simpa [Except.toOption] using mirrors.opened
    · simpa [Except.toOption] using tracks
  · simp only [called, served, openResult]
    obtain ⟨opened, perm⟩ := opened_append mirrors.opened stands
    exact ⟨rfl, opened, tracks.perm perm⟩

/-- One message of the dispatch loop. -/
theorem handle_mirrors {call : Call} (counted : call.Counted)
    (mirrors : Mirrors view (spare + call.walks) d c) :
    (d.handle T q call).1 = (f.call q c call).1 ∧
      Mirrors view spare (d.handle T q call).2 (f.call q c call).2 := by
  cases call with
  | connectOpen msg openDefault => exact connectOpen_mirrors provides counted openDefault mirrors
  | connectMknod msg =>
    have made := mirrors_settled mirrors (mknod_couples provides counted)
    simp only [Driver.handle, FileService.call, connectMknod_attempt]
    exact ⟨congrArg Reply.errno made.1, made.2⟩
  | connectUnlink msg =>
    have removed := mirrors_settled mirrors (unlink_handler_couples provides counted)
    simp only [Driver.handle, FileService.call, connectUnlink_attempt]
    exact ⟨congrArg Reply.errno removed.1, removed.2⟩
  | connectRename msg =>
    have renamed := mirrors_settled mirrors
      (rename_handler_couples provides counted.1 counted.2.1 counted.2.2)
    simp only [Driver.handle, FileService.call, connectRename_attempt]
    exact ⟨congrArg Reply.errno renamed.1, renamed.2⟩
  | ioRead i msg =>
    cases found : d.ocbs[i]? with
    | none =>
      simp only [Driver.handle, FileService.call, found, useFile,
        not_opened_at mirrors.opened found]
      exact ⟨trivial, mirrors⟩
    | some ocb =>
      simp only [Driver.handle, FileService.call, found]
      exact mirrors_used mirrors
        (fun ocb file stands member => ioRead_agrees provides stands member mirrors.tracks msg)
          found
  | ioWrite i msg fuel =>
    cases found : d.ocbs[i]? with
    | none =>
      simp only [Driver.handle, FileService.call, found, useFile,
        not_opened_at mirrors.opened found]
      exact ⟨trivial, mirrors⟩
    | some ocb =>
      simp only [Driver.handle, FileService.call, found]
      exact mirrors_used mirrors
        (fun ocb file stands member =>
          ioWrite_agrees provides stands member mirrors.tracks fuel msg) found
  | ioStat i =>
    cases found : d.ocbs[i]? with
    | none =>
      simp only [Driver.handle, FileService.call, found, useFile,
        not_opened_at mirrors.opened found]
      exact ⟨trivial, mirrors⟩
    | some ocb =>
      simp only [Driver.handle, FileService.call, found]
      obtain ⟨reply, after⟩ := mirrors_used mirrors
        (fun ocb file stands member => ioStat_agrees provides stands member mirrors.tracks) found
      refine ⟨reply, ?_⟩
      -- the OCB is as it was
      obtain ⟨inside, here⟩ := List.getElem?_eq_some_iff.mp found
      have same : d.ocbs.set i ocb = d.ocbs := by rw [← here, List.set_getElem_self]
      rw [same] at after
      exact after
  | ioCloseOcb i =>
    cases found : d.ocbs[i]? with
    | none =>
      simp only [Driver.handle, FileService.call, found, not_opened_at mirrors.opened found]
      exact ⟨trivial, mirrors⟩
    | some ocb =>
      obtain ⟨file, there, -⟩ := opened_at mirrors.opened found
      obtain ⟨opened, perm⟩ := opened_eraseIdx mirrors.opened found there
      simp only [Driver.handle, FileService.call, found, there]
      exact ⟨trivial, opened, clunk_tracks provides (mirrors.tracks.perm perm)⟩

/-- By induction on the calls; each of them leaves the fids that the later ones take. -/
theorem run_mirrors {calls : List Call} (counted : ∀ call ∈ calls, call.Counted)
    (mirrors : Mirrors view (spare + (calls.map Call.walks).sum) d c) :
    ((driver T q).run calls d).1 = ((f.direct q).run calls c).1 ∧
      Mirrors view spare ((driver T q).run calls d).2 ((f.direct q).run calls c).2 := by
  induction calls generalizing d c with
  | nil => exact ⟨rfl, mirrors⟩
  | cons call calls ih =>
    rw [List.map_cons, List.sum_cons, Nat.add_comm call.walks, ← Nat.add_assoc] at mirrors
    obtain ⟨reply, step⟩ := handle_mirrors provides (q := q)
      (counted call List.mem_cons_self) mirrors
    obtain ⟨replies, rest⟩ := ih (fun later member => counted later (List.mem_cons_of_mem _ member))
      step
    refine ⟨?_, rest⟩
    simp only [Machine.run]
    exact congrArg₂ List.cons reply replies

end Step

/-! ### From the start of the driver -/

section Start

variable {T : Transport σ} {f : FileService ν φ} {view : σ → ServiceState ν φ}
  (provides : T.Provides f view) {aname : Bytes} (short : aname.length < 2 ^ 16) (s : σ)

include provides

/-- The server accepts the version, and gives up all fids. -/
theorem version_provided (w : Link σ) :
    w.exchangeCode T versionRequest = 0 ∧
      (∃ size, acceptVersion (w.answer T versionRequest) = .ok size) ∧
      view (w.exchanged T versionRequest).transport =
        { view w.transport with fids := FidTable.empty } := by
  let r := Request.tversion maxMessageSize protocolVersion
  have sendable : r.Sendable :=
    Request.sendable_of (by decide) (by simp [r, Request.payload, protocolVersion])
  obtain ⟨s', exchange, after⟩ := provides.serves w.transport 0 r sendable
  let size := if f.msize < maxMessageSize then f.msize else maxMessageSize
  have exchange : T.exchange versionRequest.data w.transport =
      ((0, ((Response.rversion size protocolVersion).encode noTag).data), s') := exchange
  have parsed : (parseRversion (ofData ((Response.rversion size protocolVersion).encode
      noTag).data)).1 = some (size, protocolVersion) :=
    parsed_encode (.rversion _ _) noTag (consumes_rversionFields size protocolVersion (by decide))
      (by simp [Response.payload, protocolVersion])
  have read : readReply (fun m => (parseRversion m).1) (readResponse
      ((Response.rversion size protocolVersion).encode noTag).data) = .ok (size, protocolVersion) :=
    readResponse_granted (by simp [Response.type]) parsed
  have ok : w.exchangeCode T versionRequest = 0 := by rw [Link.exchangeCode, exchange]
  refine ⟨ok, ⟨size, ?_⟩, ?_⟩
  · rw [acceptVersion, Link.answer, if_neg (not_not_intro ok), exchange, read]
    exact if_neg (not_not_intro rfl)
  · change view (T.exchange versionRequest.data w.transport).2 = _
    rw [exchange]
    exact after

omit provides in
/-- The root is all that is in use. -/
theorem tracks_single {w : Link σ} {root : ν} {files : φ} {spare : Nat}
    (pool : w.session.fidPool = FidPool.new.allocate.2) (rootFid : w.session.rootFid = 0)
    (bound : view w.transport = (ServiceState.mk FidTable.empty files).bind 0 (some root))
    (few : 1 + spare < 2 ^ 32) : Tracks view root spare [] w files := by
  have fids : (view w.transport).fids = FidTable.single 0 root := by rw [bound]; rfl
  have ordered := FidPool.Ordered.new.allocate (by decide)
  constructor
  · rw [bound]
    rfl
  · rw [fids, rootFid, FidTable.single_self]
  · rintro h ⟨⟩
  · constructor
    · rw [pool, rootFid]
      rfl
    · rw [fids, FidTable.bound_single, rootFid]
      ext fid
      exact List.mem_singleton.symm
    · exact List.nodup_singleton _
  · rw [pool]
    exact ordered.1
  · rw [pool]
    exact ordered.2
  · rw [pool]
    exact few

include short

/-- `Initialize` attaches the session to the root, or returns the error of the attach. -/
theorem initialize_provided :
    let start := initializeSession T aname ⟨NinePSession.new, s, []⟩
    match hosted (f.attach aname) (view s).files with
    | (.error errno, _) => start.1 = -errno
    | (.ok (root, _), files) => start.1 = 0 ∧ ∀ spare, spare + 1 < 2 ^ 32 →
        Tracks view root spare [] start.2 files := by
  intro start
  let w : Link σ := ⟨NinePSession.new, s, []⟩
  obtain ⟨version, ⟨size, accepted⟩, dropped⟩ := version_provided provides w
  let agreed : Link σ := w.exchanged T versionRequest
  let r := Request.tattach 0 noFid [] aname 0
  have sendable : r.Sendable :=
    Request.sendable_of ⟨by decide, short⟩ (by simp [r, Request.payload]; omega)
  obtain ⟨s', exchange, after⟩ := provides.serves agreed.transport 0 r sendable
  -- no fid is bound, so the root's is free
  have served : f.serve r (view agreed.transport) =
      (view agreed.transport).answer (f.attach aname) fun a v =>
        (.rattach a.2, v.bind 0 (some a.1)) := by
    have free : ¬ (view agreed.transport).fids 0 ≠ none := by
      rw [dropped]
      exact not_not_intro rfl
    exact if_neg free
  have files : (view agreed.transport).files = (view s).files := by rw [dropped]
  have exchange : T.exchange (attachRequest aname 0 0).data agreed.transport =
      ((0, ((f.serve r (view agreed.transport)).1.encode 0).data), s') := exchange
  rw [served, ServiceState.answer, files] at exchange after
  have attach : agreed.exchangeCode T (attachRequest aname 0 0) = 0 := by
    rw [Link.exchangeCode, exchange]
  have once : start = w.initializedOnce T aname :=
    initializeSession_once version fun _ _ => attach
  let attached : Link σ := (Link.mk ({ w.session with aname := aname } : NinePSession) w.transport
    w.sent).exchanged T versionRequest
  let final : Link σ := ((Link.mk (attached.session.setUp size) attached.transport
    attached.sent).tagged).exchanged T (attachRequest aname 0 0)
  have answer : agreed.answer T (attachRequest aname 0 0) = readResponse
      (T.exchange (attachRequest aname 0 0).data agreed.transport).1.2 :=
    if_neg (not_not_intro attach)
  rw [exchange] at answer
  have ended : ∀ {result : Except Int32 Qid}, readReply (fun m => (parseRattach m).1)
      (agreed.answer T (attachRequest aname 0 0)) = result →
        (∀ rc, result = .error rc → start = (rc, final.release 0)) ∧
          (∀ qid, result = .ok qid → start = (0, final)) := by
    rintro result read
    rw [once, Link.initializedOnce]
    simp only [accepted]
    split
    · rename_i rc failed
      have failed : result = .error rc := read.symm.trans failed
      subst failed
      refine ⟨?_, ?_⟩
      · rintro _ ⟨⟩
        rfl
      · rintro _ ⟨⟩
    · rename_i qid done
      have done : result = .ok qid := read.symm.trans done
      subst done
      refine ⟨?_, ?_⟩
      · rintro _ ⟨⟩
      · rintro _ _
        rfl
  have last : final.transport = s' := congrArg Prod.snd exchange
  unfold hosted Attempt.fold
  cases attempted : f.attach aname (view s).files with
  | mk result files' =>
    rw [attempted] at answer after
    cases result with
    | error ecode =>
      have read : readReply (fun m => (parseRattach m).1) (readResponse
          ((Response.rlerror ecode.val).encode 0).data) = .error (refusal ecode.val) :=
        readResponse_refused (parsesOnly_payload .rattach _) (by decide) ecode.val 0
      simp only [fail]
      rw [(ended (by rw [answer]; exact read)).1 _ rfl]
      exact (refused_ecode ecode).1
    | ok made =>
      obtain ⟨root, qid⟩ := made
      have parsed : (parseRattach (ofData ((Response.rattach qid).encode 0).data)).1 = some qid :=
        parsed_encode (.rattach _) 0 (consumes_getQid qid) (by simp [Response.payload])
      have read : readReply (fun m => (parseRattach m).1) (readResponse
          ((Response.rattach qid).encode 0).data) = .ok qid :=
        readResponse_granted (by simp [Response.type]) parsed
      simp only [Attempt.pure]
      rw [(ended (by rw [answer]; exact read)).2 _ rfl]
      refine ⟨rfl, ?_⟩
      intro spare few
      have bound : view final.transport =
          (ServiceState.mk FidTable.empty files').bind 0 (some root) := by
        rw [last, after, dropped]
      exact tracks_single rfl rfl bound (by omega)

omit provides short in
/-- The driver from `Initialize` on, and its handlers with the file service at hand: they give the
same replies and leave the host's files alike, and each open OCB has a fid that the server has bound
to the object of the open file it stands for. In a run of calls that are served as they are meant,
the client that does itself what the calls are for comes to the same. -/
def Transparent (T : Transport σ) (f : FileService ν φ) (view : σ → ServiceState ν φ)
    (aname : Bytes) (s : σ) (q : Qnx) (asked : List ClientCall) : Prop :=
  let start := initializeSession T aname ⟨NinePSession.new, s, []⟩
  let calls := asked.map ClientCall.call
  match hosted (f.attach aname) (view s).files with
  | (.error errno, _) => start.1 = -errno
  | (.ok (root, _), files) => start.1 = 0 ∧
      let driven := (driver T q).run calls ⟨start.2, []⟩
      let direct := (f.direct q).run calls ⟨root, files, []⟩
      (driven.1 = direct.1 ∧ (view driven.2.link.transport).files = direct.2.files ∧
        List.Forall₂ (fun ocb file => (view driven.2.link.transport).fids ocb.data.fid =
          some file.object) driven.2.ocbs direct.2.opened) ∧
      (f.Ordinary → (f.intended q).Meets (ServedAsMeant f q) asked ⟨root, files, []⟩ →
        direct = (f.intended q).run asked ⟨root, files, []⟩)

theorem transparent_of_provides {q : Qnx} {asked : List ClientCall}
    (counted : ∀ call ∈ asked.map ClientCall.call, call.Counted)
    (few : ((asked.map ClientCall.call).map Call.walks).sum + 1 < 2 ^ 32) :
    Transparent T f view aname s q asked := by
  have attached := initialize_provided provides short s
  rw [Transparent]
  revert attached
  obtain ⟨_ | ⟨root, qid⟩, files⟩ := hosted (f.attach aname) (view s).files <;> intro attached
  · exact attached
  · obtain ⟨code, tracks⟩ := attached
    have mirrors : Mirrors view (0 + ((asked.map ClientCall.call).map Call.walks).sum)
        ⟨(initializeSession T aname ⟨NinePSession.new, s, []⟩).2, []⟩ ⟨root, files, []⟩ :=
      ⟨.nil, tracks _ (by omega)⟩
    obtain ⟨replies, final⟩ := run_mirrors provides (q := q) counted mirrors
    refine ⟨code, ⟨replies, final.tracks.files, objects_held final.opened final.tracks.objects⟩, ?_⟩
    exact fun ordinary served => run_meant ordinary served

end Start

theorem missing_coded : 1 ≤ (2 : UInt32) ∧ (2 : UInt32) ≤ 4095 := by decide

/-- `ENOENT` -/
def missingEntry : Ecode := ⟨2, missing_coded⟩

/-- The root directory, and the file `f` in it. -/
inductive Node where
  | root
  | file
  deriving DecidableEq, Repr

namespace Node

def qid : Node → Qid
  | root => ⟨0x80, 0, 1⟩
  | file => ⟨0, 0, 2⟩

def walk (object : Node) (names : List Bytes) : Attempt Bytes Ecode (List (Node × Qid)) :=
  if names = [] then pure []
  else if object = root ∧ names = [[102]] then pure [(file, file.qid)]
  else fail missingEntry

/-- As many bytes as fit a response. -/
def read (offset : UInt64) (count : UInt32) : Attempt Bytes Ecode Bytes :=
  fun contents => (.ok (readAt contents offset (min count.toNat 131048)), contents)

def write (offset : UInt64) (data : Bytes) : Attempt Bytes Ecode UInt32 :=
  fun contents => (.ok (UInt32.ofNat data.length), writeAt contents offset data)

theorem walk_length {object : Node} {names : List Bytes} {s s' : Bytes}
    {reached : List (Node × Qid)} (done : walk object names s = (.ok reached, s')) :
    reached.length ≤ names.length ∧ 13 * reached.length + 9 ≤ maxMessageSize.toNat := by
  unfold walk at done
  split at done
  · cases done
    exact ⟨Nat.zero_le _, by decide⟩
  · split at done
    · rename_i there
      cases done
      rw [there.2]
      exact ⟨Nat.le_refl 1, by decide⟩
    · cases done

theorem read_length {offset : UInt64} {count : UInt32} {s s' data : Bytes}
    (done : read offset count s = (.ok data, s')) :
    data.length + 11 ≤ maxMessageSize.toNat := by
  cases done
  have size : maxMessageSize.toNat = 131072 := rfl
  have taken : (readAt s offset (min count.toNat 131048)).length ≤ min count.toNat 131048 :=
    List.length_take_le _ _
  omega

theorem write_count {offset : UInt64} {data s s' : Bytes} {count : UInt32}
    (done : write offset data s = (.ok count, s')) : count.toNat ≤ data.length := by
  cases done
  rw [UInt32.toNat_ofNat']
  exact Nat.mod_le _ _

theorem opened_unit {object : Node} {s s' : Bytes} {qid : Qid} {iounit : UInt32}
    (done : (pure (object.qid, 0) : Attempt Bytes Ecode (Qid × UInt32)) s =
      (.ok (qid, iounit), s')) :
    iounit.toNat + 24 ≤ maxMessageSize.toNat := by
  cases done
  decide

theorem never_made {made : Node × Qid × UInt32} {s s' : Bytes}
    (done : (fail missingEntry : Attempt Bytes Ecode (Node × Qid × UInt32)) s = (.ok made, s')) :
    made.2.2.toNat + 24 ≤ maxMessageSize.toNat := by
  cases done

theorem nothing_listed {s s' : Bytes} {entries : List DirEntry}
    (done : (pure [] : Attempt Bytes Ecode (List DirEntry)) s = (.ok entries, s')) :
    Response.dirSize entries + 11 ≤ maxMessageSize.toNat ∧
      ∀ e ∈ entries, e.name.length < 2 ^ 16 := by
  cases done
  exact ⟨by decide, fun _ member => absurd member (List.not_mem_nil)⟩

end Node

/-- Nothing can be created, removed or renamed. -/
def singleFile : FileService Node Bytes where
  msize := maxMessageSize
  attach _ := pure (.root, Node.root.qid)
  walk := Node.walk
  lopen object _ := pure (object.qid, 0)
  lcreate _ _ _ _ _ := fail missingEntry
  getattr object _ :=
    pure { NinePStat.zero with mode := if object = .root then 0o040755 else 0o100644 }
  read _ := Node.read
  readdir _ _ _ := pure []
  write _ := Node.write
  mkdir _ _ _ _ := fail missingEntry
  unlinkat _ _ _ := fail missingEntry
  renameat _ _ _ _ := fail missingEntry
  clunk _ contents := contents
  walked _ _ _ _ _ done := Node.walk_length done
  opened _ _ _ _ _ _ done := Node.opened_unit done
  created _ _ _ _ _ _ _ _ _ _ done := Node.never_made done
  readLength _ _ _ _ _ _ done := Node.read_length done
  listed _ _ _ _ _ _ done := Node.nothing_listed done
  written _ _ _ _ _ _ done := Node.write_count done

end Virtio9p
