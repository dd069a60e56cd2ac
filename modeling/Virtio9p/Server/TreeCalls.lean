import Virtio9p.Server.Balance
import Virtio9p.Server.TreeServer

/-!
# Session calls on a tree server

What the calls that open a file return, and the server after each of them.
-/
namespace Virtio9p

open Cursor NinePMessage

variable {σ : Type} {T : Transport σ} {h : Host} {view : σ → TreeServer}

/-! ### Walks -/

theorem Host.reached_length_le (h : Host) (tree : FileTree) (path : FilePath)
    (names : List Bytes) : (h.reached tree path names).length ≤ names.length := by
  induction names generalizing path with
  | nil => exact Nat.le_refl 0
  | cons name names ih =>
    rw [Host.reached]
    split
    · exact Nat.zero_le _
    · rename_i path' _
      exact Nat.succ_le_succ (ih path')

/-- A refusal does not say that a name is missing. -/
theorem Host.find_refused {h : Host} {fid newfid ecode : UInt32} {names : List Bytes}
    {s : TreeServer} (refused : h.find fid newfid names s = .refused ecode) : ecode ≠ 2 := by
  unfold Host.find at refused
  split at refused
  · cases refused
    decide
  · split at refused
    · rename_i stated
      cases refused
      rintro rfl
      exact h.honest _ _ _ _ _ stated
    · split at refused <;> cases refused

theorem Host.walk_path {h : Host} {fid newfid : UInt32} {names : List Bytes} {s : TreeServer}
    {path : FilePath} (found : h.find fid newfid names s = .path path) :
    ∃ qids, qids.length = names.length ∧
      h.walk fid newfid names s = (.rwalk qids, s.bind newfid (some path)) := by
  unfold Host.find at found
  unfold Host.walk
  split at found
  · cases found
  · rename_i start bound
    split at found
    · cases found
    · rename_i granted
      split at found
      · rename_i resolves
        cases found
        refine ⟨(h.reached s.tree start names).map (h.qid s.tree), ?_, ?_⟩
        · rw [List.length_map]
          exact resolves
        · -- a walk without names reaches nothing, and that is all of it
          have whole : ¬ (h.reached s.tree start names = [] ∧ names ≠ []) := by
            rintro ⟨nothing, some⟩
            unfold Host.Resolves at resolves
            rw [nothing] at resolves
            exact some (List.length_eq_zero_iff.mp resolves.symm)
          simp only [if_neg whole, if_pos resolves]
      · cases found

theorem Host.walk_missing {h : Host} {fid newfid : UInt32} {names : List Bytes} {s : TreeServer}
    (missing : h.find fid newfid names s = .missing) :
    h.walk fid newfid names s = (.rlerror 2, s) ∨
      ∃ qids, qids.length < names.length ∧ h.walk fid newfid names s = (.rwalk qids, s) := by
  unfold Host.find at missing
  unfold Host.walk
  split at missing
  · cases missing
  · rename_i start bound
    split at missing
    · cases missing
    · rename_i granted
      split at missing
      · cases missing
      · rename_i unresolved
        simp only [if_neg unresolved]
        split
        · -- the first name is missing
          exact .inl rfl
        · -- a later one
          refine .inr ⟨_, ?_, rfl⟩
          rw [List.length_map]
          exact Nat.lt_of_le_of_ne (h.reached_length_le s.tree start names) unresolved

theorem Host.walk_refused {h : Host} {fid newfid ecode : UInt32} {names : List Bytes}
    {s : TreeServer} (refused : h.find fid newfid names s = .refused ecode) :
    h.walk fid newfid names s = (.rlerror ecode, s) := by
  unfold Host.find at refused
  unfold Host.walk
  split at refused
  · cases refused
    rfl
  · split at refused
    · cases refused
      rfl
    · split at refused <;> cases refused

/-! ### Calls -/

/-- A call whose first exchange the server answers. -/
theorem Link.served (serves : T.ServesTree h view) {r : Request} (sized : r.Sized) {w : Link σ}
    {answer : Response × TreeServer} (served : h.serve r (view w.transport) = some answer)
    (tagged : ∀ tag, r.sentTag tag = tag) :
    w.Answers T (fun tag => r.build tag) answer.1 ∧
      view (w.callOnce T fun tag => r.build tag).transport = answer.2 := by
  obtain ⟨s', exchange, after⟩ := serves.serves w.transport w.session.nextTag r answer sized served
  rw [tagged] at exchange
  refine ⟨⟨s', exchange⟩, ?_⟩
  rw [callOnce_transport _ exchange]
  exact after

section Calls

variable {α : Type} (serves : T.ServesTree h view) {r : Request} (sized : r.Sized)
  (parse : NinePMessage → Option α) {w : Link σ} {s' : TreeServer}

include serves sized

theorem call_granted {response : Response} {a : α}
    (served : h.serve r (view w.transport) = some (response, s'))
    (tagged : ∀ tag, r.sentTag tag = tag) (proper : response.type ≠ .rlerror)
    (parsed : ∀ tag, parse (ofData (response.encode tag).data) = some a) :
    ∃ w', Link.call T (fun tag => r.build tag) parse w = (.ok a, w') ∧ view w'.transport = s' ∧
      w'.session = w.session.takeTag.2 := by
  obtain ⟨answers, after⟩ := Link.served serves sized served tagged
  exact ⟨_, call_answered answers parse proper (parsed _), after, rfl⟩

theorem call_refused {ecode : UInt32} {type : MessageType}
    (served : h.serve r (view w.transport) = some (.rlerror ecode, s'))
    (tagged : ∀ tag, r.sentTag tag = tag) (only : ParsesOnly type parse)
    (proper : type ≠ .rlerror) :
    ∃ w', Link.call T (fun tag => r.build tag) parse w = (.error (refusal ecode), w') ∧
      view w'.transport = s' ∧ w'.session = w.session.takeTag.2 := by
  obtain ⟨answers, after⟩ := Link.served serves sized served tagged
  exact ⟨_, call_rlerror only proper answers, after, rfl⟩

end Calls

/-! ### The calls of an open -/

section Open

variable (serves : T.ServesTree h view) (w : Link σ)

include serves

/-- `Walk` returns a fid for a path that is there, `-ENOENT` for one that is not, and another
error if the server refuses. -/
theorem walk_served {path : Bytes}
    (sized : ∀ fid newfid, (Request.twalk fid newfid (splitPath path)).Sized) :
    let s := (view w.transport).disturbed
    let fid := w.session.fidPool.nextFid
    ∃ rc w', walk T path w = (rc, w') ∧ w'.session.rootFid = w.session.rootFid ∧
      w'.session.fidPool.nextFid = fid + 1 ∧
      match h.find w.session.rootFid fid (splitPath path) s with
      | .path p => rc = .ok fid ∧ view w'.transport = s.bind fid (some p)
      | .missing => rc = .error (-enoent) ∧ view w'.transport = s
      | .refused _ =>
        (∃ code, rc = .error code ∧ code ≠ 0 ∧ code ≠ -enoent) ∧ view w'.transport = s := by
  intro s fid
  let names := splitPath path
  let r := Request.twalk w.session.rootFid fid names
  let walked : Link σ := { w with session := w.session.allocateFid.2 }
  let w' : Link σ := walked.tagged.exchanged T (r.build w.session.nextTag)
  obtain ⟨answers, after⟩ := Link.served serves (r := r) (sized _ _) (w := walked) rfl fun _ => rfl
  obtain ⟨ok, answer⟩ : w.exchangeCode T (r.build w.session.nextTag) = 0 ∧
      w.answer T (r.build w.session.nextTag) = readResponse
        ((h.walk w.session.rootFid fid names s).1.encode w.session.nextTag).data :=
    answers.received
  have after : view w'.transport = (h.walk w.session.rootFid fid names s).2 := after
  -- so the server can answer with one qid a name
  have few : names.length < 2 ^ 16 := (sized 0 0).1.1
  have only : ParsesOnly .rwalk fun m => (parseRwalk [] m).1 := parsesOnly_payload .rwalk _
  -- `Walk` gives the fid back itself if it does not return it
  have whole := walk_once ok
  simp only at whole
  rw [show w.answer T (buildTwalk w.session.nextTag w.session.rootFid fid names) = _ from answer]
    at whole
  have read {qids : List Qid} (counted : qids.length < 2 ^ 16) :
      readReply (fun m => (parseRwalk [] m).1)
        (readResponse ((Response.rwalk qids).encode w.session.nextTag).data) = .ok qids :=
    readResponse_granted (by simp [Response.type]) (parseRwalk_encode counted _)
  cases found : h.find w.session.rootFid fid names s with
  | path p =>
    obtain ⟨qids, all, answered⟩ := Host.walk_path found
    rw [answered] at whole after
    rw [read (all ▸ few)] at whole
    have complete : ¬ qids.length ≠ (splitPath path).length := not_not_intro all
    simp only [if_neg complete] at whole
    exact ⟨_, _, whole, rfl, rfl, rfl, after⟩
  | missing =>
    rcases Host.walk_missing found with answered | ⟨qids, part, answered⟩
    · -- the server says `ENOENT`
      rw [answered] at whole after
      rw [readResponse_refused only (by decide)] at whole
      refine ⟨_, _, whole, rfl, rfl, ?_, after⟩
      rw [refusal_eq_enoent.mpr rfl]
    · rw [answered] at whole after
      rw [read (Nat.lt_trans part few)] at whole
      have partly : qids.length ≠ (splitPath path).length := Nat.ne_of_lt part
      simp only [if_pos partly] at whole
      exact ⟨_, _, whole, rfl, rfl, rfl, after⟩
  | refused ecode =>
    rw [Host.walk_refused found] at whole after
    rw [readResponse_refused only (by decide)] at whole
    refine ⟨_, _, whole, rfl, rfl, ⟨_, rfl, refusal_ne_zero ecode, ?_⟩, after⟩
    exact refusal_eq_enoent.not.mpr (Host.find_refused found)

variable {w} {fid : UInt32} {path : FilePath} (bound : (view w.transport).fids fid = some path)

include bound

omit serves in
private theorem bound_disturbed : (view w.transport).disturbed.fids fid = some path := by
  rw [TreeServer.disturbed_fids, bound]

/-- `Open` of a bound fid opens the file, or the server refuses and nothing happens. -/
theorem openFid_served (flags : UInt32) :
    let s := (view w.transport).disturbed
    ∃ rc w', openFid T fid flags w = (rc, w') ∧
      match h.openRefusal s.tree path flags with
      | none => (∃ iounit, rc = .ok iounit) ∧ view w'.transport = s.opened path flags
      | some _ => (∃ code, rc = .error code ∧ code ≠ 0) ∧ view w'.transport = s := by
  intro s
  have here : s.fids fid = some path := bound_disturbed bound
  let r := Request.tlopen fid flags
  have sized : r.Sized := ⟨trivial, by simp [r, Request.payload]⟩
  let parse : NinePMessage → Option UInt32 := fun m => (parseRlopen m).1.map Prod.snd
  cases refusal : h.openRefusal s.tree path flags with
  | none =>
    have served : h.serve r (view w.transport) =
        some (.rlopen (h.qid s.tree path) (h.iounit s.tree path), s.opened path flags) := by
      change some (h.openFile fid flags s) = _
      simp only [Host.openFile, here, refusal]
    have parsed (tag : UInt16) : parse (ofData ((Response.rlopen (h.qid s.tree path)
        (h.iounit s.tree path)).encode tag).data) = some (h.iounit s.tree path) := by
      exact congrArg (Option.map Prod.snd) (parsed_encode (.rlopen _ _) tag
        (consumes_qidAndIounit _ _) (by simp [Response.payload]))
    obtain ⟨w', called, after, -⟩ := call_granted serves (r := r) sized parse served
      (fun _ => rfl) (by simp [Response.type]) parsed
    exact ⟨_, w', called, ⟨_, rfl⟩, after⟩
  | some ecode =>
    have served : h.serve r (view w.transport) = some (.rlerror ecode, s) := by
      change some (h.openFile fid flags s) = _
      simp only [Host.openFile, here, refusal]
    have only : ParsesOnly .rlopen parse := (parsesOnly_payload .rlopen _).map fun _ => Prod.snd
    obtain ⟨w', called, after, -⟩ := call_refused serves (r := r) sized parse served
      (fun _ => rfl) only (by decide)
    exact ⟨_, w', called, ⟨_, rfl, refusal_ne_zero ecode⟩, after⟩

/-- `GetAttr` leaves the tree alone. -/
theorem getAttr_served :
    let s := (view w.transport).disturbed
    ∃ rc w', getAttr T fid w = (rc, w') ∧ view w'.transport = s ∧
      (match rc with
        | .ok stat => stat
        | .error _ => NinePStat.zero) = h.statOf s.tree path := by
  intro s
  have here : s.fids fid = some path := bound_disturbed bound
  let r := Request.tgetattr fid getattrBasic
  have sized : r.Sized := ⟨trivial, by simp [r, Request.payload]⟩
  let parse : NinePMessage → Option NinePStat := fun m => (parseRgetattr m).1
  unfold Host.statOf
  cases reported : h.attributes s.tree path with
  | ok stat =>
    have served : h.serve r (view w.transport) = some (.rgetattr stat, s) := by
      change some (h.getAttributes fid s, s) = _
      simp only [Host.getAttributes, here, reported]
    obtain ⟨w', called, after, -⟩ := call_granted serves (r := r) sized parse served
      (fun _ => rfl) (by simp [Response.type]) fun tag =>
        parsed_encode (.rgetattr stat) tag (consumes_rgetattrFields stat)
          (by simp [Response.payload])
    exact ⟨_, w', called, after, rfl⟩
  | error ecode =>
    have served : h.serve r (view w.transport) = some (.rlerror ecode, s) := by
      change some (h.getAttributes fid s, s) = _
      simp only [Host.getAttributes, here, reported]
    obtain ⟨w', called, after, -⟩ := call_refused serves (r := r) sized parse served
      (fun _ => rfl) (parsesOnly_payload .rgetattr _) (by decide)
    exact ⟨_, w', called, after, rfl⟩

theorem clunk_served :
    view (clunk T fid w).2.transport = (view w.transport).disturbed.bind fid none := by
  let r := Request.tclunk fid
  have sized : r.Sized := ⟨trivial, by simp [r, Request.payload]⟩
  have served : h.serve r (view w.transport) =
      some (.rclunk, (view w.transport).disturbed.bind fid none) := by
    change some ((view w.transport).disturbed.clunk fid) = _
    simp only [TreeServer.clunk, bound_disturbed bound]
  obtain ⟨answers, after⟩ := Link.served serves (r := r) sized served fun _ => rfl
  have called : Link.call T (fun tag => buildTclunk tag fid) (fun m => (parseRclunk m).1) w = _ :=
    call_of_answers answers _
  -- the answer does not matter: the fid is released in any case
  rw [clunk, called]
  exact after

/-- `Create` in a bound directory makes the file or opens the one that is there. -/
theorem create_served {basename : Bytes} (short : basename.length < 2 ^ 16) {flags : UInt32}
    (noExcl : flags &&& linuxOExcl = 0) (mode gid : UInt32) :
    let s := (view w.transport).disturbed
    ∃ rc w', create T fid basename flags mode gid w = (rc, w') ∧
      match h.createRefusal s.tree path basename flags with
      | none => (∃ made, rc = .ok made) ∧ view w'.transport =
          (s.createdAt (path ++ [basename]) flags).bind fid (some (path ++ [basename]))
      | some _ => (∃ code, rc = .error code ∧ code ≠ 0) ∧ view w'.transport = s := by
  intro s
  have here : s.fids fid = some path := bound_disturbed bound
  let r := Request.tlcreate fid basename flags mode gid
  have sized : r.Sized := ⟨short, by simp [r, Request.payload]; omega⟩
  let file := path ++ [basename]
  let parse : NinePMessage → Option (Qid × UInt32) := fun m => (parseRlcreate m).1
  cases refusal : h.createRefusal s.tree path basename flags with
  | none =>
    have served : h.serve r (view w.transport) =
        some (.rlcreate (h.qid s.tree file) (h.iounit s.tree file),
          (s.createdAt file flags).bind fid (some file)) := by
      change some (h.createFile fid basename flags s) = _
      simp only [Host.createFile, here, refusal]
      -- without `O_EXCL` a file that is there is no obstacle
      rw [if_neg fun exclusive => exclusive.2 noExcl]
    obtain ⟨w', called, after, -⟩ := call_granted serves (r := r) sized parse served
      (fun _ => rfl) (by simp [Response.type]) fun tag =>
        parsed_encode (.rlcreate _ _) tag (consumes_qidAndIounit _ _) (by simp [Response.payload])
    exact ⟨_, w', called, ⟨_, rfl⟩, after⟩
  | some ecode =>
    have served : h.serve r (view w.transport) = some (.rlerror ecode, s) := by
      change some (h.createFile fid basename flags s) = _
      simp only [Host.createFile, here, refusal]
    obtain ⟨w', called, after, -⟩ := call_refused serves (r := r) sized parse served
      (fun _ => rfl) (parsesOnly_payload .rlcreate _) (by decide)
    exact ⟨_, w', called, ⟨_, rfl, refusal_ne_zero ecode⟩, after⟩

end Open

end Virtio9p
