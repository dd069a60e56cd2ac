import Mathlib.Algebra.Order.BigOperators.Group.List
import Virtio9p.Resmgr.Handlers
import Virtio9p.Server.TreeCalls

/-!
# ConnectOpen on a tree server

What `ConnectOpen` returns and what it has done to the tree, by what the server finds and
refuses.
-/
namespace Virtio9p

variable {σ : Type}

/-! ### Paths of a connect message -/

theorem sum_length_le_intercalate (x : UInt8) (pieces : List Bytes) :
    (pieces.map List.length).sum ≤ ([x].intercalate pieces).length := by
  induction pieces with
  | nil => exact Nat.le_refl 0
  | cons first pieces ih =>
    cases pieces with
    | nil =>
      rw [List.intercalate_singleton, List.map_singleton, List.sum_singleton]
    | cons second pieces =>
      rw [List.intercalate_cons_cons, List.length_append, List.length_append, List.map_cons,
        List.sum_cons]
      omega

/-- The bytes of the components, each with a length field of its own. -/
theorem splitPath_str_length (path : Bytes) :
    ((splitPath path).flatMap Wire.str).length ≤ 3 * path.length := by
  have pieces := sum_length_le_intercalate 47 (path.splitOn 47)
  rw [List.intercalate_splitOn] at pieces
  refine Nat.le_trans ?_ (Nat.mul_le_mul_left 3 pieces)
  unfold splitPath
  generalize path.splitOn 47 = pieces
  induction pieces with
  | nil => exact Nat.le_refl 0
  | cons piece pieces ih =>
    rw [List.map_cons, List.sum_cons]
    by_cases empty : piece = []
    · -- an empty piece has no length field, but its separator counts
      rw [List.filter_cons_of_neg (by simpa using empty)]
      omega
    · have nonempty := List.length_pos_of_ne_nil empty
      rw [List.filter_cons_of_pos (by simpa using empty), List.flatMap_cons, List.length_append,
        Wire.str_length]
      omega

/-- The length field of a connect message, `path_len`, has 16 bits. -/
def CountedPath (path : Bytes) : Prop := path.length < 2 ^ 16

instance (path : Bytes) : Decidable (CountedPath path) :=
  inferInstanceAs (Decidable (path.length < 2 ^ 16))

section Paths

variable {path : Bytes} (counted : CountedPath path)

include counted

theorem CountedPath.walks (fid newfid : UInt32) :
    (Request.twalk fid newfid (splitPath path)).Sized := by
  have bound : path.length < 2 ^ 16 := counted
  have total := splitPath_str_length path
  refine ⟨⟨?_, ?_⟩, ?_⟩
  · apply splitPath_short
    unfold ShortPath
    have size : maxMessageSize.toNat = 131072 := rfl
    omega
  · intro name member
    have piece : name.length ≤ ((path.splitOn 47).map List.length).sum :=
      List.le_sum_of_mem (List.mem_map_of_mem (List.mem_of_mem_filter member))
    have pieces := sum_length_le_intercalate 47 (path.splitOn 47)
    rw [List.intercalate_splitOn] at pieces
    omega
  · simp only [Request.payload, List.length_append, Wire.u32_length, Wire.u16_length]
    omega

theorem CountedPath.parent : CountedPath (splitParent path).1 :=
  Nat.lt_of_le_of_lt (splitParent_length path) counted

theorem CountedPath.basename : (splitParent path).2.length < 2 ^ 16 := by
  have bound : path.length < 2 ^ 16 := counted
  unfold splitParent
  split
  · exact bound
  · rw [List.length_drop]
    omega

end Paths

theorem CountedPath.openPath {msg : IoConnect} (counted : CountedPath msg.path) :
    CountedPath (openPath msg) := by
  unfold Virtio9p.openPath
  split
  · decide
  · exact counted

/-! ### Flags -/

/-- The flags that the local check sees. -/
def localFlags (q : Qnx) (msg : IoConnect) : UInt32 :=
  msg.ioflag &&& ~~~(q.oCreat ||| q.oExcl ||| q.oTrunc)

/-- No flag of the client becomes `O_EXCL` on the wire. -/
theorem createFlags_noExcl (q : Qnx) (ioflag : UInt32) :
    (translateQnxToLinuxFlags q ioflag ||| linuxOCreat) &&& linuxOExcl = 0 := by
  -- each flag that is translated has one bit on the wire
  unfold translateQnxToLinuxFlags
  simp only
  split <;> split <;> split <;> first | decide | (split <;> decide)

/-! ### The course of an open -/

namespace TreeServer

variable (s : TreeServer) (fid : UInt32) (path : Option FilePath)

theorem bind_disturbed : (s.bind fid path).disturbed = s.disturbed.bind fid path := by
  unfold disturbed
  rw [show (s.bind fid path).pending = s.pending from rfl]
  split <;> rfl

theorem bind_fids_self : (s.bind fid path).fids fid = path := Function.update_self ..

theorem opened_fids (target : FilePath) (flags : UInt32) :
    (s.opened target flags).fids = s.fids := by
  unfold opened
  split
  · split <;> rfl
  · rfl

end TreeServer

/-- Where an open stands when the local check comes to decide. -/
inductive Opening where
  /-- It has failed before. -/
  | failed
  /-- The server has opened or made the file at `path`; the check sees `mode`. -/
  | opened (path : FilePath) (mode : UInt32) (s : TreeServer)

/-- The requests before the local check. `Walk` takes the fid `fid`, `WalkParent` the next. -/
def Host.opening (h : Host) (q : Qnx) (msg : IoConnect) (rootFid fid : UInt32) (s : TreeServer) :
    Opening :=
  let flags := translateQnxToLinuxFlags q msg.ioflag
  let split := splitParent (openPath msg)
  let s₁ := s.disturbed
  match h.find rootFid fid (splitPath (openPath msg)) s₁ with
  | .path path =>
    let s₂ := s₁.disturbed.bind fid (some path)
    match h.openRefusal s₂.tree path flags with
    | some _ => .failed
    | none =>
      let s₃ := s₂.opened path flags
      .opened path (h.statOf s₃.disturbed.tree path).mode s₃
  | .missing =>
    let s₂ := s₁.disturbed
    if msg.ioflag &&& q.oCreat = 0 ∨ split.2 = [] then .failed
    else
      match h.find rootFid (fid + 1) (splitPath split.1) s₂ with
      | .path directory =>
        let s₃ := s₂.disturbed.bind (fid + 1) (some directory)
        match h.createRefusal s₃.tree directory split.2 (flags ||| linuxOCreat) with
        | some _ => .failed
        | none =>
          let path := directory ++ [split.2]
          .opened path 0o100644
            ((s₃.createdAt path (flags ||| linuxOCreat)).bind (fid + 1) (some path))
      | _ => .failed
  | .refused _ => .failed

/-- What a call returns, and the server after it, if its requests have gone as `course` says;
`verdict` is the local check. -/
def Opening.Ends (course : Opening) (verdict : UInt32 → Int32) (s : TreeServer)
    (result : Int32 × Option ExtOcb) (s' : TreeServer) : Prop :=
  match course with
  | .failed => result.1 ≠ eok ∧ s.Later s'
  | .opened path mode s₁ =>
    result.1 = verdict mode ∧ s₁.Later s' ∧
      (result.1 = eok → ∃ ocb, result.2 = some ocb ∧ s'.fids ocb.data.fid = some path)

section Served

variable {T : Transport σ} {h : Host} {view : σ → TreeServer} (serves : T.ServesTree h view)
  (q : Qnx) (openDefault : UInt32 → UInt32 → Int32)

include serves

/-- A rejected open gives its fid back. -/
theorem openOcb_served (msg : IoConnect) (data : Virtio9pOcb) (stat : NinePStat) {w : Link σ}
    {path : FilePath} (bound : (view w.transport).fids data.fid = some path) :
    ∃ result w', openOcb T q openDefault msg.ioflag data stat w = (result, w') ∧
      (Opening.opened path stat.mode (view w.transport)).Ends
        (fun mode => openDefault mode (localFlags q msg)) (view w.transport) result
        (view w'.transport) := by
  unfold openOcb localFlags
  simp only
  split
  · rename_i rejected
    refine ⟨_, _, rfl, rfl, ?_, fun accepted => absurd accepted rejected⟩
    rw [clunk_served serves bound]
    exact (TreeServer.Later.refl _).disturbed.bind _ _
  · rename_i accepted
    exact ⟨_, _, rfl, (not_not.mp accepted).symm, .refl _, fun _ => ⟨_, rfl, bound⟩⟩

section Course

variable {msg : IoConnect} {w w₁ : Link σ}

/-- The course if `Walk` returns a fid. -/
private theorem connectOpen_found {path : FilePath}
    (walked : walk T (openPath msg) w = (.ok w.session.fidPool.nextFid, w₁))
    (view₁ : view w₁.transport =
      (view w.transport).disturbed.bind w.session.fidPool.nextFid (some path))
    (found : h.find w.session.rootFid w.session.fidPool.nextFid (splitPath (openPath msg))
      (view w.transport).disturbed = .path path) :
    ∃ result w', connectOpen T q openDefault msg w = (result, w') ∧
      (h.opening q msg w.session.rootFid w.session.fidPool.nextFid (view w.transport)).Ends
        (fun mode => openDefault mode (localFlags q msg)) (view w.transport) result
        (view w'.transport) := by
  let s := view w.transport
  let fid := w.session.fidPool.nextFid
  let flags := translateQnxToLinuxFlags q msg.ioflag
  unfold connectOpen Host.opening
  simp only [walked, found]
  -- the fid is bound to the file from here until the clunk
  have bound₁ : (view w₁.transport).fids fid = some path := by
    rw [view₁, TreeServer.bind_fids_self]
  obtain ⟨rc, w₂, opened, course⟩ := openFid_served serves bound₁ flags
  rw [view₁, TreeServer.bind_disturbed] at course
  simp only [flags, fid] at opened
  simp only [opened]
  cases refusal : h.openRefusal (s.disturbed.disturbed.bind fid (some path)).tree path flags with
  | some ecode =>
    simp only [s, fid, flags] at refusal
    simp only [flags, refusal] at course
    -- the server refuses the open, and `ConnectOpen` clunks the fid
    obtain ⟨⟨code, rfl, nonzero⟩, view₂⟩ := course
    have bound₂ : (view w₂.transport).fids fid = some path := by
      rw [view₂, TreeServer.bind_fids_self]
    refine ⟨_, _, rfl, neg_ne_eok nonzero, ?_⟩
    rw [clunk_served serves bound₂, view₂]
    exact ((TreeServer.Later.refl s).disturbed.disturbed.bind _ _).disturbed.bind _ _
  | none =>
    simp only [s, fid, flags] at refusal
    simp only [flags, refusal] at course
    obtain ⟨⟨iounit, rfl⟩, view₂⟩ := course
    have bound₂ : (view w₂.transport).fids fid = some path := by
      rw [view₂, TreeServer.opened_fids, TreeServer.bind_fids_self]
    -- a failed getattr leaves a mode of 0, and the open goes on
    obtain ⟨reported, w₃, attributes, view₃, stat⟩ := getAttr_served serves bound₂
    have bound₃ : (view w₃.transport).fids fid = some path := by
      rw [view₃, TreeServer.disturbed_fids, bound₂]
    simp only [fid] at attributes
    simp only [attributes]
    obtain ⟨result, w₄, checked, verdict, later, kept⟩ :=
      openOcb_served serves q openDefault msg ⟨fid, 0, iounit, _, _⟩ _ bound₃
    refine ⟨result, w₄, checked, ?_, ?_, kept⟩
    · rw [verdict, ← view₂]
      exact congrArg (fun stat => openDefault stat.mode (localFlags q msg)) stat
    · rw [view₃, view₂] at later
      exact later.of_disturbed

/-- The course if `Walk` returns `-ENOENT`. -/
private theorem connectOpen_missing (counted : CountedPath msg.path)
    (walked : walk T (openPath msg) w = (.error (-enoent), w₁))
    (root : w₁.session.rootFid = w.session.rootFid)
    (next : w₁.session.fidPool.nextFid = w.session.fidPool.nextFid + 1)
    (view₁ : view w₁.transport = (view w.transport).disturbed)
    (missing : h.find w.session.rootFid w.session.fidPool.nextFid (splitPath (openPath msg))
      (view w.transport).disturbed = .missing) :
    ∃ result w', connectOpen T q openDefault msg w = (result, w') ∧
      (h.opening q msg w.session.rootFid w.session.fidPool.nextFid (view w.transport)).Ends
        (fun mode => openDefault mode (localFlags q msg)) (view w.transport) result
        (view w'.transport) := by
  let s := view w.transport
  let fid := w.session.fidPool.nextFid + 1
  let flags := translateQnxToLinuxFlags q msg.ioflag ||| linuxOCreat
  let basename := (splitParent (openPath msg)).2
  unfold connectOpen Host.opening
  simp only [walked, missing]
  have later₁ : s.Later (view w₁.transport) := by
    rw [view₁]
    exact (TreeServer.Later.refl s).disturbed
  -- without `O_CREAT` a missing file is an error
  by_cases keep : msg.ioflag &&& q.oCreat = 0
  · simp only [keep]
    exact ⟨_, _, rfl, by decide, later₁⟩
  simp only [keep, ne_eq, not_false_eq_true, and_self, if_true, false_or]
  unfold walkParent
  -- `WalkParent` refuses a path without a last component
  by_cases nameless : basename = []
  · simp only [basename] at nameless
    simp only [if_pos nameless]
    exact ⟨_, _, rfl, by decide, later₁⟩
  simp only [basename] at nameless
  simp only [if_neg nameless]
  obtain ⟨rc, w₂, walked, -, -, course⟩ := walk_served serves w₁ counted.openPath.parent.walks
  rw [root, next, view₁] at course
  simp only [walked]
  cases above : h.find w.session.rootFid (w.session.fidPool.nextFid + 1)
      (splitPath (splitParent (openPath msg)).1) s.disturbed.disturbed with
  | path directory =>
    simp only [s] at above
    simp only [above] at course
    obtain ⟨rfl, view₂⟩ := course
    have bound₂ : (view w₂.transport).fids fid = some directory := by
      rw [view₂, TreeServer.bind_fids_self]
    obtain ⟨rc, w₃, created, course⟩ := create_served serves bound₂ counted.openPath.basename
      (createFlags_noExcl q msg.ioflag) 0o644 0
    rw [view₂, TreeServer.bind_disturbed] at course
    simp only [fid] at created
    simp only [Except.map, created]
    cases refusal : h.createRefusal (s.disturbed.disturbed.disturbed.bind fid
        (some directory)).tree directory basename flags with
    | some ecode =>
      simp only [s, fid, basename, flags] at refusal
      simp only [refusal] at course
      -- the server refuses the create, and the directory is clunked
      obtain ⟨⟨code, rfl, nonzero⟩, view₃⟩ := course
      have bound₃ : (view w₃.transport).fids fid = some directory := by
        rw [view₃, TreeServer.bind_fids_self]
      refine ⟨_, _, rfl, neg_ne_eok nonzero, ?_⟩
      rw [clunk_served serves bound₃, view₃]
      exact ((TreeServer.Later.refl s).disturbed.disturbed.disturbed.bind _ _).disturbed.bind _ _
    | none =>
      simp only [s, fid, basename, flags] at refusal
      simp only [refusal] at course
      -- the fid of the directory is that of the new file now
      obtain ⟨⟨⟨qid, iounit⟩, rfl⟩, view₃⟩ := course
      have bound₃ : (view w₃.transport).fids fid = some (directory ++ [basename]) := by
        rw [view₃, TreeServer.bind_fids_self]
      obtain ⟨result, w₄, checked, verdict, later, kept⟩ := openOcb_served serves q openDefault
        msg ⟨fid, 0, iounit, false, translateQnxToLinuxFlags q msg.ioflag⟩ _ bound₃
      rw [view₃] at later
      exact ⟨result, w₄, checked, verdict, later, kept⟩
  | missing =>
    simp only [s] at above
    simp only [above] at course
    obtain ⟨rfl, view₂⟩ := course
    refine ⟨_, _, rfl, by decide, ?_⟩
    rw [view₂, ← view₁]
    exact later₁.disturbed
  | refused ecode =>
    simp only [s] at above
    simp only [above] at course
    obtain ⟨⟨code, rfl, nonzero, -⟩, view₂⟩ := course
    refine ⟨_, _, rfl, neg_ne_eok nonzero, ?_⟩
    rw [view₂, ← view₁]
    exact later₁.disturbed

end Course

/-- What `ConnectOpen` returns and leaves on the server. -/
theorem connectOpen_served {msg : IoConnect} (counted : CountedPath msg.path) (w : Link σ) :
    ∃ result w', connectOpen T q openDefault msg w = (result, w') ∧
      (h.opening q msg w.session.rootFid w.session.fidPool.nextFid (view w.transport)).Ends
        (fun mode => openDefault mode (localFlags q msg)) (view w.transport) result
        (view w'.transport) := by
  obtain ⟨rc, w₁, walked, root, next, course⟩ := walk_served serves w counted.openPath.walks
  cases found : h.find w.session.rootFid w.session.fidPool.nextFid (splitPath (openPath msg))
      (view w.transport).disturbed with
  | path path =>
    simp only [found] at course
    obtain ⟨rfl, view₁⟩ := course
    exact connectOpen_found serves q openDefault walked view₁ found
  | missing =>
    simp only [found] at course
    obtain ⟨rfl, view₁⟩ := course
    exact connectOpen_missing serves q openDefault counted walked root next view₁ found
  | refused ecode =>
    simp only [found] at course
    obtain ⟨⟨code, rfl, nonzero, other⟩, view₁⟩ := course
    -- an error other than `-ENOENT` is not followed by a create
    unfold connectOpen Host.opening
    simp only [walked, found, if_neg fun missing : code = -enoent ∧ _ => other missing.1]
    refine ⟨_, _, rfl, neg_ne_eok nonzero, ?_⟩
    rw [view₁]
    exact (TreeServer.Later.refl _).disturbed

end Served

end Virtio9p
