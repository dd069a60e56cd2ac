import Mathlib.Logic.Function.Basic
import Virtio9p.Protocol.ReturnCodes
import Virtio9p.Server.FidTable

/-!
# A server with a file tree

What a 9P2000.L server does to its file tree and its fids when it opens, creates and looks up
files, while other processes of the host change the tree between the requests.
-/
namespace Virtio9p

open Cursor NinePMessage

/-- The names from the root of the host's files. -/
abbrev FilePath := List Bytes

inductive FileNode where
  | file (contents : Bytes)
  /-- A directory, a link or a device. -/
  | other
  deriving DecidableEq, Repr

abbrev FileTree := FilePath → Option FileNode

/-- What a request has done to the tree. -/
inductive TreeEffect where
  | created (path : FilePath)
  | truncated (path : FilePath)
  deriving DecidableEq, Repr

def ebadf : UInt32 := 9
def eexist : UInt32 := 17

/-- `O_EXCL` on the wire; the driver has no name for it. -/
def linuxOExcl : UInt32 := 0x0080

/-- What a host decides: where a name leads, which requests it refuses and with which error,
and what it reports about a file. -/
structure Host where
  /-- `none` if nothing is there or the directory may not be searched. -/
  lookup : FileTree → FilePath → Bytes → Option FilePath
  present : ∀ tree path name path', lookup tree path name = some path' → tree path' ≠ none
  walkRefusal : FidTable FilePath → FileTree → UInt32 → UInt32 → List Bytes → Option UInt32
  /-- A missing name is no refusal. -/
  honest : ∀ fids tree fid newfid names, walkRefusal fids tree fid newfid names ≠ some 2
  openRefusal : FileTree → FilePath → UInt32 → Option UInt32
  createRefusal : FileTree → FilePath → Bytes → UInt32 → Option UInt32
  attributes : FileTree → FilePath → Except UInt32 NinePStat
  qid : FileTree → FilePath → Qid
  iounit : FileTree → FilePath → UInt32

structure TreeServer where
  tree : FileTree
  fids : FidTable FilePath
  /-- What other processes of the host do before each of the next requests. -/
  pending : List (FileTree → FileTree)
  /-- Ghost: what the requests have done to the tree. -/
  effects : List TreeEffect

namespace TreeServer

variable (s : TreeServer)

/-- The next change of another process. -/
def disturbed : TreeServer :=
  match s.pending with
  | [] => s
  | change :: pending => { s with tree := change s.tree, pending := pending }

@[simp] theorem disturbed_fids : s.disturbed.fids = s.fids := by
  unfold disturbed
  split <;> rfl

@[simp] theorem disturbed_effects : s.disturbed.effects = s.effects := by
  unfold disturbed
  split <;> rfl

def bind (fid : UInt32) (path : Option FilePath) : TreeServer :=
  { s with fids := Function.update s.fids fid path }

@[simp] theorem bind_tree (fid : UInt32) (path : Option FilePath) :
    (s.bind fid path).tree = s.tree := rfl

@[simp] theorem bind_effects (fid : UInt32) (path : Option FilePath) :
    (s.bind fid path).effects = s.effects := rfl

/-- An open with `O_TRUNC` empties a file. -/
def opened (path : FilePath) (flags : UInt32) : TreeServer :=
  match s.tree path with
  | some (.file (_ :: _)) =>
    if flags &&& linuxOTrunc ≠ 0 then
      { s with
        tree := Function.update s.tree path (some (.file []))
        effects := s.effects ++ [.truncated path] }
    else s
  | _ => s

/-- A create makes a file where there is none, and opens one that is there. -/
def createdAt (path : FilePath) (flags : UInt32) : TreeServer :=
  match s.tree path with
  | none =>
    { s with
      tree := Function.update s.tree path (some (.file []))
      effects := s.effects ++ [.created path] }
  -- `O_EXCL` has been dealt with in `createFile`
  | some _ => s.opened path flags

/-- `s'` is `s` but for its fids and for what other processes do in between. -/
def Later (s' : TreeServer) : Prop :=
  ∃ k, s'.tree = (disturbed^[k] s).tree ∧ s'.pending = (disturbed^[k] s).pending ∧
    s'.effects = s.effects

def clunk (fid : UInt32) : Response × TreeServer :=
  match s.fids fid with
  | none => (.rlerror ebadf, s)
  | some _ => (.rclunk, s.bind fid none)

variable {s} {s' : TreeServer}

theorem disturbed_eq (quiet : s.pending = []) : s.disturbed = s := by
  unfold disturbed
  rw [quiet]

theorem Later.refl (s : TreeServer) : s.Later s := ⟨0, rfl, rfl, rfl⟩

theorem Later.effects_eq (later : s.Later s') : s'.effects = s.effects := by
  obtain ⟨k, -, -, effects⟩ := later
  exact effects

theorem Later.bind (later : s.Later s') (fid : UInt32) (path : Option FilePath) :
    s.Later (s'.bind fid path) := later

theorem disturbed_congr (tree : s'.tree = s.tree) (pending : s'.pending = s.pending) :
    s'.disturbed.tree = s.disturbed.tree ∧ s'.disturbed.pending = s.disturbed.pending := by
  unfold disturbed
  rw [pending]
  cases s.pending with
  | nil => exact ⟨tree, pending⟩
  | cons change rest => exact ⟨congrArg change tree, rfl⟩

theorem Later.disturbed (later : s.Later s') : s.Later s'.disturbed := by
  obtain ⟨k, tree, pending, effects⟩ := later
  obtain ⟨tree, pending⟩ := disturbed_congr tree pending
  refine ⟨k + 1, ?_, ?_, ?_⟩
  · rw [tree, Function.iterate_succ_apply']
  · rw [pending, Function.iterate_succ_apply']
  · rw [disturbed_effects, effects]

theorem Later.of_disturbed (later : s.disturbed.Later s') : s.Later s' := by
  obtain ⟨k, tree, pending, effects⟩ := later
  refine ⟨k + 1, ?_, ?_, ?_⟩
  · rw [tree, Function.iterate_succ_apply]
  · rw [pending, Function.iterate_succ_apply]
  · rw [effects, disturbed_effects]

/-- If no other process changes the tree, a later server has the same one. -/
theorem Later.tree_eq (later : s.Later s') (quiet : s.pending = []) : s'.tree = s.tree := by
  obtain ⟨k, tree, -⟩ := later
  rw [tree, Function.iterate_fixed (disturbed_eq quiet)]

end TreeServer

/-! ### What an open does to the tree -/

/-- The flags empty the file at `path`. -/
def Truncates (flags : UInt32) (tree : FileTree) (path : FilePath) : Prop :=
  flags &&& linuxOTrunc ≠ 0 ∧ ∃ b bs, tree path = some (.file (b :: bs))

namespace TreeServer

variable (s : TreeServer) (path : FilePath) (flags : UInt32)

theorem opened_pending : (s.opened path flags).pending = s.pending := by
  unfold opened
  split
  · split <;> rfl
  · rfl

theorem createdAt_pending : (s.createdAt path flags).pending = s.pending := by
  unfold createdAt
  split
  · rfl
  · exact s.opened_pending path flags

theorem opened_bind (fid : UInt32) (target : Option FilePath) :
    (s.bind fid target).opened path flags = (s.opened path flags).bind fid target := by
  unfold opened
  rw [bind_tree]
  split
  · split <;> rfl
  · rfl

theorem createdAt_bind (fid : UInt32) (target : Option FilePath) :
    (s.bind fid target).createdAt path flags = (s.createdAt path flags).bind fid target := by
  unfold createdAt
  rw [bind_tree]
  split
  · rfl
  · exact s.opened_bind path flags fid target

variable {s path flags}

theorem opened_truncated (truncates : Truncates flags s.tree path) :
    s.opened path flags = { s with
      tree := Function.update s.tree path (some (.file []))
      effects := s.effects ++ [.truncated path] } := by
  obtain ⟨flag, b, bs, here⟩ := truncates
  unfold opened
  simp only [here, if_pos flag]

theorem opened_kept (keeps : ¬ Truncates flags s.tree path) : s.opened path flags = s := by
  unfold opened
  split
  · rename_i b bs here
    exact if_neg fun flag => keeps ⟨flag, b, bs, here⟩
  · rfl

theorem opened_tree_iff : (s.opened path flags).tree = s.tree ↔ ¬ Truncates flags s.tree path := by
  constructor
  · intro same truncates
    rw [opened_truncated truncates] at same
    obtain ⟨-, b, bs, here⟩ := truncates
    -- the file is empty now
    have emptied : Function.update s.tree path (some (.file [])) path = s.tree path :=
      congrFun same path
    rw [Function.update_self, here] at emptied
    cases emptied
  · intro keeps
    rw [opened_kept keeps]

theorem opened_effects_iff :
    (s.opened path flags).effects = s.effects ↔ ¬ Truncates flags s.tree path := by
  constructor
  · intro same truncates
    -- an effect too many
    rw [opened_truncated truncates] at same
    exact List.cons_ne_nil _ _ (List.append_right_eq_self.mp same)
  · intro keeps
    rw [opened_kept keeps]

/-- No open creates a file. -/
theorem opened_not_created (made : FilePath) :
    (s.opened path flags).effects ≠ s.effects ++ [.created made] := by
  intro created
  by_cases truncates : Truncates flags s.tree path
  · rw [opened_truncated truncates] at created
    cases (List.append_cancel_left created)
  · rw [opened_kept truncates] at created
    exact List.cons_ne_nil _ _ (List.append_right_eq_self.mp created.symm)

theorem createdAt_present (present : s.tree path ≠ none) :
    s.createdAt path flags = s.opened path flags := by
  unfold createdAt
  split
  · contradiction
  · rfl

/-- A create says that it has made a file exactly if there was none. -/
theorem createdAt_effects_iff :
    (s.createdAt path flags).effects = s.effects ++ [.created path] ↔ s.tree path = none := by
  constructor
  · intro created
    -- a file that is there is opened, and no open makes one
    by_contra present
    rw [createdAt_present present] at created
    exact opened_not_created path created
  · intro absent
    unfold createdAt
    rw [absent]

theorem createdAt_tree_iff : (s.createdAt path flags).tree = s.tree ↔
    ¬ (s.tree path = none ∨ Truncates flags s.tree path) := by
  unfold createdAt
  split
  · rename_i absent
    refine iff_of_false ?_ (not_not_intro (.inl absent))
    intro same
    -- there is a file now
    have made : Function.update s.tree path (some (.file [])) path = s.tree path :=
      congrFun same path
    rw [Function.update_self, absent] at made
    cases made
  · rename_i node here
    rw [opened_tree_iff, not_or]
    exact ⟨fun keeps => ⟨by rw [here]; exact Option.some_ne_none node, keeps⟩, And.right⟩

end TreeServer

namespace Host

variable (h : Host)

/-- The paths that the names of a walk lead to, as far as there are any. -/
def reached (tree : FileTree) : FilePath → List Bytes → List FilePath
  | _, [] => []
  | path, name :: names =>
    match h.lookup tree path name with
    | none => []
    | some path' => path' :: reached tree path' names

/-- All names of a walk lead somewhere. -/
def Resolves (tree : FileTree) (path : FilePath) (names : List Bytes) : Prop :=
  (h.reached tree path names).length = names.length

instance (tree : FileTree) (path : FilePath) (names : List Bytes) :
    Decidable (h.Resolves tree path names) :=
  inferInstanceAs (Decidable (_ = _))

/-- The end of a walk. -/
def destination (tree : FileTree) (path : FilePath) (names : List Bytes) : FilePath :=
  ((h.reached tree path names).getLast?).getD path

def walk (fid newfid : UInt32) (names : List Bytes) (s : TreeServer) : Response × TreeServer :=
  match s.fids fid with
  -- an unknown fid
  | none => (.rlerror ebadf, s)
  | some path =>
    match h.walkRefusal s.fids s.tree fid newfid names with
    | some ecode => (.rlerror ecode, s)
    | none =>
      let paths := h.reached s.tree path names
      -- the first name is missing, a later one, or none
      if paths = [] ∧ names ≠ [] then (.rlerror 2, s)
      else if h.Resolves s.tree path names then
        (.rwalk (paths.map (h.qid s.tree)), s.bind newfid (some (h.destination s.tree path names)))
      else (.rwalk (paths.map (h.qid s.tree)), s)

/-- How a walk comes out. -/
inductive Found where
  | path (path : FilePath)
  | missing
  | refused (ecode : UInt32)
  deriving DecidableEq, Repr

def find (fid newfid : UInt32) (names : List Bytes) (s : TreeServer) : Found :=
  match s.fids fid with
  | none => .refused ebadf
  | some path =>
    match h.walkRefusal s.fids s.tree fid newfid names with
    | some ecode => .refused ecode
    | none =>
      if h.Resolves s.tree path names then .path (h.destination s.tree path names) else .missing

def openFile (fid flags : UInt32) (s : TreeServer) : Response × TreeServer :=
  match s.fids fid with
  | none => (.rlerror ebadf, s)
  | some path =>
    match h.openRefusal s.tree path flags with
    | some ecode => (.rlerror ecode, s)
    | none => (.rlopen (h.qid s.tree path) (h.iounit s.tree path), s.opened path flags)

/-- The attributes that a client works with; a request that is refused leaves it with zeros. -/
def statOf (tree : FileTree) (path : FilePath) : NinePStat :=
  match h.attributes tree path with
  | .ok stat => stat
  | .error _ => NinePStat.zero

def getAttributes (fid : UInt32) (s : TreeServer) : Response :=
  match s.fids fid with
  | none => .rlerror ebadf
  | some path =>
    match h.attributes s.tree path with
    | .error ecode => .rlerror ecode
    | .ok stat => .rgetattr stat

/-- The fid of the directory becomes that of the file. -/
def createFile (fid : UInt32) (name : Bytes) (flags : UInt32) (s : TreeServer) :
    Response × TreeServer :=
  match s.fids fid with
  | none => (.rlerror ebadf, s)
  | some directory =>
    let path := directory ++ [name]
    match h.createRefusal s.tree directory name flags with
    | some ecode => (.rlerror ecode, s)
    | none =>
      -- what `O_CREAT | O_EXCL` asks for
      if s.tree path ≠ none ∧ flags &&& linuxOExcl ≠ 0 then (.rlerror eexist, s)
      else
        (.rlcreate (h.qid s.tree path) (h.iounit s.tree path),
          (s.createdAt path flags).bind fid (some path))

/-- The answer to a request and the server after it; `none` for the requests that are not
described here. -/
def serve (r : Request) (s : TreeServer) : Option (Response × TreeServer) :=
  match r with
  | .twalk fid newfid names => some (h.walk fid newfid names s.disturbed)
  | .tlopen fid flags => some (h.openFile fid flags s.disturbed)
  | .tgetattr fid _ => some (h.getAttributes fid s.disturbed, s.disturbed)
  | .tclunk fid => some (s.disturbed.clunk fid)
  | .tlcreate fid name flags _ _ => some (h.createFile fid name flags s.disturbed)
  | _ => none

end Host

/-- A request with no part too long for its length field. -/
def Request.Sized (r : Request) : Prop := r.Fits ∧ 7 + r.payload.length < 2 ^ 32

/-- A transport without failures to a server that answers as the host does. -/
structure Transport.ServesTree {σ : Type} (T : Transport σ) (h : Host) (view : σ → TreeServer) :
    Prop where
  serves : ∀ s tag (r : Request) answer, r.Sized → h.serve r (view s) = some answer → ∃ s',
    T.exchange (r.build tag).data s = ((0, (answer.1.encode (r.sentTag tag)).data), s') ∧
      view s' = answer.2

/-! ### A server that reads the bytes -/

/-- Read a request of one of these types. -/
def Request.readIn (types : List MessageType) (request : Bytes) : Option Request :=
  let m := ofData request
  (types.find? fun type => type.code = m.getType).bind fun type => (readFields type m).1

theorem Request.readIn_build {types : List MessageType} {r : Request} (sized : r.Sized)
    (kind : r.type ∈ types) (tag : UInt16) : Request.readIn types (r.build tag).data = some r := by
  have type : (ofData (r.build tag).data).getType = r.type.code :=
    getType_of_header (r.build_data tag)
  -- no two types have one code
  have found : types.find? (fun type => type.code = r.type.code) = some r.type := by
    cases first : types.find? fun type => type.code = r.type.code with
    | none => exact absurd (decide_eq_true rfl) (List.find?_eq_none.mp first r.type kind)
    | some type =>
      have same := List.find?_some first
      rw [MessageType.code_injective (of_decide_eq_true same)]
  have whole := decoder_whole (m := ofData (r.build tag).data) (consumes_readFields r sized.1)
    (by rw [ofData, build_length]; exact Nat.le_add_right 7 _) (drop_header (r.build_data tag))
    (by rw [ofData, build_length]; exact sized.2) rfl
  simp only [Request.readIn, type, found, Option.bind_some]
  exact congrArg Prod.fst whole

/-- The requests that `Host.serve` answers. -/
def fileRequests : List MessageType := [.twalk, .tlopen, .tgetattr, .tclunk, .tlcreate]

def Request.read (request : Bytes) : Option Request := Request.readIn fileRequests request

theorem Request.read_build {r : Request} (sized : r.Sized) (kind : r.type ∈ fileRequests)
    (tag : UInt16) : Request.read (r.build tag).data = some r :=
  Request.readIn_build sized kind tag

def treeServer (h : Host) : Transport TreeServer where
  exchange request s :=
    let tag := UInt16.ofNat (LittleEndian.decode ((request.drop 5).take 2))
    match (Request.read request).bind fun r => h.serve r s with
    | none => ((-eio, []), s)
    | some answer => ((0, (answer.1.encode tag).data), answer.2)

/-- A host with regular files only that refuses nothing. -/
def plainHost : Host where
  lookup tree path name := if tree (path ++ [name]) = none then none else some (path ++ [name])
  present tree path name path' found := by
    split at found
    · cases found
    · rename_i there
      cases found
      exact there
  walkRefusal _ _ _ _ _ := none
  honest _ _ _ _ _ := nofun
  openRefusal _ _ _ := none
  createRefusal _ _ _ _ := none
  attributes _ _ := .ok { NinePStat.zero with mode := 0o100644 }
  qid _ _ := ⟨0, 0, 0⟩
  iounit _ _ := 0

/-- The file `a` with one byte. -/
def oneFile : FileTree := fun path => if path = [[97]] then some (.file [120]) else none

/-- A session whose fid 0 is attached to the root. -/
def attachedTo (tree : FileTree) (pending : List (FileTree → FileTree)) : Link TreeServer :=
  ⟨NinePSession.new.allocateFid.2,
    ⟨tree, fun fid => if fid = 0 then some [] else none, pending, []⟩, []⟩

theorem Host.serve_kind {h : Host} {r : Request} {s : TreeServer} {answer : Response × TreeServer}
    (served : h.serve r s = some answer) : r.type ∈ fileRequests := by
  unfold fileRequests
  cases r with
  | twalk fid newfid names => exact .head _
  | tlopen fid flags => exact .tail _ (.head _)
  | tgetattr fid requestMask => exact .tail _ (.tail _ (.head _))
  | tclunk fid => exact .tail _ (.tail _ (.tail _ (.head _)))
  | tlcreate fid name flags mode gid => exact .tail _ (.tail _ (.tail _ (.tail _ (.head _))))
  | _ => cases served

theorem treeServer_serves (h : Host) : (treeServer h).ServesTree h id := by
  constructor
  intro s tag r answer sized served
  refine ⟨answer.2, ?_, rfl⟩
  -- the server reads back what the client has built
  have read := Request.read_build sized (Host.serve_kind served) tag
  simp only [id_eq] at served
  simp only [treeServer, read, Option.bind_some, served, Request.tag_build]

end Virtio9p
