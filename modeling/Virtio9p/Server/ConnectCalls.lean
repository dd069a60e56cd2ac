import Virtio9p.Resmgr.HandlerAttempts
import Virtio9p.Server.ServiceCalls

/-!
# Connect handlers on a file service

Each connect handler comes to the operation that it stands for, with no fid left over. A path is
walked to at most twice in a call, and every walk takes a number from the pool.
-/
namespace Virtio9p

open Attempt

variable {σ ν φ : Type}

/-- A handler returns the error number behind a negated code. -/
def Negated (rc errno : Int32) : Prop := rc = -errno

theorem couples_negated {α β : Type} {Pre Fail : Link σ → φ → Prop}
    {Done : α → β → Link σ → φ → Prop} {x : Attempt (Link σ) Int32 α} {y : Attempt φ Int32 β}
    (couples : Couples Refused Pre Fail Done x y) : Couples Negated Pre Fail Done x y :=
  couples.err fun _ _ refused => refused.1

/-- The two sides of an open file. -/
structure Stands (ocb : Virtio9pOcb) (file : OpenFile ν) : Prop where
  offset : ocb.offset = file.offset
  iounit : ocb.iounit = file.iounit
  isDirectory : ocb.isDirectory = file.isDirectory
  small : file.iounit.toNat + 24 ≤ maxMessageSize.toNat

section Handlers

variable {T : Transport σ} {f : FileService ν φ} {view : σ → ServiceState ν φ}
  (provides : T.Provides f view) {root : ν} {spare : Nat} {held : List (UInt32 × ν)}

include provides

/-- What a failed attempt leaves of a fid is given back. -/
theorem protect_couples {α β : Type} {Done : α → β → Link σ → φ → Prop} {fid : UInt32} {object : ν}
    {x : Attempt (Link σ) Int32 α} {y : Attempt φ Int32 β} {Pre : Link σ → φ → Prop}
    (body : Couples Negated Pre (Tracks view root spare ((fid, object) :: held)) Done x y) :
    Couples Negated Pre (Tracks view root spare held) Done
      (x.protect fun w => (clunk T fid w).2) (y.protect (f.clunk object)) :=
  body.protect fun _ _ tracks => clunk_tracks provides tracks

theorem cleanup_couples {α β : Type} {Value : α → β → Prop} {fid : UInt32} {object : ν}
    {x : Attempt (Link σ) Int32 α} {y : Attempt φ Int32 β} {Pre : Link σ → φ → Prop}
    (body : Couples Negated Pre (Tracks view root spare ((fid, object) :: held))
      (fun a b w s => Value a b ∧ Tracks view root spare ((fid, object) :: held) w s) x y) :
    Couples Negated Pre (Tracks view root spare held)
      (fun a b w s => Value a b ∧ Tracks view root spare held w s)
      (x.cleanup fun w => (clunk T fid w).2) (y.cleanup (f.clunk object)) :=
  body.cleanup fun _ _ tracks => clunk_tracks provides tracks

/-- The first of two walks. -/
theorem firstWalk_couples {path : Bytes} (counted : CountedPath path) :
    Couples Negated (Tracks view root (spare + 2) held) (Tracks view root spare held)
      (fun parent entry w s => (parent.2 = entry.2 ∧ entry.2.length ≤ path.length) ∧
        Tracks view root (spare + 1) ((parent.1, entry.1) :: held) w s)
      (walkParent T path) (f.resolveParent root path) :=
  (couples_negated (walkParent_couples provides counted)).weaken (fun _ _ tracks => tracks)
    (fun _ _ tracks => tracks.fewer (Nat.le_succ spare)) fun _ _ _ _ done => done

/-! ### Entries of directories -/

theorem mknod_couples {msg : IoConnect} (counted : CountedPath msg.path) :
    Couples Negated (Tracks view root (spare + 1) held) (Tracks view root spare held)
      (fun _ _ w s => True ∧ Tracks view root spare held w s)
      (mknodAttempt T msg) (f.makeDirectory root msg) := by
  simp only [mknodAttempt, FileService.makeDirectory]
  by_cases nameless : msg.path = []
  · rw [if_pos nameless, if_pos nameless]
    exact couples_fail rfl fun _ _ tracks => tracks.fewer (Nat.le_succ spare)
  · rw [if_neg nameless, if_neg nameless]
    by_cases kind : ¬ sIsdir msg.mode
    · rw [if_pos kind, if_pos kind]
      exact couples_fail rfl fun _ _ tracks => tracks.fewer (Nat.le_succ spare)
    · rw [if_neg kind, if_neg kind]
      refine (couples_negated (walkParent_couples provides counted)).bind ?_
      rintro ⟨fid, name⟩ ⟨directory, name'⟩ w s ⟨⟨rfl, short⟩, tracks⟩
      have here : (fid, directory) ∈ (fid, directory) :: held := List.mem_cons_self
      have named : name.length < 2 ^ 16 := Nat.lt_of_le_of_lt short counted
      exact cleanup_couples provides ((couples_negated (mkdir_couples provides here named _ _)).bind
        fun _ _ => couples_pure fun _ _ made => ⟨trivial, made.2⟩) w s tracks

/-- The flags are those for the object that the path leads to, if it leads to any. -/
theorem flags_couples {path : Bytes} (counted : CountedPath path) :
    Couples Negated (Tracks view root (spare + 1) held) (Tracks view root spare held)
      (fun flags flags' w s => flags = flags' ∧ Tracks view root spare held w s)
      (flagsAttempt T path) (f.removalFlags root path) := by
  refine (walk_couples provides counted).fold ?_ ?_
  · intro fid object
    refine cleanup_couples provides ?_
    apply (getAttr_couples provides List.mem_cons_self).fold
    · rintro stat stat' w s ⟨rfl, tracks⟩
      exact ⟨rfl, tracks⟩
    · -- without attributes the flags are zero
      exact fun _ _ _ => couples_pure fun _ _ tracks => ⟨rfl, tracks⟩
  · exact fun _ _ _ => couples_pure fun _ _ tracks => ⟨rfl, tracks⟩

theorem unlink_handler_couples {msg : IoConnect} (counted : CountedPath msg.path) :
    Couples Negated (Tracks view root (spare + 2) held) (Tracks view root spare held)
      (fun _ _ w s => True ∧ Tracks view root spare held w s)
      (unlinkAttempt T msg) (f.removeEntry root msg) := by
  simp only [unlinkAttempt, FileService.removeEntry]
  by_cases nameless : msg.path = []
  · rw [if_pos nameless, if_pos nameless]
    exact couples_fail rfl fun _ _ tracks => tracks.fewer (Nat.le_add_right spare 2)
  · rw [if_neg nameless, if_neg nameless]
    refine (firstWalk_couples provides counted).bind ?_
    rintro ⟨fid, name⟩ ⟨directory, name'⟩ w s ⟨⟨rfl, short⟩, tracks⟩
    refine cleanup_couples provides ((flags_couples provides counted).bind ?_) w s tracks
    rintro flags flags' w s ⟨rfl, tracks⟩
    have removed := couples_negated
      (unlink_couples provides List.mem_cons_self (Nat.lt_of_le_of_lt short counted) flags)
        w s tracks
    exact removed.mono (fun _ _ tracks => tracks) fun _ _ _ _ tracks => ⟨trivial, tracks⟩

theorem rename_handler_couples {msg : IoRename} (counted : CountedPath msg.path)
    (counted' : CountedPath msg.newPath)
    (fits : msg.path.length + msg.newPath.length ≤ 131053) :
    Couples Negated (Tracks view root (spare + 2) held) (Tracks view root spare held)
      (fun _ _ w s => True ∧ Tracks view root spare held w s)
      (renameAttempt T msg) (f.renameEntry root msg) := by
  simp only [renameAttempt, FileService.renameEntry]
  by_cases nameless : msg.path = []
  · rw [if_pos nameless, if_pos nameless]
    exact couples_fail rfl fun _ _ tracks => tracks.fewer (Nat.le_add_right spare 2)
  · rw [if_neg nameless, if_neg nameless]
    refine (firstWalk_couples provides counted).bind ?_
    rintro ⟨fid, name⟩ ⟨directory, name'⟩ w s ⟨⟨rfl, short⟩, tracks⟩
    refine (protect_couples provides
      (couples_negated (walkParent_couples provides counted'))).bind ?_ w s tracks
    rintro ⟨fid', newName⟩ ⟨directory', newName'⟩ w s ⟨⟨rfl, short'⟩, tracks⟩
    let all := (fid', directory') :: (fid, directory) :: held
    have new : (fid', directory') ∈ all := List.mem_cons_self
    have old : (fid, directory) ∈ all := List.mem_cons_of_mem _ List.mem_cons_self
    have renamed : Couples Negated (Tracks view root spare all) (Tracks view root spare all)
        (fun _ _ w s => True ∧ Tracks view root spare all w s) (rename T fid name fid' newName)
        (hosted (f.renameat directory name directory' newName)) :=
      (couples_negated (rename_couples provides old new (Nat.lt_of_le_of_lt short counted)
        (Nat.lt_of_le_of_lt short' counted') (by omega))).weaken
        (fun _ _ tracks => tracks) (fun _ _ tracks => tracks)
        fun _ _ _ _ tracks => ⟨trivial, tracks⟩
    -- the old directory is clunked first
    exact renamed.cleanup (fun w s tracks => clunk_tracks provides
      (clunk_tracks provides (tracks.perm (List.Perm.swap _ _ _)))) w s tracks

/-! ### Opening -/

section Open

variable {q : Qnx} {openDefault : UInt32 → UInt32 → Int32} {msg : IoConnect}

/-- An open file is bound to the fid of its OCB. -/
def Opened (view : σ → ServiceState ν φ) (root : ν) (spare : Nat) (held : List (UInt32 × ν))
    (ocb : ExtOcb) (file : OpenFile ν) (w : Link σ) (s : φ) : Prop :=
  Stands ocb.data file ∧ Tracks view root spare ((ocb.data.fid, file.object) :: held) w s

omit provides in
/-- The client's check sees the same mode on both sides. -/
theorem ocb_couples {ocb : Virtio9pOcb} {file : OpenFile ν} {stat : NinePStat} {mode : UInt32}
    (same : stat.mode = mode) (stands : Stands ocb file) :
    Couples Negated (Tracks view root spare ((ocb.fid, file.object) :: held))
      (Tracks view root spare ((ocb.fid, file.object) :: held)) (Opened view root spare held)
      (ocbAttempt q openDefault msg ocb stat) (FileService.grant q openDefault msg mode file) := by
  subst same
  simp only [ocbAttempt, FileService.grant]
  by_cases refused : openDefault stat.mode (localFlags q msg) ≠ eok
  · rw [if_pos refused, if_pos refused]
    exact couples_fail rfl fun _ _ tracks => tracks
  · rw [if_neg refused, if_neg refused]
    exact couples_pure fun _ _ tracks => ⟨stands, tracks⟩

theorem stat_couples {fid : UInt32} {object : ν} (member : (fid, object) ∈ held) :
    Couples Negated (Tracks view root spare held) (Tracks view root spare held)
      (fun stat stat' w s => stat = stat' ∧ Tracks view root spare held w s)
      (statAttempt T fid) (f.statOrZero object) := by
  apply (getAttr_couples provides member).fold
  · exact fun _ _ => couples_pure fun _ _ done => done
  · exact fun _ _ _ => couples_pure fun _ _ tracks => ⟨rfl, tracks⟩

theorem openExisting_couples (fid : UInt32) (object : ν) :
    Couples Negated (Tracks view root spare ((fid, object) :: held)) (Tracks view root spare held)
      (Opened view root spare held)
      (openExistingAttempt T q openDefault msg fid) (f.openExisting q openDefault msg object) := by
  have here : (fid, object) ∈ (fid, object) :: held := List.mem_cons_self
  refine protect_couples provides ((couples_negated (openFid_couples provides here _)).bind ?_)
  rintro iounit ⟨qid, iounit'⟩ w s ⟨small, rfl, tracks⟩
  refine (stat_couples provides here).bind ?_ w s tracks
  rintro stat stat' w s ⟨rfl, tracks⟩
  have stands : Stands ⟨fid, 0, iounit, stat.mode &&& 0o040000 ≠ 0,
      translateQnxToLinuxFlags q msg.ioflag⟩
      (⟨object, 0, iounit, stat.mode &&& 0o040000 ≠ 0⟩ : OpenFile ν) := ⟨rfl, rfl, rfl, small⟩
  exact ocb_couples rfl stands w s tracks

theorem openNew_couples (counted : CountedPath (openPath msg)) :
    Couples Negated (Tracks view root (spare + 1) held) (Tracks view root spare held)
      (Opened view root spare held)
      (openNewAttempt T q openDefault msg) (f.openNew root q openDefault msg) := by
  refine (couples_negated (walkParent_couples provides counted)).bind ?_
  rintro ⟨fid, name⟩ ⟨directory, name'⟩ w s ⟨⟨rfl, short⟩, tracks⟩
  refine (protect_couples provides (couples_negated (create_couples provides
    (Nat.lt_of_le_of_lt short counted) _ _ _))).bind ?_
    w s tracks
  rintro made ⟨object, qid, iounit⟩ w s ⟨small, rfl, tracks⟩
  -- the fid now stands for the new file
  have stands : Stands ⟨fid, 0, iounit, false, translateQnxToLinuxFlags q msg.ioflag⟩
      (⟨object, 0, iounit, false⟩ : OpenFile ν) := ⟨rfl, rfl, rfl, small⟩
  exact protect_couples provides (ocb_couples rfl stands) w s tracks

theorem open_couples (counted : CountedPath msg.path) :
    Couples Negated (Tracks view root (spare + 2) held) (Tracks view root spare held)
      (Opened view root spare held)
      (openAttempt T q openDefault msg) (f.openPathname root q openDefault msg) := by
  refine (walk_couples provides counted.openPath).fold ?_ ?_
  · intro fid object w s tracks
    exact openExisting_couples provides fid object w s (tracks.fewer (Nat.le_succ spare))
  · rintro rc errno ⟨rfl, negative⟩
    by_cases creates : errno = enoent ∧ msg.ioflag &&& q.oCreat ≠ 0
    · have creates' : -errno = -enoent ∧ msg.ioflag &&& q.oCreat ≠ 0 :=
        ⟨by rw [creates.1], creates.2⟩
      rw [if_pos creates, if_pos creates']
      exact openNew_couples provides counted.openPath
    · have fails : ¬ (-errno = -enoent ∧ msg.ioflag &&& q.oCreat ≠ 0) := by
        rintro ⟨same, flag⟩
        exact creates ⟨Int32.neg_inj.mp same, flag⟩
      rw [if_neg creates, if_neg fails]
      exact couples_fail rfl fun _ _ tracks => tracks.fewer (Nat.le_succ spare)

end Open

end Handlers

end Virtio9p
