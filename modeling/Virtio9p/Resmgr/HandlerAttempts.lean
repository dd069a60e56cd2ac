import Virtio9p.Foundation.Attempt
import Virtio9p.Server.TreeOpen

/-!
# Handlers as attempts

The control flow of the handlers in terms of attempts: what is tried in turn, and what is
cleaned up where one of these fails. A handler answers with the negated code of a failure.
-/
namespace Virtio9p

open Attempt

variable {σ : Type} (T : Transport σ) (q : Qnx)

/-- The answer to an attempt whose value does not matter. -/
def settled {α : Type} (x : Attempt (Link σ) Int32 α) (w : Link σ) : Int32 × Link σ :=
  match x w with
  | (.error rc, w) => (-rc, w)
  | (.ok _, w) => (eok, w)

/-! ### Entries of directories -/

def mknodAttempt (msg : IoConnect) : Attempt (Link σ) Int32 Unit :=
  if msg.path = [] then fail (-einval)
  else if ¬ sIsdir msg.mode then fail (-enotsup)
  else Attempt.bind (walkParent T msg.path) fun entry =>
    (Attempt.bind (mkdir T entry.1 entry.2 (msg.mode &&& 0o777) 0) fun _ => pure ()).cleanup
      fun w => (clunk T entry.1 w).2

theorem connectMknod_attempt (msg : IoConnect) (w : Link σ) :
    connectMknod T msg w = settled (mknodAttempt T msg) w := by
  simp only [connectMknod, settled, mknodAttempt]
  by_cases nameless : msg.path = []
  · simp only [if_pos nameless, fail, Int32.neg_neg]
  · by_cases kind : ¬ sIsdir msg.mode
    · simp only [if_neg nameless, if_pos kind, fail, Int32.neg_neg]
    · simp only [if_neg nameless, if_neg kind, Attempt.bind, Attempt.cleanup, Attempt.fold]
      obtain ⟨_ | ⟨parentFid, basename⟩, w⟩ := walkParent T msg.path w
      · rfl
      · simp only
        obtain ⟨_ | _, w⟩ := mkdir T parentFid basename (msg.mode &&& 0o777) 0 w <;> rfl

/-- An attempt that does not fail. -/
def flagsAttempt (path : Bytes) : Attempt (Link σ) Int32 UInt32 :=
  Attempt.fold (walk T path)
    (fun targetFid => (Attempt.fold (getAttr T targetFid)
      (fun stat => pure (if stat.mode &&& 0o040000 ≠ 0 then linuxAtRemovedir else 0))
      fun _ => pure 0).cleanup fun w => (clunk T targetFid w).2)
    fun _ => pure 0

theorem flagsAttempt_eq (path : Bytes) (w : Link σ) :
    flagsAttempt T path w = (.ok (unlinkFlags T path w).1, (unlinkFlags T path w).2) := by
  simp only [flagsAttempt, unlinkFlags, Attempt.cleanup, Attempt.fold]
  obtain ⟨_ | targetFid, w⟩ := walk T path w
  · rfl
  · simp only
    obtain ⟨_ | stat, w⟩ := getAttr T targetFid w <;> rfl

def unlinkAttempt (msg : IoConnect) : Attempt (Link σ) Int32 Unit :=
  if msg.path = [] then fail (-einval)
  else Attempt.bind (walkParent T msg.path) fun entry =>
    ((flagsAttempt T msg.path).bind fun flags => unlink T entry.1 entry.2 flags).cleanup
      fun w => (clunk T entry.1 w).2

theorem connectUnlink_attempt (msg : IoConnect) (w : Link σ) :
    connectUnlink T msg w = settled (unlinkAttempt T msg) w := by
  simp only [connectUnlink, settled, unlinkAttempt]
  by_cases nameless : msg.path = []
  · simp only [if_pos nameless, fail, Int32.neg_neg]
  · simp only [if_neg nameless, Attempt.bind, Attempt.cleanup, Attempt.fold, flagsAttempt_eq]
    obtain ⟨_ | ⟨parentFid, basename⟩, w⟩ := walkParent T msg.path w
    · rfl
    · simp only
      obtain ⟨_ | _, w⟩ := unlink T parentFid basename (unlinkFlags T msg.path w).1
        (unlinkFlags T msg.path w).2 <;> rfl

def renameAttempt (msg : IoRename) : Attempt (Link σ) Int32 Unit :=
  if msg.path = [] then fail (-einval)
  else Attempt.bind (walkParent T msg.path) fun old =>
    (Attempt.protect (fun w => (clunk T old.1 w).2) (walkParent T msg.newPath)).bind fun new =>
      Attempt.cleanup (fun w => (clunk T new.1 (clunk T old.1 w).2).2)
        (rename T old.1 old.2 new.1 new.2)

theorem connectRename_attempt (msg : IoRename) (w : Link σ) :
    connectRename T msg w = settled (renameAttempt T msg) w := by
  simp only [connectRename, settled, renameAttempt]
  by_cases nameless : msg.path = []
  · simp only [if_pos nameless, fail, Int32.neg_neg]
  · simp only [if_neg nameless, Attempt.bind, Attempt.protect, Attempt.cleanup, Attempt.fold]
    obtain ⟨_ | ⟨oldFid, oldBasename⟩, w⟩ := walkParent T msg.path w
    · rfl
    · simp only
      obtain ⟨_ | ⟨newFid, newBasename⟩, w⟩ := walkParent T msg.newPath w
      · rfl
      · simp only [Attempt.pure]
        obtain ⟨_ | _, w⟩ := rename T oldFid oldBasename newFid newBasename w <;> rfl

/-! ### Opening -/

section Open

variable (openDefault : UInt32 → UInt32 → Int32) (msg : IoConnect)

def ocbAttempt (data : Virtio9pOcb) (stat : NinePStat) : Attempt (Link σ) Int32 ExtOcb :=
  if openDefault stat.mode (localFlags q msg) ≠ eok then
    fail (-openDefault stat.mode (localFlags q msg))
  else pure ⟨0, stat.mode, stat.size.toInt64, data⟩

/-- A failing `GetAttr` leaves the attributes zero. -/
def statAttempt (fid : UInt32) : Attempt (Link σ) Int32 NinePStat :=
  Attempt.fold (getAttr T fid) pure fun _ => pure NinePStat.zero

def openExistingAttempt (fid : UInt32) : Attempt (Link σ) Int32 ExtOcb :=
  (Attempt.bind (openFid T fid (translateQnxToLinuxFlags q msg.ioflag)) fun iounit =>
    (statAttempt T fid).bind fun stat =>
      ocbAttempt q openDefault msg ⟨fid, 0, iounit, stat.mode &&& 0o040000 ≠ 0,
        translateQnxToLinuxFlags q msg.ioflag⟩ stat).protect fun w => (clunk T fid w).2

def openNewAttempt : Attempt (Link σ) Int32 ExtOcb :=
  Attempt.bind (walkParent T (openPath msg)) fun entry =>
    (Attempt.protect (fun w => (clunk T entry.1 w).2) (create T entry.1 entry.2
      (translateQnxToLinuxFlags q msg.ioflag ||| linuxOCreat) 0o644 0)).bind fun made =>
        (ocbAttempt q openDefault msg ⟨entry.1, 0, made.2, false,
          translateQnxToLinuxFlags q msg.ioflag⟩ { NinePStat.zero with mode := 0o100644 }).protect
            fun w => (clunk T entry.1 w).2

def openAttempt : Attempt (Link σ) Int32 ExtOcb :=
  Attempt.fold (walk T (openPath msg)) (openExistingAttempt T q openDefault msg) fun rc =>
    if rc = -enoent ∧ msg.ioflag &&& q.oCreat ≠ 0 then openNewAttempt T q openDefault msg
    else fail rc

/-- `ConnectOpen` answers with the code and the OCB of the attempt. -/
def openResult (result : Except Int32 ExtOcb) : Int32 × Option ExtOcb :=
  match result with
  | .error rc => (-rc, none)
  | .ok ocb => (eok, some ocb)

theorem openOcb_attempt (data : Virtio9pOcb) (stat : NinePStat) (w : Link σ) :
    openOcb T q openDefault msg.ioflag data stat w =
      let opened := (ocbAttempt q openDefault msg data stat).protect
        (fun w => (clunk T data.fid w).2) w
      (openResult opened.1, opened.2) := by
  simp only [openOcb, ocbAttempt, Attempt.protect, Attempt.fold]
  have flags : msg.ioflag &&& ~~~(q.oCreat ||| q.oExcl ||| q.oTrunc) = localFlags q msg := rfl
  rw [flags]
  by_cases refused : openDefault stat.mode (localFlags q msg) ≠ eok
  · simp only [if_pos refused, fail, openResult, Int32.neg_neg]
  · simp only [if_neg refused, Attempt.pure, openResult]

theorem connectOpen_attempt (w : Link σ) :
    connectOpen T q openDefault msg w =
      (openResult (openAttempt T q openDefault msg w).1,
        (openAttempt T q openDefault msg w).2) := by
  simp only [connectOpen, openAttempt, Attempt.fold]
  obtain ⟨rc | fid, w⟩ := walk T (openPath msg) w
  · simp only
    by_cases creates : rc = -enoent ∧ msg.ioflag &&& q.oCreat ≠ 0
    · simp only [if_pos creates, openNewAttempt, Attempt.bind, Attempt.protect, Attempt.fold]
      obtain ⟨_ | ⟨parentFid, basename⟩, w⟩ := walkParent T (openPath msg) w
      · rfl
      · simp only
        obtain ⟨_ | ⟨qid, iounit⟩, w⟩ := create T parentFid basename
          (translateQnxToLinuxFlags q msg.ioflag ||| linuxOCreat) 0o644 0 w
        · rfl
        · simp only [Attempt.pure, openOcb_attempt]
          rfl
    · simp only [if_neg creates]
      rfl
  · simp only [openExistingAttempt, statAttempt, Attempt.bind, Attempt.protect, Attempt.fold]
    obtain ⟨_ | iounit, w⟩ := openFid T fid (translateQnxToLinuxFlags q msg.ioflag) w
    · rfl
    · simp only
      obtain ⟨_ | stat, w⟩ := getAttr T fid w <;> simp only [openOcb_attempt] <;> rfl

end Open

end Virtio9p
