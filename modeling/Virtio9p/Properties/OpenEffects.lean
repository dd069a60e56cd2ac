import Virtio9p.Server.TreeOpen

/-!
# A failed open and the tree

`ConnectOpen` lets the server open, empty or make the file before `iofunc_open_default`
decides. A rejected open gives its fid back, but not what the file held.
-/
namespace Virtio9p

variable {σ : Type}

/-- An open that fails leaves the tree as it was. -/
def FailedOpenKeepsTree (T : Transport σ) (q : Qnx) (openDefault : UInt32 → UInt32 → Int32)
    (msg : IoConnect) (view : σ → TreeServer) (w : Link σ) : Prop :=
  let result := connectOpen T q openDefault msg w
  result.1.1 ≠ eok → (view result.2.transport).tree = (view w.transport).tree

/-- The local check rejects a file that the server opens and empties, or that it makes. -/
def RejectedTooLate (h : Host) (q : Qnx) (openDefault : UInt32 → UInt32 → Int32) (msg : IoConnect)
    (rootFid fid : UInt32) (s : TreeServer) : Prop :=
  let flags := translateQnxToLinuxFlags q msg.ioflag
  let split := splitParent (openPath msg)
  match h.find rootFid fid (splitPath (openPath msg)) s with
  | .path path =>
    h.openRefusal s.tree path flags = none ∧ Truncates flags s.tree path ∧
      openDefault (h.statOf (s.opened path flags).tree path).mode (localFlags q msg) ≠ eok
  | .missing =>
    msg.ioflag &&& q.oCreat ≠ 0 ∧ split.2 ≠ [] ∧ ∃ directory,
      h.find rootFid (fid + 1) (splitPath split.1) s = .path directory ∧
      h.createRefusal s.tree directory split.2 (flags ||| linuxOCreat) = none ∧
      (s.tree (directory ++ [split.2]) = none ∨
        Truncates (flags ||| linuxOCreat) s.tree (directory ++ [split.2])) ∧
      openDefault 0o100644 (localFlags q msg) ≠ eok
  | .refused _ => False

section Ends

variable {T : Transport σ} {h : Host} {q : Qnx} {openDefault : UInt32 → UInt32 → Int32}
  {msg : IoConnect}
  {view : σ → TreeServer} {w w' : Link σ} {result : Int32 × Option ExtOcb}
  (ran : connectOpen T q openDefault msg w = (result, w'))

include ran

private theorem keeps_failed (quiet : (view w.transport).pending = [])
    (later : (view w.transport).Later (view w'.transport)) :
    FailedOpenKeepsTree T q openDefault msg view w := by
  unfold FailedOpenKeepsTree
  simp only [ran]
  exact fun _ => later.tree_eq quiet

/-- The clunk of a rejected open does not change the tree that the local check has seen. -/
private theorem keeps_opened {path : FilePath} {mode : UInt32} {s₁ : TreeServer}
    (ends : (Opening.opened path mode s₁).Ends (fun mode => openDefault mode (localFlags q msg))
      (view w.transport) result (view w'.transport))
    (quiet : s₁.pending = []) :
    FailedOpenKeepsTree T q openDefault msg view w ↔
      (openDefault mode (localFlags q msg) ≠ eok → s₁.tree = (view w.transport).tree) := by
  obtain ⟨verdict, later, -⟩ := ends
  simp only at verdict
  unfold FailedOpenKeepsTree
  simp only [ran, verdict, later.tree_eq quiet]

section Course

variable (ends : (h.opening q msg w.session.rootFid w.session.fidPool.nextFid
  (view w.transport)).Ends (fun mode => openDefault mode (localFlags q msg)) (view w.transport)
    result (view w'.transport)) (quiet : (view w.transport).pending = [])

include ends quiet

/-- The file is found: the open may have emptied it. -/
private theorem keeps_found {path : FilePath}
    (found : h.find w.session.rootFid w.session.fidPool.nextFid (splitPath (openPath msg))
      (view w.transport) = .path path) :
    FailedOpenKeepsTree T q openDefault msg view w ↔
      ¬ RejectedTooLate h q openDefault msg w.session.rootFid w.session.fidPool.nextFid
        (view w.transport) := by
  let flags := translateQnxToLinuxFlags q msg.ioflag
  let s := view w.transport
  unfold Host.opening at ends
  unfold RejectedTooLate
  simp only [TreeServer.disturbed_eq quiet] at ends
  simp only [found, TreeServer.opened_bind, TreeServer.bind_tree] at ends ⊢
  cases refusal : h.openRefusal s.tree path flags with
  | some ecode =>
    simp only [s, flags] at refusal
    simp only [refusal] at ends ⊢
    -- the server refuses the open
    exact iff_of_true (keeps_failed ran quiet ends.2) fun late => nomatch late.1
  | none =>
    simp only [s, flags] at refusal
    simp only [refusal] at ends ⊢
    -- no other process acts between the open and the getattr
    have still : (s.opened path flags).pending = [] := by
      rw [TreeServer.opened_pending, quiet]
    rw [TreeServer.bind_disturbed, TreeServer.disturbed_eq still, TreeServer.bind_tree] at ends
    rw [keeps_opened ran ends still, TreeServer.bind_tree, TreeServer.opened_tree_iff]
    tauto

/-- The file is missing: it may have been made, or emptied if it was there after all. -/
private theorem keeps_missing
    (found : h.find w.session.rootFid w.session.fidPool.nextFid (splitPath (openPath msg))
      (view w.transport) = .missing) :
    FailedOpenKeepsTree T q openDefault msg view w ↔
      ¬ RejectedTooLate h q openDefault msg w.session.rootFid w.session.fidPool.nextFid
        (view w.transport) := by
  let flags := translateQnxToLinuxFlags q msg.ioflag ||| linuxOCreat
  let basename := (splitParent (openPath msg)).2
  let s := view w.transport
  unfold Host.opening at ends
  unfold RejectedTooLate
  simp only [TreeServer.disturbed_eq quiet] at ends
  simp only [found] at ends ⊢
  -- the open ends here, before the server has changed anything
  by_cases stops : msg.ioflag &&& q.oCreat = 0 ∨ basename = []
  · rw [if_pos stops] at ends
    refine iff_of_true (keeps_failed ran quiet ends.2) ?_
    rintro ⟨create, named, -⟩
    exact stops.elim create named
  rw [if_neg stops] at ends
  obtain ⟨create, named⟩ := not_or.mp stops
  cases above : h.find w.session.rootFid (w.session.fidPool.nextFid + 1)
      (splitPath (splitParent (openPath msg)).1) (view w.transport) with
  | path directory =>
    simp only [above, TreeServer.createdAt_bind, TreeServer.bind_tree] at ends
    let path := directory ++ [basename]
    cases refusal : h.createRefusal s.tree directory basename flags with
    | some ecode =>
      simp only [s, basename, flags] at refusal
      simp only [refusal] at ends
      refine iff_of_true (keeps_failed ran quiet ends.2) ?_
      rintro ⟨-, -, directory', above', granted, -⟩
      cases above'
      cases refusal.symm.trans granted
    | none =>
      simp only [s, basename, flags] at refusal
      simp only [refusal] at ends
      have still : (s.createdAt path flags).pending = [] := by
        rw [TreeServer.createdAt_pending, quiet]
      rw [keeps_opened ran ends still, TreeServer.bind_tree, TreeServer.bind_tree,
        TreeServer.createdAt_tree_iff]
      constructor
      · rintro keeps ⟨-, -, directory', above', -, changes, rejected⟩
        cases above'
        exact keeps rejected changes
      · intro early rejected changes
        exact early ⟨create, named, directory, rfl, refusal, changes, rejected⟩
  | missing =>
    simp only [above] at ends
    refine iff_of_true (keeps_failed ran quiet ends.2) ?_
    rintro ⟨-, -, directory, above', -⟩
    cases above'
  | refused ecode =>
    simp only [above] at ends
    refine iff_of_true (keeps_failed ran quiet ends.2) ?_
    rintro ⟨-, -, directory, above', -⟩
    cases above'

end Course

end Ends

/-- Without other processes the tree survives a failed open exactly if the local check does not
come too late. -/
theorem failed_open_keeps_tree_iff {T : Transport σ} {h : Host} {view : σ → TreeServer}
    (serves : T.ServesTree h view) (q : Qnx) (openDefault : UInt32 → UInt32 → Int32)
    {msg : IoConnect} (counted : CountedPath msg.path) {w : Link σ}
    (quiet : (view w.transport).pending = []) :
    FailedOpenKeepsTree T q openDefault msg view w ↔
      ¬ RejectedTooLate h q openDefault msg w.session.rootFid w.session.fidPool.nextFid
        (view w.transport) := by
  obtain ⟨result, w', ran, ends⟩ := connectOpen_served serves q openDefault counted w
  cases found : h.find w.session.rootFid w.session.fidPool.nextFid (splitPath (openPath msg))
      (view w.transport) with
  | path path => exact keeps_found ran ends quiet found
  | missing => exact keeps_missing ran ends quiet found
  | refused ecode =>
    unfold Host.opening at ends
    unfold RejectedTooLate
    simp only [TreeServer.disturbed_eq quiet] at ends
    simp only [found] at ends ⊢
    exact iff_of_true (keeps_failed ran quiet ends.2) not_false

theorem truncateA_received : ([97] : Bytes).length + 2 ≤ maxMessageSize.toNat := by decide

/-- `O_WRONLY | O_TRUNC` of `a`. -/
def truncateA : IoConnect := ⟨[97], 0x202, 0, truncateA_received⟩

def permissionDenied (_ _ : UInt32) : Int32 := 13

/-- The permission check rejects the open, and the file is empty. -/
theorem denied_open_truncates : ¬ FailedOpenKeepsTree (treeServer plainHost) Qnx.headers
    permissionDenied truncateA id (attachedTo oneFile []) := by
  intro keeps
  have kept := congrFun (keeps (by decide +kernel)) [[97]]
  exact absurd kept (by decide +kernel)

theorem failed_open_keeps_tree_iff_truncateA :
    FailedOpenKeepsTree (treeServer plainHost) Qnx.headers permissionDenied truncateA id
        (attachedTo oneFile []) ↔
      ¬ RejectedTooLate plainHost Qnx.headers permissionDenied truncateA 0 1
        (attachedTo oneFile []).transport :=
  failed_open_keeps_tree_iff (treeServer_serves plainHost) Qnx.headers permissionDenied
    (by decide : CountedPath truncateA.path) rfl

end Virtio9p
