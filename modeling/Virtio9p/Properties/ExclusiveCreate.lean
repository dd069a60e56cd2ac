import Virtio9p.Server.TreeOpen

/-!
# Exclusive creation

`O_CREAT | O_EXCL` asks for a file that was not there. `ConnectOpen` drops `O_EXCL` on the way
to the server and strips it before the local check, so that nothing enforces it.
-/
namespace Virtio9p

variable {σ : Type}

/-- The names lead somewhere from the start of the call on, whatever other processes do. -/
def PathStays (h : Host) (rootFid : UInt32) (names : List Bytes) (s : TreeServer) : Prop :=
  ∃ root, s.fids rootFid = some root ∧
    ∀ k, h.Resolves (TreeServer.disturbed^[k] s).tree root names

/-- What an exclusive open promises. -/
structure CreatesExclusively (T : Transport σ) (h : Host) (q : Qnx)
    (openDefault : UInt32 → UInt32 → Int32) (msg : IoConnect) (view : σ → TreeServer)
    (w : Link σ) : Prop where
  /-- The OCB stands for a file that the call has made where there was none. -/
  created : let result := connectOpen T q openDefault msg w
    let s := view result.2.transport
    result.1.1 = eok → ∃ ocb path, result.1.2 = some ocb ∧ s.fids ocb.data.fid = some path ∧
      s.effects = (view w.transport).effects ++ [.created path]
  /-- A file that is there makes the call fail and keeps its contents. -/
  kept : PathStays h w.session.rootFid (splitPath (openPath msg)) (view w.transport) →
    let result := connectOpen T q openDefault msg w
    result.1.1 ≠ eok ∧ (view result.2.transport).effects = (view w.transport).effects

/-- The server opens a file that is there, and the local check accepts it, or the open empties a
file that stays. -/
def OpensExisting (h : Host) (q : Qnx) (openDefault : UInt32 → UInt32 → Int32) (msg : IoConnect)
    (rootFid fid : UInt32) (s : TreeServer) : Prop :=
  let flags := translateQnxToLinuxFlags q msg.ioflag
  let names := splitPath (openPath msg)
  let split := splitParent (openPath msg)
  let s₁ := s.disturbed
  let s₂ := s₁.disturbed
  match h.find rootFid fid names s₁ with
  | .path path =>
    let opened := s₂.opened path flags
    h.openRefusal s₂.tree path flags = none ∧
      (openDefault (h.statOf opened.disturbed.tree path).mode (localFlags q msg) = eok ∨
        Truncates flags s₂.tree path ∧ PathStays h rootFid names s)
  | .missing =>
    let s₃ := s₂.disturbed
    split.2 ≠ [] ∧ ∃ directory,
      h.find rootFid (fid + 1) (splitPath split.1) s₂ = .path directory ∧
      h.createRefusal s₃.tree directory split.2 (flags ||| linuxOCreat) = none ∧
      s₃.tree (directory ++ [split.2]) ≠ none ∧ openDefault 0o100644 (localFlags q msg) = eok
  | .refused _ => False

/-- A walk cannot miss a path that stays. -/
theorem PathStays.not_missing {h : Host} {rootFid fid : UInt32} {names : List Bytes}
    {s : TreeServer} (stays : PathStays h rootFid names s) :
    h.find rootFid fid names s.disturbed ≠ .missing := by
  obtain ⟨root, rooted, resolves⟩ := stays
  have here : h.Resolves s.disturbed.tree root names := resolves 1
  unfold Host.find
  simp only [TreeServer.disturbed_fids, rooted, if_pos here]
  split <;> nofun

section Ends

variable {T : Transport σ} {h : Host} {q : Qnx} {openDefault : UInt32 → UInt32 → Int32}
  {msg : IoConnect} {view : σ → TreeServer} {w w' : Link σ} {result : Int32 × Option ExtOcb}
  (ran : connectOpen T q openDefault msg w = (result, w'))

include ran

/-- A call that fails before the local check keeps both promises. -/
private theorem exclusive_failed (failed : result.1 ≠ eok)
    (later : (view w.transport).Later (view w'.transport)) :
    CreatesExclusively T h q openDefault msg view w := by
  constructor
  · simp only [ran]
    exact fun success => absurd success failed
  · simp only [ran]
    exact fun _ => ⟨failed, later.effects_eq⟩

/-- For the others the effects decide that the server `s₁` has before the local check. -/
private theorem exclusive_opened {path : FilePath} {mode : UInt32} {s₁ : TreeServer}
    (ends : (Opening.opened path mode s₁).Ends (fun mode => openDefault mode (localFlags q msg))
      (view w.transport) result (view w'.transport)) :
    CreatesExclusively T h q openDefault msg view w ↔
      (openDefault mode (localFlags q msg) = eok →
        s₁.effects = (view w.transport).effects ++ [.created path]) ∧
      (PathStays h w.session.rootFid (splitPath (openPath msg)) (view w.transport) →
        openDefault mode (localFlags q msg) ≠ eok ∧
          s₁.effects = (view w.transport).effects) := by
  obtain ⟨verdict, later, bound⟩ := ends
  have after := later.effects_eq
  simp only at verdict
  constructor
  · rintro ⟨created, kept⟩
    simp only [ran, verdict, after] at created kept
    refine ⟨fun accepted => ?_, kept⟩
    obtain ⟨ocb, made, allocated, stands, effects⟩ := created accepted
    obtain ⟨ocb', allocated', stands'⟩ := bound (verdict.trans accepted)
    -- the OCB stands for one path only
    cases allocated.symm.trans allocated'
    cases stands.symm.trans stands'
    exact effects
  · rintro ⟨created, kept⟩
    constructor
    · simp only [ran, verdict, after]
      intro accepted
      obtain ⟨ocb, allocated, stands⟩ := bound (verdict.trans accepted)
      exact ⟨ocb, path, allocated, stands, created accepted⟩
    · simp only [ran, verdict, after]
      exact kept

section Course

variable (ends : (h.opening q msg w.session.rootFid w.session.fidPool.nextFid
  (view w.transport)).Ends (fun mode => openDefault mode (localFlags q msg)) (view w.transport)
    result (view w'.transport))

include ends

/-- The file is found: an open that is accepted breaks the promise. -/
private theorem exclusive_found {path : FilePath}
    (found : h.find w.session.rootFid w.session.fidPool.nextFid (splitPath (openPath msg))
      (view w.transport).disturbed = .path path) :
    CreatesExclusively T h q openDefault msg view w ↔
      ¬ OpensExisting h q openDefault msg w.session.rootFid w.session.fidPool.nextFid
        (view w.transport) := by
  let flags := translateQnxToLinuxFlags q msg.ioflag
  unfold Host.opening at ends
  unfold OpensExisting
  simp only [found, TreeServer.opened_bind, TreeServer.bind_tree] at ends ⊢
  let s₂ := (view w.transport).disturbed.disturbed
  cases refusal : h.openRefusal s₂.tree path flags with
  | some ecode =>
    simp only [s₂, flags] at refusal
    simp only [refusal] at ends ⊢
    exact iff_of_true (exclusive_failed ran ends.1 ends.2) fun existing => nomatch existing.1
  | none =>
    simp only [s₂, flags] at refusal
    simp only [refusal] at ends ⊢
    rw [TreeServer.bind_disturbed, TreeServer.bind_tree] at ends
    rw [exclusive_opened ran ends]
    have before : (view w.transport).effects = s₂.effects := by
      simp only [s₂, TreeServer.disturbed_effects]
    -- the file was found, so the open makes none
    have never : (s₂.opened path flags).effects ≠ s₂.effects ++ [.created path] :=
      TreeServer.opened_not_created path
    have keeps : (s₂.opened path flags).effects = s₂.effects ↔ ¬ Truncates flags s₂.tree path :=
      TreeServer.opened_effects_iff
    rw [before, TreeServer.bind_effects]
    tauto

/-- The file is missing: it is made, unless another process is faster. -/
private theorem exclusive_missing (create : msg.ioflag &&& q.oCreat ≠ 0)
    (found : h.find w.session.rootFid w.session.fidPool.nextFid (splitPath (openPath msg))
      (view w.transport).disturbed = .missing) :
    CreatesExclusively T h q openDefault msg view w ↔
      ¬ OpensExisting h q openDefault msg w.session.rootFid w.session.fidPool.nextFid
        (view w.transport) := by
  let flags := translateQnxToLinuxFlags q msg.ioflag
  let basename := (splitParent (openPath msg)).2
  unfold Host.opening at ends
  unfold OpensExisting
  simp only [found] at ends ⊢
  -- without a last component nothing is created
  by_cases nameless : basename = []
  · rw [if_pos (.inr nameless)] at ends
    exact iff_of_true (exclusive_failed ran ends.1 ends.2) fun existing => existing.1 nameless
  rw [if_neg (not_or.mpr ⟨create, nameless⟩)] at ends
  cases above : h.find w.session.rootFid (w.session.fidPool.nextFid + 1)
      (splitPath (splitParent (openPath msg)).1) (view w.transport).disturbed.disturbed with
  | path directory =>
    simp only [above, TreeServer.createdAt_bind, TreeServer.bind_tree] at ends
    let s₃ := (view w.transport).disturbed.disturbed.disturbed
    let path := directory ++ [basename]
    cases refusal : h.createRefusal s₃.tree directory basename (flags ||| linuxOCreat) with
    | some ecode =>
      simp only [s₃, basename, flags] at refusal
      simp only [refusal] at ends
      refine iff_of_true (exclusive_failed ran ends.1 ends.2) ?_
      rintro ⟨-, directory', above', granted, -⟩
      cases above'
      cases refusal.symm.trans granted
    | none =>
      simp only [s₃, basename, flags] at refusal
      simp only [refusal] at ends
      rw [exclusive_opened ran ends]
      have before : (view w.transport).effects = s₃.effects := by
        simp only [s₃, TreeServer.disturbed_effects]
      -- `O_EXCL` is not on the wire, so the server opens what is there
      have made : (s₃.createdAt path (flags ||| linuxOCreat)).effects =
          s₃.effects ++ [.created path] ↔ s₃.tree path = none :=
        TreeServer.createdAt_effects_iff
      -- a path that stays is found
      have gone : ¬ PathStays h w.session.rootFid (splitPath (openPath msg))
          (view w.transport) := fun stays => stays.not_missing found
      rw [before, TreeServer.bind_effects, TreeServer.bind_effects, made]
      constructor
      · rintro ⟨created, -⟩ ⟨-, directory', above', -, present, accepted⟩
        cases above'
        exact present (created accepted)
      · intro safe
        refine ⟨fun accepted => ?_, fun stays => absurd stays gone⟩
        by_contra present
        exact safe ⟨nameless, directory, rfl, refusal, present, accepted⟩
  | missing =>
    simp only [above] at ends
    refine iff_of_true (exclusive_failed ran ends.1 ends.2) ?_
    rintro ⟨-, directory, above', -⟩
    cases above'
  | refused ecode =>
    simp only [above] at ends
    refine iff_of_true (exclusive_failed ran ends.1 ends.2) ?_
    rintro ⟨-, directory, above', -⟩
    cases above'

end Course

end Ends

/-- An exclusive open keeps its promises exactly if the server does not open what is there. -/
theorem creates_exclusively_iff {T : Transport σ} {h : Host} {view : σ → TreeServer}
    (serves : T.ServesTree h view) (q : Qnx) (openDefault : UInt32 → UInt32 → Int32)
    {msg : IoConnect} (counted : CountedPath msg.path)
    (exclusive : msg.ioflag &&& q.oCreat ≠ 0 ∧ msg.ioflag &&& q.oExcl ≠ 0) (w : Link σ) :
    CreatesExclusively T h q openDefault msg view w ↔
      ¬ OpensExisting h q openDefault msg w.session.rootFid w.session.fidPool.nextFid
        (view w.transport) := by
  obtain ⟨result, w', ran, ends⟩ := connectOpen_served serves q openDefault counted w
  cases found : h.find w.session.rootFid w.session.fidPool.nextFid (splitPath (openPath msg))
      (view w.transport).disturbed with
  | path path => exact exclusive_found ran ends found
  | missing => exact exclusive_missing ran ends exclusive.1 found
  | refused ecode =>
    unfold Host.opening at ends
    unfold OpensExisting
    simp only [found] at ends ⊢
    exact iff_of_true (exclusive_failed ran ends.1 ends.2) not_false

theorem createA_received : ([97] : Bytes).length + 2 ≤ maxMessageSize.toNat := by decide

/-- `O_WRONLY | O_CREAT | O_EXCL` of `a`. -/
def createA : IoConnect := ⟨[97], 0x502, 0, createA_received⟩

def everyOpen (_ _ : UInt32) : Int32 := eok

/-- The exclusive open of a file that is there succeeds. -/
theorem exclusive_open_takes_existing : ¬ CreatesExclusively (treeServer plainHost) plainHost
    Qnx.headers everyOpen createA id (attachedTo oneFile []) := by
  intro exclusive
  obtain ⟨ocb, path, -, -, effects⟩ := exclusive.created (by decide +kernel)
  have nothing : (connectOpen (treeServer plainHost) Qnx.headers everyOpen createA
    (attachedTo oneFile [])).2.transport.effects = [] := by decide +kernel
  rw [id, nothing] at effects
  cases effects

/-- Another process makes the file between the walk and the create. -/
theorem creates_exclusively_iff_race :
    let w := attachedTo (fun _ => none) [id, fun _ => oneFile]
    CreatesExclusively (treeServer plainHost) plainHost Qnx.headers everyOpen createA id w ↔
      ¬ OpensExisting plainHost Qnx.headers everyOpen createA 0 1 w.transport :=
  creates_exclusively_iff (treeServer_serves plainHost) Qnx.headers everyOpen
    (by decide : CountedPath createA.path) (by decide) _

end Virtio9p
