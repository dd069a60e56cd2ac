import Virtio9p.Server.ListedServer

/-!
# Walks and lookups

`Walk` sends all components of a path in one Twalk. It finds what a lookup of the components one
by one finds, unless there are more of them than a Twalk may have.
-/
namespace Virtio9p

variable {σ ν : Type}

/-- `Walk` agrees with the lookup of the path from `root`. -/
structure LooksUp (T : Transport σ) (view : σ → EntryServer ν) (root : ν) (path : Bytes)
    (w : Link σ) : Prop where
  found : ∀ object, locate (view w.transport).lookup root (splitPath path) = some object →
    ∃ fid, (walk T path w).1 = .ok fid ∧
      (view (walk T path w).2.transport).fids fid = some object
  missing : locate (view w.transport).lookup root (splitPath path) = none →
    (∃ rc, (walk T path w).1 = .error rc ∧ rc < 0) ∧
      (walk T path w).2.session.fidPool.allocated = w.session.fidPool.allocated

/-- A path that leads somewhere has few enough components, and the number of the next fid is not
in use. -/
def WithinReach (view : σ → EntryServer ν) (root : ν) (path : Bytes) (w : Link σ) : Prop :=
  match locate (view w.transport).lookup root (splitPath path) with
  | some _ => (splitPath path).length ≤ maxWalkNames ∧
      (view w.transport).Bindable w.session.rootFid w.session.fidPool.nextFid
  | none => w.session.fidPool.nextFid ∉ w.session.fidPool.allocated

/-- In a session whose numbers have not run out only the number of components counts. -/
theorem withinReach_iff {view : σ → EntryServer ν} {root : ν} {path : Bytes} {w : Link σ}
    {held : List UInt32} (inUse : InUse (fun s => (view s).fids) held w)
    (below : w.session.fidPool.Below) :
    WithinReach view root path w ↔ (splitPath path).length ≤ maxWalkNames ∨
      locate (view w.transport).lookup root (splitPath path) = none := by
  have fresh : (view w.transport).fids w.session.fidPool.nextFid = none := (inUse.unused below).2
  unfold WithinReach
  split
  · rename_i object found
    rw [found]
    exact ⟨fun reach => .inl reach.1, fun few => ⟨few.resolve_right nofun, .inr fresh⟩⟩
  · rename_i lost
    exact iff_of_true below.fresh (.inr lost)

section Lookup

variable {T : Transport σ} {view : σ → EntryServer ν} (walks : T.Walks view) {root : ν}
  {path : Bytes} {w : Link σ} (short : ShortNames (splitPath path))
  (rooted : (view w.transport).fids w.session.rootFid = some root)

/-- A failed walk leaves the pool without the number it has taken. -/
private theorem allocated_walked_release (T : Transport σ) (path : Bytes) (w : Link σ) :
    ((w.walked T path).release w.session.fidPool.nextFid).session.fidPool.allocated =
        w.session.fidPool.allocated ↔
      w.session.fidPool.nextFid ∉ w.session.fidPool.allocated := by
  have kept : ((w.walked T path).release w.session.fidPool.nextFid).session.fidPool.allocated =
    w.session.fidPool.allocated.erase w.session.fidPool.nextFid :=
    Finset.erase_insert_eq_erase _ _
  rw [kept, Finset.erase_eq_self]

include walks short rooted

private theorem looksUp_found {object : ν}
    (found : locate (view w.transport).lookup root (splitPath path) = some object) :
    LooksUp T view root path w ↔ (splitPath path).length ≤ maxWalkNames ∧
      (view w.transport).Bindable w.session.rootFid w.session.fidPool.nextFid := by
  constructor
  · intro agrees
    obtain ⟨fid, ok, -⟩ := agrees.found object found
    -- otherwise the walk fails
    by_contra unreached
    obtain ⟨rc, lost, -⟩ := walk_lost walks short rooted
      (.inr ((not_and_or.mp unreached).imp_left Nat.lt_of_not_le))
    rw [lost] at ok
    cases ok
  · rintro ⟨few, bindable⟩
    obtain ⟨ok, bound⟩ := walk_found walks short few rooted bindable found
    constructor
    · intro object' found'
      obtain rfl := Option.some.inj (found.symm.trans found')
      rw [ok]
      refine ⟨_, rfl, ?_⟩
      rw [bound, EntryServer.bind_self]
    · intro lost
      rw [found] at lost
      cases lost

private theorem looksUp_missing
    (lost : locate (view w.transport).lookup root (splitPath path) = none) :
    LooksUp T view root path w ↔ w.session.fidPool.nextFid ∉ w.session.fidPool.allocated := by
  obtain ⟨rc, failed, negative⟩ := walk_lost walks short rooted (.inl lost)
  rw [← allocated_walked_release T path w]
  constructor
  · intro agrees
    have kept := (agrees.missing lost).2
    rwa [failed] at kept
  · intro kept
    constructor
    · intro object found
      rw [lost] at found
      cases found
    · intro _
      rw [failed]
      exact ⟨⟨rc, rfl, negative⟩, kept⟩

/-- `Walk` agrees with the lookup exactly on the paths within its reach. -/
theorem walk_looks_up_iff : LooksUp T view root path w ↔ WithinReach view root path w := by
  unfold WithinReach
  split
  · rename_i object found
    exact looksUp_found walks short rooted found
  · rename_i lost
    exact looksUp_missing walks short rooted lost

end Lookup

/-- `a/a/…` -/
def deepPath (n : Nat) : Bytes := (List.replicate n [97, 47]).flatten

theorem deepName_short : ([97] : Bytes).length ≤ 255 := by decide

/-- `n` directories `a`, one in the other. -/
def deepEntries (n : Nat) : List (Nat × EntryName × Nat) :=
  (List.range n).map fun k => (k, ⟨[97], deepName_short⟩, k + 1)

theorem walk_looks_up_iff_doubled :
    LooksUp (listedServer fun _ => 0o040755) Listing.view 0 [47, 97, 47, 47, 97, 47]
      (listedSession (deepEntries 2)) :=
  (walk_looks_up_iff (listedServer_walks _) (by unfold ShortNames; decide) rfl).mpr
    ⟨by decide, .inr rfl⟩

/-- The lookup of 17 components succeeds, but no Twalk of 17 names does. -/
theorem seventeen_components_not_found :
    (listedServer fun _ => 0o040755).Walks Listing.view ∧
      ShortNames (splitPath (deepPath 17)) ∧
      (listedSession (deepEntries 17)).transport.view.fids
        (listedSession (deepEntries 17)).session.rootFid = some 0 ∧
      locate (listedSession (deepEntries 17)).transport.view.lookup 0 (splitPath (deepPath 17)) =
        some 17 ∧
      ¬ LooksUp (listedServer fun _ => 0o040755) Listing.view 0 (deepPath 17)
        (listedSession (deepEntries 17)) := by
  have short : ShortNames (splitPath (deepPath 17)) := by
    unfold ShortNames
    decide +kernel
  have found : locate (listedSession (deepEntries 17)).transport.view.lookup 0
      (splitPath (deepPath 17)) = some 17 := by decide +kernel
  refine ⟨listedServer_walks _, short, rfl, found, ?_⟩
  intro agrees
  obtain ⟨fid, ok, -⟩ := agrees.found 17 found
  have failed : ((walk (listedServer fun _ => 0o040755) (deepPath 17)
      (listedSession (deepEntries 17))).1.toOption) = none := by decide +kernel
  rw [ok] at failed
  cases failed

end Virtio9p
