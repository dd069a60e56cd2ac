import Virtio9p.Resmgr.DirectFiles
import Virtio9p.Server.FileServer

/-!
# Fids and the objects they are bound to

The fids of the session are in use for objects of the host. What a request does to the fids on
the server and what the session does to its pool keep the two in step.
-/
namespace Virtio9p

variable {σ ν φ : Type}

/-- The session and the server agree on the fids in use, the root and those of `held`, with the
host's files in state `s`; `spare` more fids can be allocated before the numbers wrap. -/
structure Tracks (view : σ → ServiceState ν φ) (root : ν) (spare : Nat) (held : List (UInt32 × ν))
    (w : Link σ) (s : φ) : Prop where
  files : (view w.transport).files = s
  rooted : (view w.transport).fids w.session.rootFid = some root
  objects : ∀ h ∈ held, (view w.transport).fids h.1 = some h.2
  inUse : InUse (fun x => (view x).fids) (held.map Prod.fst) w
  below : w.session.fidPool.Below
  counted : w.session.fidPool.Counted
  few : w.session.fidPool.allocations + spare < 2 ^ 32

section Tracks

variable {view : σ → ServiceState ν φ} {root : ν} {spare : Nat} {held held' : List (UInt32 × ν)}
  {w w' : Link σ} {s s' : φ}

theorem Tracks.perm (tracks : Tracks view root spare held w s) (same : held.Perm held') :
    Tracks view root spare held' w s where
  files := tracks.files
  rooted := tracks.rooted
  objects h member := tracks.objects h (same.mem_iff.mpr member)
  inUse := tracks.inUse.perm (same.map _)
  below := tracks.below
  counted := tracks.counted
  few := tracks.few

theorem Tracks.fewer (tracks : Tracks view root spare held w s) {less : Nat} (le : less ≤ spare) :
    Tracks view root less held w s :=
  { tracks with few := Nat.lt_of_le_of_lt (Nat.add_le_add_left le _) tracks.few }

/-- Nothing has changed but the files. -/
theorem Tracks.moved (tracks : Tracks view root spare held w s)
    (pool : w'.session.fidPool = w.session.fidPool)
    (rootFid : w'.session.rootFid = w.session.rootFid)
    (fids : (view w'.transport).fids = (view w.transport).fids)
    (files : (view w'.transport).files = s') : Tracks view root spare held w' s' where
  files := files
  rooted := by
    rw [fids, rootFid]
    exact tracks.rooted
  objects h member := by
    rw [fids]
    exact tracks.objects h member
  inUse := by
    obtain ⟨allocated, bound, distinct⟩ := tracks.inUse
    constructor
    · rw [pool, rootFid]
      exact allocated
    · rw [fids, rootFid]
      exact bound
    · rw [rootFid]
      exact distinct
  below := pool ▸ tracks.below
  counted := pool ▸ tracks.counted
  few := pool ▸ tracks.few

/-- The fids in use are distinct. -/
theorem Tracks.apart {fid : UInt32} {object : ν}
    (tracks : Tracks view root spare ((fid, object) :: held) w s) :
    w.session.rootFid ≠ fid ∧ ∀ h ∈ held, h.1 ≠ fid := by
  have distinct := tracks.inUse.distinct
  rw [List.map_cons, List.nodup_cons, List.nodup_cons] at distinct
  obtain ⟨fromRoot, fresh, -⟩ := distinct
  constructor
  · rintro same
    exact fromRoot (same ▸ List.mem_cons_self)
  · rintro h member same
    exact fresh (List.mem_map.mpr ⟨h, member, same⟩)

/-- A fid in use is bound to another object. -/
theorem Tracks.rebound {fid : UInt32} {object object' : ν}
    (tracks : Tracks view root spare ((fid, object) :: held) w s)
    (session : w'.session = w.session.takeTag.2)
    (after : view w'.transport =
      ServiceState.bind { view w.transport with files := s' } fid (some object')) :
    Tracks view root spare ((fid, object') :: held) w' s' := by
  obtain ⟨notRoot, others⟩ := tracks.apart
  have fids : (view w'.transport).fids =
      Function.update (view w.transport).fids fid (some object') := by rw [after]; rfl
  have rootFid : w'.session.rootFid = w.session.rootFid := by rw [session]; rfl
  have pool : w'.session.fidPool = w.session.fidPool := by rw [session]; rfl
  have here : fid ∈ (view w.transport).fids.bound := by
    rw [FidTable.mem_bound, tracks.objects (fid, object) List.mem_cons_self]
    exact Option.some_ne_none object
  constructor
  · rw [after]
    rfl
  · rw [fids, rootFid, Function.update_of_ne notRoot]
    exact tracks.rooted
  · rintro h (_ | ⟨_, member⟩)
    · rw [fids, Function.update_self]
    · rw [fids, Function.update_of_ne (others h member)]
      exact tracks.objects h (List.mem_cons_of_mem _ member)
  · -- the same fids are in use as before
    obtain ⟨allocated, bound, distinct⟩ := tracks.inUse
    constructor
    · rw [pool, rootFid]
      exact allocated
    · rw [rootFid]
      refine Eq.trans ?_ bound
      ext other
      rw [FidTable.mem_bound, FidTable.mem_bound, fids]
      by_cases same : other = fid
      · rw [same, Function.update_self]
        exact iff_of_true (Option.some_ne_none object') here
      · rw [Function.update_of_ne same]
    · rw [rootFid]
      exact distinct
  · exact pool ▸ tracks.below
  · exact pool ▸ tracks.counted
  · exact pool ▸ tracks.few

/-- A fid goes out of use on both sides. -/
theorem Tracks.unbound {fid : UInt32} {object : ν}
    (tracks : Tracks view root spare ((fid, object) :: held) w s)
    (rootFid : w'.session.rootFid = w.session.rootFid)
    (pool : w'.session.fidPool = w.session.fidPool.release fid)
    (fids : (view w'.transport).fids = Function.update (view w.transport).fids fid none)
    (files : (view w'.transport).files = s') : Tracks view root spare held w' s' := by
  obtain ⟨notRoot, others⟩ := tracks.apart
  constructor
  · exact files
  · rw [fids, rootFid, Function.update_of_ne notRoot]
    exact tracks.rooted
  · intro h member
    rw [fids, Function.update_of_ne (others h member)]
    exact tracks.objects h (List.mem_cons_of_mem _ member)
  · obtain ⟨allocated, bound, distinct⟩ := tracks.inUse
    -- what is in use but for `fid`
    have left (other : UInt32) : other ∈ w.session.rootFid :: held.map Prod.fst ↔
        other ≠ fid ∧ other ∈ w.session.rootFid :: (fid, object).1 :: held.map Prod.fst := by
      simp only [List.mem_cons]
      constructor
      · rintro (same | member)
        · exact ⟨same ▸ notRoot, .inl same⟩
        · obtain ⟨h, inside, rfl⟩ := List.mem_map.mp member
          exact ⟨others h inside, .inr (.inr member)⟩
      · rintro ⟨differs, same | same | member⟩
        · exact .inl same
        · exact absurd same differs
        · exact .inr member
    constructor
    · rw [pool, rootFid]
      ext other
      rw [List.mem_toFinset, left, FidPool.release, Finset.mem_erase, allocated,
        List.mem_toFinset]
      rfl
    · rw [rootFid]
      ext other
      rw [FidTable.mem_bound, fids, Set.mem_ofPred_eq, left]
      by_cases same : other = fid
      · rw [same, Function.update_self]
        simp
      · rw [Function.update_of_ne same, ← FidTable.mem_bound, bound]
        exact (and_iff_right same).symm
    · rw [rootFid]
      rw [List.map_cons, List.nodup_cons, List.nodup_cons] at distinct
      exact List.nodup_cons.mpr
        ⟨fun member => distinct.1 (List.mem_cons_of_mem _ member), distinct.2.2⟩
  · exact pool ▸ tracks.below.release fid
  · exact pool ▸ tracks.counted
  · exact pool ▸ tracks.few

/-- A fid that was handed out goes into use on both sides. -/
theorem Tracks.walked {object : ν} (tracks : Tracks view root (spare + 1) held w s)
    (rootFid : w'.session.rootFid = w.session.rootFid)
    (pool : w'.session.fidPool = w.session.fidPool.allocate.2)
    (fids : (view w'.transport).fids =
      Function.update (view w.transport).fids w.session.fidPool.nextFid (some object))
    (files : (view w'.transport).files = s') :
    Tracks view root spare ((w.session.fidPool.nextFid, object) :: held) w' s' := by
  obtain ⟨free, -⟩ := tracks.inUse.unused tracks.below
  have few := tracks.few
  have one : w.session.fidPool.allocations + 1 < 2 ^ 32 := by omega
  have notRoot : w.session.rootFid ≠ w.session.fidPool.nextFid := by
    intro same
    exact free (same ▸ List.mem_cons_self)
  have others : ∀ h ∈ held, h.1 ≠ w.session.fidPool.nextFid := by
    intro h member same
    exact free (same ▸ List.mem_cons_of_mem _ (List.mem_map_of_mem member))
  constructor
  · exact files
  · rw [fids, rootFid, Function.update_of_ne notRoot]
    exact tracks.rooted
  · intro h member
    rcases List.mem_cons.mp member with rfl | member
    · rw [fids, Function.update_self]
    · rw [fids, Function.update_of_ne (others h member)]
      exact tracks.objects h member
  · apply tracks.inUse.walked tracks.below pool rootFid
    ext fid
    rw [FidTable.mem_bound, fids]
    by_cases same : fid = w.session.fidPool.nextFid
    · rw [same, Function.update_self]
      simp
    · rw [Function.update_of_ne same, Set.mem_insert_iff, FidTable.mem_bound]
      exact (or_iff_right same).symm
  · rw [pool]
    exact tracks.below.allocate tracks.counted one
  · rw [pool]
    exact tracks.counted.allocate one
  · rw [pool]
    change w.session.fidPool.allocations + 1 + spare < 2 ^ 32
    omega

/-- A fid that was handed out goes back. -/
theorem Tracks.unwalked (tracks : Tracks view root (spare + 1) held w s)
    (rootFid : w'.session.rootFid = w.session.rootFid)
    (pool : w'.session.fidPool =
      w.session.fidPool.allocate.2.release w.session.fidPool.nextFid)
    (fids : (view w'.transport).fids = (view w.transport).fids)
    (files : (view w'.transport).files = s') : Tracks view root spare held w' s' := by
  have few := tracks.few
  have one : w.session.fidPool.allocations + 1 < 2 ^ 32 := by omega
  constructor
  · exact files
  · rw [fids, rootFid]
    exact tracks.rooted
  · intro h member
    rw [fids]
    exact tracks.objects h member
  · apply tracks.inUse.unwalked tracks.below pool rootFid
    simp only [fids]
  · rw [pool]
    exact (tracks.below.allocate tracks.counted one).release _
  · rw [pool]
    exact tracks.counted.allocate one
  · rw [pool]
    change w.session.fidPool.allocations + 1 + spare < 2 ^ 32
    omega

end Tracks

end Virtio9p
