import Virtio9p.Protocol.Calls
import Virtio9p.Server.FidServer

/-!
# How long a fid lives

A client keeps the fids that `Walk` and `WalkParent` returned until it passes them to
`Clunk`. They stay distinct, allocated and different from the root as long as no
re-initialization resets the pool under them.
-/
namespace Virtio9p

open NinePMessage

variable {σ : Type}

/-- A session and the fids that its client holds. -/
structure FidClient (σ : Type) where
  link : Link σ
  held : List UInt32

/-- What is left of the held fids when the call is made. -/
def SessionCall.kept (held : List UInt32) : SessionCall → List UInt32
  | clunk fid => held.filter (· ≠ fid)
  | _ => held

def fidClient (T : Transport σ) : Machine SessionCall (Option UInt32) (FidClient σ) where
  step call c :=
    let result := performCall T call c.link
    (result.1, ⟨result.2, call.kept c.held ++ result.1.toList⟩)

structure FidsSound (c : FidClient σ) : Prop where
  distinct : c.held.Nodup
  notRoot : c.link.session.rootFid ∉ c.held
  allocated : ∀ fid ∈ c.held, c.link.session.fidPool.isAllocated fid = true

/-- Either no exchange fails, and a fid that is allocated is not the root, or the call
leaves no fid that a reset of the pool could invalidate. -/
def KeepsFids (T : Transport σ) (call : SessionCall) (c : FidClient σ) : Prop :=
  Undisturbed T call c.link ∧
      (call.takesFid = true → c.link.session.fidPool.nextFid ≠ c.link.session.rootFid) ∨
    call.takesFid = false ∧ call.kept c.held = []

/-! ### The pool -/

theorem ordered_step {T : Transport σ} {own : Bytes → Prop} {w w' : Link σ}
    (step : Link.Step T own w w') (ordered : w.session.fidPool.Ordered) :
    w'.session.fidPool.Ordered := by
  cases step with
  | takeTag => exact ordered
  | allocate => exact ordered.allocate
  | release fid => exact ordered.release fid
  | exchange request sendable => exact ordered
  | restart => exact FidPool.Ordered.reset w.session.fidPool
  | resume => exact ordered
  | setUp size accepted => exact ordered.allocate

theorem ordered_steps {T : Transport σ} {own : Bytes → Prop} {w w' : Link σ}
    (steps : Link.Steps T own w w') (ordered : w.session.fidPool.Ordered) :
    w'.session.fidPool.Ordered := by
  induction steps with
  | refl => exact ordered
  | tail _ step ih => exact ordered_step step ih

theorem allocations_step {T : Transport σ} {own : Bytes → Prop} {w w' : Link σ}
    (step : Link.Step T own w w') :
    w.session.fidPool.allocations ≤ w'.session.fidPool.allocations := by
  cases step with
  | allocate => exact Nat.le_succ _
  -- `setUp` allocates the root fid
  | setUp size accepted => exact Nat.le_succ _
  | _ => exact Nat.le_refl _

theorem allocations_steps {T : Transport σ} {own : Bytes → Prop} {w w' : Link σ}
    (steps : Link.Steps T own w w') :
    w.session.fidPool.allocations ≤ w'.session.fidPool.allocations := by
  induction steps with
  | refl => exact Nat.le_refl _
  | tail _ step ih => exact ih.trans (allocations_step step)

theorem ordered_performCall (T : Transport σ) (call : SessionCall) {w : Link σ}
    (ordered : w.session.fidPool.Ordered) : (performCall T call w).2.session.fidPool.Ordered := by
  obtain ⟨aname, steps⟩ := performCall_steps T call w
  exact ordered_steps steps ordered

theorem allocations_performCall (T : Transport σ) (call : SessionCall) (w : Link σ) :
    w.session.fidPool.allocations ≤ (performCall T call w).2.session.fidPool.allocations := by
  obtain ⟨aname, steps⟩ := performCall_steps T call w
  have grown := allocations_steps steps
  exact grown

/-! ### Undisturbed calls -/

section Undisturbed

variable {T : Transport σ} {c : FidClient σ} {w' : Link σ}

/-- Nothing happened to the pool and the root. -/
theorem FidsSound.same (sound : FidsSound c)
    (pool : w'.session.fidPool = c.link.session.fidPool)
    (root : w'.session.rootFid = c.link.session.rootFid) : FidsSound ⟨w', c.held⟩ :=
  ⟨sound.distinct, root ▸ sound.notRoot, pool ▸ sound.allocated⟩

theorem FidsSound.next_not_held (sound : FidsSound c)
    (below : c.link.session.fidPool.Below) : c.link.session.fidPool.nextFid ∉ c.held := by
  intro member
  have allocated := sound.allocated _ member
  rw [FidPool.isAllocated_iff] at allocated
  exact below.fresh allocated

theorem FidsSound.held_mem_insert (sound : FidsSound c) {fid new : UInt32}
    (member : fid ∈ c.held) : fid ∈ insert new c.link.session.fidPool.allocated :=
  Finset.mem_insert_of_mem ((FidPool.isAllocated_iff _ _).mp (sound.allocated fid member))

/-- The new fid was given to the client. -/
theorem FidsSound.taken (sound : FidsSound c) (below : c.link.session.fidPool.Below)
    (notRoot : c.link.session.fidPool.nextFid ≠ c.link.session.rootFid)
    (pool : w'.session.fidPool = c.link.session.fidPool.allocate.2)
    (root : w'.session.rootFid = c.link.session.rootFid) :
    FidsSound ⟨w', c.held ++ [c.link.session.fidPool.nextFid]⟩ := by
  -- the counter is above all fids of the pool, and the held ones are in it
  have fresh := sound.next_not_held below
  refine ⟨?_, ?_, ?_⟩
  · rw [List.nodup_append]
    refine ⟨sound.distinct, List.nodup_singleton _, ?_⟩
    rintro fid member _ new rfl
    rw [List.mem_singleton.mp new] at member
    exact fresh member
  · intro member
    change w'.session.rootFid ∈ _ at member
    rw [root] at member
    rcases List.mem_append.mp member with old | new
    · exact sound.notRoot old
    · exact notRoot (List.mem_singleton.mp new).symm
  · intro fid member
    change w'.session.fidPool.isAllocated fid = true
    rw [pool, FidPool.isAllocated_iff]
    rcases List.mem_append.mp member with old | new
    · exact sound.held_mem_insert old
    · rw [List.mem_singleton.mp new]
      exact Finset.mem_insert_self _ _

/-- The new fid was released again, or it is the root now. -/
theorem FidsSound.untaken (sound : FidsSound c) (below : c.link.session.fidPool.Below)
    (pool : w'.session.fidPool = c.link.session.fidPool.allocate.2 ∨
      w'.session.fidPool =
        c.link.session.fidPool.allocate.2.release c.link.session.fidPool.nextFid)
    (root : w'.session.rootFid = c.link.session.rootFid ∨
      w'.session.rootFid = c.link.session.fidPool.nextFid) : FidsSound ⟨w', c.held⟩ := by
  have fresh := sound.next_not_held below
  refine ⟨sound.distinct, ?_, ?_⟩
  · change w'.session.rootFid ∉ c.held
    rcases root with old | new
    · rw [old]
      exact sound.notRoot
    · rw [new]
      exact fresh
  · intro fid member
    change w'.session.fidPool.isAllocated fid = true
    rw [FidPool.isAllocated_iff]
    rcases pool with allocated | released
    · rw [allocated]
      exact sound.held_mem_insert member
    · rw [released]
      refine Finset.mem_erase_of_ne_of_mem ?_ (sound.held_mem_insert member)
      -- the fid that is released is the new one, which nobody holds
      rintro rfl
      exact fresh member

theorem FidsSound.clunked (sound : FidsSound c) (fid : UInt32)
    (pool : w'.session.fidPool = c.link.session.fidPool.release fid)
    (root : w'.session.rootFid = c.link.session.rootFid) :
    FidsSound ⟨w', c.held.filter (· ≠ fid)⟩ := by
  refine ⟨sound.distinct.filter _, ?_, ?_⟩
  · intro member
    change w'.session.rootFid ∈ _ at member
    rw [root] at member
    exact sound.notRoot (List.mem_of_mem_filter member)
  · intro other member
    obtain ⟨held, different⟩ := List.mem_filter.mp member
    change w'.session.fidPool.isAllocated other = true
    rw [pool, FidPool.isAllocated_iff]
    exact Finset.mem_erase_of_ne_of_mem (of_decide_eq_true different)
      ((FidPool.isAllocated_iff _ _).mp (sound.allocated other held))

theorem fidsSound_walk (sound : FidsSound c) (below : c.link.session.fidPool.Below)
    (notRoot : c.link.session.fidPool.nextFid ≠ c.link.session.rootFid) {path : Bytes}
    (ok : c.link.exchangeCode T (buildTwalk c.link.session.nextTag c.link.session.rootFid
      c.link.session.fidPool.nextFid (splitPath path)) = 0) :
    FidsSound ⟨(walk T path c.link).2, c.held ++ (walk T path c.link).1.toOption.toList⟩ := by
  have walked := walk_once ok
  simp only at walked
  rw [walked]
  split
  · simp only [Except.toOption, Option.toList_none, List.append_nil]
    exact sound.untaken below (Or.inr rfl) (Or.inl rfl)
  · split
    · simp only [Except.toOption, Option.toList_none, List.append_nil]
      exact sound.untaken below (Or.inr rfl) (Or.inl rfl)
    · exact sound.taken below notRoot rfl rfl

theorem fidsSound_initialize (sound : FidsSound c) (below : c.link.session.fidPool.Below)
    {aname : Bytes} (calm : Undisturbed T (.initializeSession aname) c.link) :
    FidsSound ⟨(initializeSession T aname c.link).2, c.held⟩ := by
  rw [initializeSession_once calm.1 calm.2, Link.initializedOnce]
  simp only
  split
  · exact sound.same rfl rfl
  · split
    · exact sound.untaken below (Or.inr rfl) (Or.inr rfl)
    · exact sound.untaken below (Or.inl rfl) (Or.inr rfl)

theorem SessionCall.kept_plain {call : SessionCall} {s : NinePSession} {r : Request}
    (sends : call.request s = some r) (notClunk : r.type ≠ .tclunk) (held : List UInt32) :
    call.kept held = held := by
  cases call with
  | clunk fid =>
    cases sends
    exact absurd rfl notClunk
  | _ => rfl

/-- A request on fids that the client names. -/
theorem fidsSound_plain (sound : FidsSound c) {call : SessionCall} {r : Request}
    (sends : call.request c.link.session = some r)
    (ok : c.link.exchangeCode T (r.build c.link.session.nextTag) = 0)
    (plain : call.takesFid = false) (notClunk : r.type ≠ .tclunk)
    (nothing : (performCall T call c.link).1 = none) :
    FidsSound ((fidClient T).step call c).2 := by
  have once : transact T (r.build c.link.session.nextTag) c.link.tagged = _ := transact_ok ok
  have done : (performCall T call c.link).2.session = c.link.session.takeTag.2 := by
    rw [performCall_plain sends plain notClunk, SessionCall.transacted,
      SessionCall.onSession_plain plain, once]
    rfl
  change FidsSound ⟨(performCall T call c.link).2,
    call.kept c.held ++ (performCall T call c.link).1.toList⟩
  rw [nothing, Option.toList_none, List.append_nil, SessionCall.kept_plain sends notClunk]
  exact sound.same (by rw [done]; rfl) (by rw [done]; rfl)

/-- A call whose exchanges succeed. -/
theorem fidsSound_undisturbed (sound : FidsSound c) (below : c.link.session.fidPool.Below)
    {call : SessionCall} (calm : Undisturbed T call c.link)
    (notRoot : call.takesFid = true →
      c.link.session.fidPool.nextFid ≠ c.link.session.rootFid) :
    FidsSound ((fidClient T).step call c).2 := by
  cases call with
  | initializeSession aname =>
    change FidsSound ⟨_, c.held ++ []⟩
    rw [List.append_nil]
    exact fidsSound_initialize sound below calm
  | walk path => exact fidsSound_walk sound below (notRoot rfl) (calm _ rfl)
  -- without a last component no request is sent
  | walkParent path =>
    by_cases basename : (splitParent path).2 = []
    · have nothing : walkParent T path c.link = (.error (-einval), c.link) := by
        simp only [walkParent, if_pos basename]
      change FidsSound ⟨(walkParent T path c.link).2,
        c.held ++ ((walkParent T path c.link).1.toOption.map Prod.fst).toList⟩
      rw [nothing]
      change FidsSound ⟨c.link, c.held ++ []⟩
      rw [List.append_nil]
      exact sound
    · have takes : SessionCall.takesFid (.walkParent path) = true := decide_eq_true basename
      have walked := fidsSound_walk (T := T) sound below (notRoot takes)
        (calm _ (if_neg basename))
      change FidsSound ⟨(walkParent T path c.link).2,
        c.held ++ ((walkParent T path c.link).1.toOption.map Prod.fst).toList⟩
      simp only [walkParent, if_neg basename]
      cases reached : (walk T (splitParent path).1 c.link).1 with
      | error rc => rwa [reached] at walked
      | ok fid => rwa [reached] at walked
  | clunk fid =>
    change FidsSound ⟨(clunk T fid c.link).2, c.held.filter (· ≠ fid) ++ []⟩
    rw [List.append_nil]
    have once : transact T (buildTclunk c.link.session.nextTag fid) c.link.tagged = _ :=
      transact_ok (calm (.tclunk fid) rfl)
    let sent := c.link.tagged.exchanged T (buildTclunk c.link.session.nextTag fid)
    have done : (clunk T fid c.link).2.session = (sent.release fid).session :=
      congrArg (fun result => (result.2.release fid).session) once
    exact sound.clunked fid (by rw [done]; rfl) (by rw [done]; rfl)
  | _ => exact fidsSound_plain sound rfl (calm _ rfl) rfl (by simp [Request.type]) rfl

end Undisturbed

/-! ### Runs -/

/-- The invariant of a run: as long as fewer than `2 ^ 32` fids were allocated, the held
fids are sound. -/
def SoundSoFar (c : FidClient σ) : Prop :=
  c.link.session.fidPool.Ordered ∧
    (c.link.session.fidPool.allocations < 2 ^ 32 → FidsSound c)

theorem FidsSound.of_held_nil {c : FidClient σ} (nothing : c.held = []) : FidsSound c := by
  refine ⟨?_, ?_, ?_⟩
  · rw [nothing]
    exact List.nodup_nil
  · rw [nothing]
    exact List.not_mem_nil
  · intro fid member
    rw [nothing] at member
    cases member

theorem takesFid_none (T : Transport σ) {call : SessionCall} (plain : call.takesFid = false)
    (w : Link σ) : (performCall T call w).1 = none := by
  cases call with
  | walk path => cases plain
  | walkParent path =>
    have basename : (splitParent path).2 = [] := by simpa [SessionCall.takesFid] using plain
    simp only [performCall, walkParent, if_pos basename]
    rfl
  | _ => rfl

/-- One call under the condition. -/
theorem soundSoFar_step {T : Transport σ} (call : SessionCall) (c : FidClient σ)
    (sound : SoundSoFar c) (keeps : KeepsFids T call c) :
    SoundSoFar ((fidClient T).step call c).2 := by
  refine ⟨ordered_performCall T call sound.1, ?_⟩
  intro few
  -- the counter only grows, so it has not wrapped before either
  have before : c.link.session.fidPool.allocations < 2 ^ 32 :=
    Nat.lt_of_le_of_lt (allocations_performCall T call c.link) few
  rcases keeps with ⟨calm, notRoot⟩ | ⟨plain, nothing⟩
  · exact fidsSound_undisturbed (sound.2 before) (sound.1 before).1 calm notRoot
  · apply FidsSound.of_held_nil
    change call.kept c.held ++ (performCall T call c.link).1.toList = []
    rw [nothing, takesFid_none T plain]
    rfl

/-- From `Initialize` on, the held fids are sound after every call of a run whose calls
keep them. -/
theorem heldFids_sound (T : Transport σ) (aname : Bytes) (s : σ) (calls : List SessionCall)
    (keeps : (fidClient T).Meets (KeepsFids T) calls
      ⟨(initializeSession T aname ⟨NinePSession.new, s, []⟩).2, []⟩) :
    let c := ((fidClient T).run calls
      ⟨(initializeSession T aname ⟨NinePSession.new, s, []⟩).2, []⟩).2
    c.link.session.fidPool.allocations < 2 ^ 32 → FidsSound c := by
  refine (keeps.invariant soundSoFar_step ⟨?_, fun _ => FidsSound.of_held_nil rfl⟩).2
  exact ordered_performCall T (.initializeSession aname) FidPool.Ordered.new

/-! ### A lossy server -/

/-- A client with a session that was initialized on a lossy server. -/
def attachedClient (fates : List Fate) : FidClient (List Fate × FidServer) :=
  ⟨(initializeSession (lossyFidServer 8192) [] ⟨NinePSession.new, FidServer.start fates, []⟩).2, []⟩

/-- A fid is walked to and clunked, and then the request of a `GetAttr` is lost. -/
theorem heldFids_sound_clunked :
    FidsSound ((fidClient (lossyFidServer 8192)).run [.walk [97], .clunk 1, .getAttr 0]
      (attachedClient [.delivered, .delivered, .delivered, .delivered, .requestLost])).2 := by
  refine heldFids_sound (lossyFidServer 8192) [] (FidServer.start [.delivered, .delivered,
    .delivered, .delivered, .requestLost]) [.walk [97], .clunk 1, .getAttr 0]
    ⟨Or.inl ⟨?_, ?_⟩, Or.inl ⟨?_, nofun⟩, Or.inr ⟨rfl, ?_⟩, trivial⟩ ?_
  · rintro r ⟨⟩
    decide +kernel
  · intro _
    decide +kernel
  · rintro r ⟨⟩
    decide +kernel
  · decide +kernel
  · decide +kernel

/-- The client holds fid 1 while the request of a `Read` is lost: after the
re-initialization the pool does not know fid 1. -/
theorem heldFid_not_allocated :
    (initializeSession (lossyFidServer 8192) [] ⟨NinePSession.new, FidServer.start [.delivered,
        .delivered, .delivered, .requestLost], []⟩).1 = 0 ∧
      ((fidClient (lossyFidServer 8192)).run [.walk [97], .read 1 0 16] (attachedClient
        [.delivered, .delivered, .delivered, .requestLost])).2.link.session.fidPool.allocations <
          2 ^ 32 ∧
      ¬ FidsSound ((fidClient (lossyFidServer 8192)).run [.walk [97], .read 1 0 16]
        (attachedClient [.delivered, .delivered, .delivered, .requestLost])).2 := by
  refine ⟨by decide +kernel, by decide +kernel, ?_⟩
  intro sound
  have allocated := sound.allocated 1 (by decide +kernel)
  revert allocated
  decide +kernel

end Virtio9p
