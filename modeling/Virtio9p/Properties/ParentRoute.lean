import Virtio9p.Properties.FidLifetime
import Virtio9p.Protocol.Paths
import Virtio9p.Server.TreeServer

/-!
# Two ways to an object

`Create`, `Mkdir`, `Unlink` and `Rename` name an object by the fid of its directory and a
basename, `Open` by the fid of a walk of the whole path. Both lead to the same object, for every
path that `WalkParent` accepts.
-/
namespace Virtio9p

variable {σ : Type}

/-- Whatever comes out of it, `Walk` has taken a fid. -/
theorem walk_allocates (T : Transport σ) (path : Bytes) (w : Link σ) :
    w.session.fidPool.allocations < (walk T path w).2.session.fidPool.allocations := by
  let allocated : Link σ := w.onSession fun s => s.allocateFid.2
  have called := call_steps (T := T) (restartable_anyRequest allocated.session.aname)
    (fun tag => buildTwalk tag w.session.rootFid w.session.allocateFid.1 (splitPath path))
    (fun m => (parseRwalk [] m).1) (w := allocated) trivial rfl
  have grown : allocated.session.fidPool.allocations ≤ _ := allocations_steps called
  have taken : allocated.session.fidPool.allocations = w.session.fidPool.allocations + 1 := rfl
  -- a fid that is given back still counts
  have all : (walk T path w).2.session.fidPool.allocations = (Link.call T
      (fun tag => buildTwalk tag w.session.rootFid w.session.allocateFid.1 (splitPath path))
      (fun m => (parseRwalk [] m).1) allocated).2.session.fidPool.allocations := by
    unfold walk
    simp only
    split
    · rfl
    · split <;> rfl
  omega

/-- `WalkParent` turns down the paths without a basename, and those only, before it takes a fid. -/
theorem walkParent_turns_down_iff (T : Transport σ) (path : Bytes) (w : Link σ) :
    (walkParent T path w).1 = .error (-einval) ∧
        (walkParent T path w).2.session.fidPool.allocations = w.session.fidPool.allocations ↔
      Nameless path := by
  rw [← basename_empty_iff]
  unfold walkParent
  by_cases nameless : (splitParent path).2 = []
  · simp only [if_pos nameless, and_self]
    exact iff_of_true trivial nameless
  · have taken := walk_allocates T (splitParent path).1 w
    simp only [if_neg nameless]
    exact iff_of_false (fun unchanged => Nat.ne_of_gt taken unchanged.2) nameless

theorem walkParent_nameless {path : Bytes} (nameless : Nameless path) (T : Transport σ)
    (w : Link σ) : walkParent T path w = (.error (-einval), w) := by
  unfold walkParent
  simp only [if_pos (basename_empty_iff.mpr nameless)]

theorem walkParent_named {path : Bytes} (named : ¬ Nameless path) (T : Transport σ)
    (w : Link σ) :
    walkParent T path w =
      ((walk T (splitParent path).1 w).1.map fun fid => (fid, (splitParent path).2),
        (walk T (splitParent path).1 w).2) := by
  unfold walkParent
  simp only [if_neg (basename_empty_iff.not.mpr named)]

/-- What `WalkParent` returns for a path, and that the name it returns stands for the same object
in the directory it has walked to as the whole path does. -/
structure SameRoute (T : Transport σ) (path : Bytes) (w : Link σ) : Prop where
  /-- `Walk` to the parent, and the basename handed through. -/
  walks : walkParent T path w =
    ((walk T (splitParent path).1 w).1.map fun fid => (fid, (splitParent path).2),
      (walk T (splitParent path).1 w).2)
  components : splitPath path = splitPath (splitParent path).1 ++ [(splitParent path).2]
  nonempty : (splitParent path).2 ≠ []
  noSlash : 47 ∉ (splitParent path).2
  object : ∀ {ν : Type} (lookup : ν → Bytes → Option ν) (root : ν),
    locate lookup root (splitPath path) =
      (locate lookup root (splitPath (splitParent path).1)).bind fun directory =>
        lookup directory (splitParent path).2

/-- `WalkParent` returns `-EINVAL` without taking a fid exactly on an empty path and on one that
ends in a slash; on all others it goes to the directory of the object that `Walk` goes to. -/
theorem walkParent_same_route (T : Transport σ) (path : Bytes) (w : Link σ) :
    ((walkParent T path w).1 = .error (-einval) ∧
        (walkParent T path w).2.session.fidPool.allocations = w.session.fidPool.allocations ↔
      Nameless path) ∧
    (Nameless path → walkParent T path w = (.error (-einval), w)) ∧
    (¬ Nameless path → SameRoute T path w) := by
  refine ⟨walkParent_turns_down_iff T path w, fun nameless => walkParent_nameless nameless T w, ?_⟩
  intro named
  have basename : (splitParent path).2 ≠ [] := basename_empty_iff.not.mpr named
  have components := splitPath_parent basename
  refine ⟨walkParent_named named T w, components, basename, basename_noSlash path, ?_⟩
  intro ν lookup root
  rw [components, locate_concat]

/-- The doubled slash of `/a//b` is dropped from the parent, too. -/
theorem walkParent_same_route_doubled :
    SameRoute (treeServer plainHost) [47, 97, 47, 47, 98] (attachedTo oneFile []) ∧
      walkParent (treeServer plainHost) [97, 47] (attachedTo oneFile []) =
        (.error (-einval), attachedTo oneFile []) :=
  ⟨(walkParent_same_route (treeServer plainHost) [47, 97, 47, 47, 98] (attachedTo oneFile [])).2.2
      (by decide),
    (walkParent_same_route (treeServer plainHost) [97, 47] (attachedTo oneFile [])).2.1 (by decide)⟩

end Virtio9p
