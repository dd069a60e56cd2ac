import Virtio9p.Foundation.Lookup
import Virtio9p.Properties.TestInputs

/-!
# The runfiles that the test finds

The lists of `run_under_qnx.sh` leave exactly the files of the runfiles tree that are neither the
launcher's nor hidden by name, and the guest hands on those that are in a directory.
-/
namespace Virtio9p

/-- A file of the tree that is copied. -/
def Kept (launcher : List Bytes) (testBinaryPath : Bytes) (file : List Bytes × Bytes) : Bool :=
  !hiddenName (baseName file.1) && !(excludedLines launcher testBinaryPath).contains
    (pathLine file.1)

namespace RunfilesTree

variable (tree : RunfilesTree)

/-- The files that are copied. -/
def kept (launcher : List Bytes) : Files := tree.files.filter (Kept launcher tree.testBinaryPath)

/-- The content of the shared object that stands under a path below `libs`. -/
def objectAt (path : List Bytes) : Option Bytes :=
  ((tree.files.filter fun file =>
    isSharedObject (baseName file.1) || isVersionedObject (baseName file.1)).reverse.find?
      fun file => path == [libsName, baseName file.1]).map Prod.snd

/-- What the test finds below its directory. -/
def found (launcher : List Bytes) (path : List Bytes) : Option Bytes :=
  let kept := tree.kept launcher
  let root := if hasDirectory kept mainRepository then [mainRepository] else []
  (tree.objectAt path).or (if 1 < path.length then kept.lookup (root ++ path) else none)

variable {tree}

/-- Two files have different lines. -/
theorem pathLine_injective {x y : List Bytes × Bytes} (first : x ∈ tree.files)
    (second : y ∈ tree.files)
    (same : pathLine x.1 = pathLine y.1) : x = y := by
  obtain ⟨properX, namedX⟩ := tree.named x first
  obtain ⟨properY, namedY⟩ := tree.named y second
  have paths : x.1 = y.1 :=
    calc x.1 = (pathLine x.1).splitOn 47 :=
          (List.splitOn_intercalate 47 (fun name member => (namedX name member).1) properX).symm
      _ = (pathLine y.1).splitOn 47 := by rw [same]
      _ = y.1 := List.splitOn_intercalate 47 (fun name member => (namedY name member).1) properY
  exact List.inj_on_of_nodup_map tree.distinct first second paths

section Collation

variable {collates : Bytes → Bytes → Prop} [DecidableRel collates] [Std.Total collates]
  [IsTrans Bytes collates] [Std.Antisymm collates]

omit [Std.Total collates] [IsTrans Bytes collates] [Std.Antisymm collates] in
theorem allLines_nodup : (allLines collates tree.files).Nodup := by
  have distinct : ((tree.files.map Prod.fst).filter fun path =>
      !hiddenName (baseName path)).Nodup :=
    tree.distinct.filter _
  refine (List.perm_insertionSort collates _).nodup_iff.mpr (distinct.map_on ?_)
  intro p first q second same
  obtain ⟨x, memberX, rfl⟩ := List.mem_map.mp (List.mem_of_mem_filter first)
  obtain ⟨y, memberY, rfl⟩ := List.mem_map.mp (List.mem_of_mem_filter second)
  exact congrArg Prod.fst (pathLine_injective memberX memberY same)

/-- The listed lines are those of the files that are kept. -/
theorem mem_copyList {launcher : List Bytes} {x : List Bytes × Bytes} (member : x ∈ tree.files) :
    pathLine x.1 ∈ copyList collates tree.files launcher tree.testBinaryPath ↔
      Kept launcher tree.testBinaryPath x = true := by
  have sorted : (excludeFile collates launcher tree.testBinaryPath).Pairwise collates :=
    (List.pairwise_insertionSort collates _).sublist (List.dedup_sublist _)
  have ordered : (allLines collates tree.files).Pairwise collates :=
    List.pairwise_insertionSort collates _
  rw [copyList, SortedDifference.difference_eq_filter ordered allLines_nodup sorted,
    List.mem_filter, allLines, List.mem_insertionSort, excludeFile, Kept, Bool.and_eq_true]
  refine and_congr ⟨fun listed => ?_, fun visible => ?_⟩ ?_
  · obtain ⟨p, shown, line⟩ := List.mem_map.mp listed
    obtain ⟨inTree, visible⟩ := List.mem_filter.mp shown
    obtain ⟨y, memberY, rfl⟩ := List.mem_map.mp inTree
    rw [← pathLine_injective memberY member line]
    exact visible
  · exact List.mem_map.mpr ⟨x.1, List.mem_filter.mpr ⟨List.mem_map_of_mem member, visible⟩, rfl⟩
  · simp only [decide_eq_true_eq]
    rw [List.mem_dedup, List.mem_insertionSort, Bool.not_eq_true',
      ← Bool.not_eq_true, List.contains_iff_mem]

/-- The copies are the files that are kept. -/
theorem mem_copyListed {launcher : List Bytes} (x : List Bytes × Bytes) :
    x ∈ copyListed tree.files (copyList collates tree.files launcher tree.testBinaryPath) ↔
      x ∈ tree.kept launcher := by
  rw [copyListed, List.mem_filterMap, kept, List.mem_filter]
  constructor
  · rintro ⟨line, listed, found⟩
    have member : x ∈ tree.files := List.mem_of_find?_eq_some found
    have same : pathLine x.1 = line := by simpa using List.find?_some found
    rw [← same] at listed
    exact ⟨member, (mem_copyList member).mp listed⟩
  · rintro ⟨member, visible⟩
    refine ⟨pathLine x.1, (mem_copyList member).mpr visible, ?_⟩
    cases found : tree.files.find? fun file => pathLine file.1 = pathLine x.1 with
    | none => exact absurd (List.find?_eq_none.mp found x member) (by simp)
    | some y =>
      have line : pathLine y.1 = pathLine x.1 := by simpa using List.find?_some found
      rw [pathLine_injective (List.mem_of_find?_eq_some found) member line]

theorem functional_kept (launcher : List Bytes) : Lookup.Functional (tree.kept launcher) :=
  Lookup.functional_of_nodup (tree.distinct.sublist (List.filter_sublist.map Prod.fst))

omit [Std.Total collates] [IsTrans Bytes collates] [Std.Antisymm collates]
  [DecidableRel collates] in
theorem hasDirectory_congr {l m : Files} (same : ∀ x, x ∈ l ↔ x ∈ m) (name : Bytes) :
    hasDirectory l name = hasDirectory m name := by
  unfold hasDirectory
  rw [Bool.eq_iff_iff, List.any_eq_true, List.any_eq_true]
  exact exists_congr fun x => and_congr_left fun _ => same x

/-- The libraries are those that were collected, the last one of each name. -/
theorem lookup_objects (path : List Bytes) :
    ((collectObjects tree.files).map fun file => (libsName :: file.1, file.2)).lookup path =
      tree.objectAt path := by
  rw [collectObjects, List.map_reverse, List.map_map, ← List.map_reverse]
  exact Lookup.lookup_map (fun file : List Bytes × Bytes => [libsName, baseName file.1])
    Prod.snd _ path

theorem lookup_rootFiles (files : Files) (path : List Bytes) :
    (rootFiles files).lookup path =
      files.lookup
        ((if hasDirectory files mainRepository then [mainRepository] else []) ++ path) := by
  rw [rootFiles]
  split_ifs
  · exact Lookup.lookup_below mainRepository files path
  · rfl

/-- What `prepare_test.sh` copies of a directory that `run_under_qnx.sh` filled. -/
theorem lookup_prepareFiles {launcher : List Bytes}
    (there : tree.launcher = some launcher) (s : Share)
    (path : List Bytes) :
    (prepareFiles (copyRunfiles collates tree s)).lookup path = tree.found launcher path := by
  let copied := copyListed tree.files (copyList collates tree.files launcher tree.testBinaryPath)
  have same : ∀ x, x ∈ copied ↔ x ∈ tree.kept launcher := mem_copyListed
  have filled : prepareFiles (copyRunfiles collates tree s) =
      (collectObjects tree.files).map (fun file => (libsName :: file.1, file.2)) ++
        (rootFiles copied).filter fun file => 1 < file.1.length := by
    rw [prepareFiles, copyRunfiles, there]
    simp only [Option.getD_some]
    congr 3
    split_ifs with nothing
    · exact nothing.symm
    · rfl
  rw [filled, List.lookup_append, lookup_objects, found]
  congr 1
  have long := Lookup.lookup_filter (fun p : List Bytes => decide (1 < p.length))
    (rootFiles copied) path
  rw [long, lookup_rootFiles, hasDirectory_congr same,
    Lookup.lookup_congr (functional_kept launcher) same]
  simp only [decide_eq_true_eq]

end Collation

end RunfilesTree

/-- A test that `run_under_qnx.sh` runs finds the files of the runfiles tree that are kept and in a
directory, and the shared objects below `libs`, where the guest's copies succeed. -/
theorem test_finds_runfiles (readWord : Bytes → Option (Bytes × Bytes)) (printfQ : Bytes → Bytes)
    (printed : Printed) (collates : Bytes → Bytes → Prop) [DecidableRel collates]
    [Std.Total collates] [IsTrans Bytes collates] [Std.Antisymm collates] (caller : Caller)
    (testBinary : Option Bytes) (testArgs : List Bytes) (tree : RunfilesTree)
    {launcher : List Bytes}
    (there : tree.launcher = some launcher) (host : HostOutcomes) (guest : GuestOutcomes)
    (copies : guest.copyFiles.status = 0) (boot : Variables) (n : Nat) :
    let machine := fun s => (Guest.boot boot s).run readWord guest n
    let ended := runScript host printfQ printed collates caller (.runUnder testBinary testArgs tree)
      machine (Launch.start caller)
    ∀ g run, ended.2.vm = some g → g.ran = some run →
      ∀ path, run.files.lookup path = tree.found launcher path := by
  intro machine ended g run ran was path
  obtain ⟨rfl, -⟩ := vm_of_runScript ran
  let s := (Runner.runUnder testBinary testArgs tree).shared printfQ collates caller
  have follows : (machine s).Follows readWord guest boot s := Guest.Follows.boot.run n
  have files := (follows.ran run was).files
  rw [files, Written.files, if_pos copies]
  exact RunfilesTree.lookup_prepareFiles there _ path

instance : Std.Total bytewise := inferInstanceAs (Std.Total fun a b : Bytes => a ≤ b)

instance : IsTrans Bytes bytewise := inferInstanceAs (IsTrans Bytes fun a b : Bytes => a ≤ b)

instance : Std.Antisymm bytewise := inferInstanceAs (Std.Antisymm fun a b : Bytes => a ≤ b)

/-- `t/d`, `t/l.so` and the launcher's `s/i`, whose short path is `../s/i`. -/
def smallTree : RunfilesTree where
  files := [([[116], [100]], [1]), ([[116], [108, 46, 115, 111]], [2]),
    ([externalDirectory.dropLast, [115], [105]], [3])]
  launcher := some [parentStep ++ [115, 47, 105]]
  testBinaryPath := [116, 47, 98]
  distinct := by decide
  named := by decide

/-- The data file is there, the library is below `libs` only, and the launcher's file is not there.
-/
theorem test_finds_runfiles_small :
    let machine := fun s => (Guest.boot (fun _ => none) s).run ShellWords.readWord failingTest 14
    let ended := runScript allSucceeds ShellWords.quote id bytewise bufferingCaller
      (.runUnder (some [1, 2]) [] smallTree) machine (Launch.start bufferingCaller)
    (ended.2.vm.bind Guest.ran).map (fun run =>
      [run.files.lookup [[116], [100]], run.files.lookup [libsName, [108, 46, 115, 111]],
        run.files.lookup [[116], [108, 46, 115, 111]],
        run.files.lookup [externalDirectory.dropLast, [115], [105]]]) =
      some [some [1], some [2], none, none] := by
  intro machine ended
  have there : smallTree.launcher = some [parentStep ++ [115, 47, 105]] := rfl
  have found := test_finds_runfiles ShellWords.readWord ShellWords.quote id bytewise bufferingCaller
    (some [1, 2]) [] smallTree there allSucceeds failingTest rfl (fun _ => none) 14
  have some : (ended.2.vm.bind Guest.ran).isSome = true := by decide +kernel
  obtain ⟨run, was⟩ := Option.isSome_iff_exists.mp some
  obtain ⟨g, ran, tested⟩ := Option.bind_eq_some_iff.mp was
  have files := found g run ran tested
  rw [was, Option.map_some, files, files, files, files]
  decide

end Virtio9p
