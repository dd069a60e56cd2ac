import Virtio9p.Protocol.Session

/-!
# Paths

`Walk` splits a path at every slash and drops the empty pieces, `WalkParent` splits it at the
last slash. Where `WalkParent` finds a basename, the two agree on the components.
-/
namespace Virtio9p

/-- The path ends without a name. -/
def Nameless (path : Bytes) : Prop := path = [] ∨ path.getLast? = some 47

instance (path : Bytes) : Decidable (Nameless path) :=
  inferInstanceAs (Decidable (_ ∨ _))

/-- Look up names one by one. -/
def locate {ν : Type} (lookup : ν → Bytes → Option ν) (node : ν) (names : List Bytes) : Option ν :=
  names.foldlM lookup node

theorem locate_concat {ν : Type} (lookup : ν → Bytes → Option ν) (node : ν)
    (names : List Bytes) (name : Bytes) :
    locate lookup node (names ++ [name]) =
      (locate lookup node names).bind fun next => lookup next name := by
  unfold locate
  rw [List.foldlM_append]
  simp

/-! ### The last slash -/

private theorem exists_last_slash {path : Bytes} (slash : 47 ∈ path) :
    ∃ parent basename, path = parent ++ 47 :: basename ∧ 47 ∉ basename := by
  -- the first slash of the reversed path
  obtain ⟨front, back, split, first⟩ := List.eq_append_cons_of_mem (List.mem_reverse.mpr slash)
  refine ⟨back.reverse, front.reverse, ?_, by simpa using first⟩
  rw [← List.reverse_reverse path, split]
  simp

private theorem rfindSlash_none {path : Bytes} (flat : 47 ∉ path) : rfindSlash path = none := by
  unfold rfindSlash
  rw [List.idxOf?_eq_none_iff.mpr (by simpa using flat)]
  rfl

private theorem rfindSlash_last {parent basename : Bytes} (last : 47 ∉ basename) :
    rfindSlash (parent ++ 47 :: basename) = some parent.length := by
  have index : (parent ++ 47 :: basename).reverse.idxOf? 47 = some basename.length := by
    rw [List.reverse_append, List.reverse_cons, List.append_assoc, List.idxOf?_eq_some_iff]
    refine ⟨by simp, by simp, ?_⟩
    intro j early same
    -- before it stand the bytes of the basename
    have early : j < basename.reverse.length := by rwa [List.length_reverse]
    rw [List.getElem_append_left early] at same
    exact last (List.mem_reverse.mp (same ▸ List.getElem_mem early))
  unfold rfindSlash
  rw [index]
  simp

theorem splitParent_flat {path : Bytes} (flat : 47 ∉ path) : splitParent path = ([], path) := by
  unfold splitParent
  rw [rfindSlash_none flat]

theorem splitParent_last {parent basename : Bytes} (last : 47 ∉ basename) :
    splitParent (parent ++ 47 :: basename) = (parent, basename) := by
  unfold splitParent
  rw [rfindSlash_last last]
  simp

/-! ### Components -/

theorem splitPath_flat {name : Bytes} (flat : 47 ∉ name) (nonempty : name ≠ []) :
    splitPath name = [name] := by
  unfold splitPath
  rw [List.splitOn_eq_singleton flat]
  simp [nonempty]

theorem splitPath_slash (parent rest : Bytes) :
    splitPath (parent ++ 47 :: rest) = splitPath parent ++ splitPath rest := by
  unfold splitPath
  rw [List.splitOn_append_cons_self, List.filter_append]

section Parent

variable {path : Bytes}

theorem basename_noSlash (path : Bytes) : 47 ∉ (splitParent path).2 := by
  by_cases slash : 47 ∈ path
  · obtain ⟨parent, basename, rfl, last⟩ := exists_last_slash slash
    rw [splitParent_last last]
    exact last
  · rw [splitParent_flat slash]
    exact slash

/-- There is no basename exactly if the path ends without a name. -/
theorem basename_empty_iff : (splitParent path).2 = [] ↔ Nameless path := by
  unfold Nameless
  by_cases slash : 47 ∈ path
  · obtain ⟨parent, basename, rfl, last⟩ := exists_last_slash slash
    rw [splitParent_last last]
    cases basename using List.reverseRecOn with
    | nil => simp
    | append_singleton front b =>
      have other : b ≠ 47 := by
        rintro rfl
        simp at last
      rw [← List.cons_append, ← List.append_assoc, List.getLast?_concat]
      simp [other]
  · rw [splitParent_flat slash]
    constructor
    · exact .inl
    · rintro (empty | ends)
      · exact empty
      · exact absurd (List.mem_of_getLast? ends) slash

/-- The components of a path are those of its parent and the basename. -/
theorem splitPath_parent (named : (splitParent path).2 ≠ []) :
    splitPath path = splitPath (splitParent path).1 ++ [(splitParent path).2] := by
  by_cases slash : 47 ∈ path
  · obtain ⟨parent, basename, rfl, last⟩ := exists_last_slash slash
    rw [splitParent_last last] at named ⊢
    rw [splitPath_slash, splitPath_flat last named]
  · rw [splitParent_flat slash] at named ⊢
    exact splitPath_flat slash named

end Parent

end Virtio9p
