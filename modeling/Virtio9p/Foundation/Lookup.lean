import Mathlib.Data.List.Nodup

/-!
# Lookups in a list of pairs

What a lookup finds in a list that was made of another one, and in two lists with the same pairs.
-/
namespace Lookup

variable {α β γ : Type*} [BEq α] [LawfulBEq α]

/-- No key has two values. -/
def Functional (l : List (α × β)) : Prop := ∀ k v v', (k, v) ∈ l → (k, v') ∈ l → v = v'

omit [BEq α] [LawfulBEq α] in
theorem functional_of_nodup {l : List (α × β)} (distinct : (l.map Prod.fst).Nodup) :
    Functional l := by
  intro k v v' first second
  exact congrArg Prod.snd (List.inj_on_of_nodup_map distinct first second rfl)

theorem lookup_eq_some_iff {l : List (α × β)} (functional : Functional l) {k : α} {v : β} :
    l.lookup k = some v ↔ (k, v) ∈ l := by
  constructor
  · intro found
    obtain ⟨before, after, rfl, -⟩ := List.lookup_eq_some_iff.mp found
    exact List.mem_append_right before List.mem_cons_self
  · intro member
    cases found : l.lookup k with
    | none => exact absurd (List.lookup_eq_none_iff.mp found (k, v) member) (by simp)
    | some v' =>
      obtain ⟨before, after, rfl, -⟩ := List.lookup_eq_some_iff.mp found
      rw [functional k v' v (List.mem_append_right before List.mem_cons_self) member]

/-- The same pairs in another order. -/
theorem lookup_congr {l m : List (α × β)} (functional : Functional m)
    (same : ∀ x, x ∈ l ↔ x ∈ m) (k : α) : l.lookup k = m.lookup k := by
  have functional' : Functional l := fun k v v' first second =>
    functional k v v' ((same _).mp first) ((same _).mp second)
  refine Option.ext fun v => ?_
  rw [lookup_eq_some_iff functional', lookup_eq_some_iff functional, same]

theorem lookup_cons_ne {k : α} {x : α × β} (apart : k ≠ x.1) (l : List (α × β)) :
    (x :: l).lookup k = l.lookup k := by
  rw [List.lookup_cons, beq_false_of_ne apart]

theorem lookup_map (key : γ → α) (value : γ → β) (l : List γ) (k : α) :
    (l.map fun x => (key x, value x)).lookup k = (l.find? fun x => k == key x).map value := by
  induction l with
  | nil => rfl
  | cons x l ih =>
    rw [List.map_cons, List.find?_cons]
    by_cases here : k = key x
    · subst here
      simp
    · rw [lookup_cons_ne here, ih, beq_false_of_ne here]

theorem lookup_filter (p : α → Bool) (l : List (α × β)) (k : α) :
    (l.filter fun x => p x.1).lookup k = if p k then l.lookup k else none := by
  induction l with
  | nil => simp
  | cons x l ih =>
    obtain ⟨key, v⟩ := x
    rw [List.filter_cons]
    by_cases here : k = key
    · subst here
      by_cases kept : p k = true
      · simp [kept]
      · simp [kept, ih]
    · rw [lookup_cons_ne here, ← ih]
      split_ifs
      · exact lookup_cons_ne here _
      · rfl

/-- Behind a common first component. -/
theorem lookup_below [DecidableEq α] (a : α) (l : List (List α × β)) (path : List α) :
    (l.filterMap fun x => if x.1.head? = some a then some (x.1.tail, x.2) else none).lookup path =
      l.lookup (a :: path) := by
  induction l with
  | nil => rfl
  | cons x l ih =>
    obtain ⟨key, v⟩ := x
    rw [List.filterMap_cons]
    by_cases whole : a :: path = key
    · subst whole
      simp
    · have skipped : ((key, v) :: l).lookup (a :: path) = l.lookup (a :: path) :=
        lookup_cons_ne whole l
      rw [skipped, ← ih]
      cases key with
      | nil => rfl
      | cons b key =>
        by_cases below : b = a
        · have apart : path ≠ key := fun same => whole (by rw [same, below])
          simp only [List.head?_cons, below, if_true, List.tail_cons]
          exact lookup_cons_ne apart _
        · simp [below]

end Lookup
