import Mathlib.Data.List.Sort
import Mathlib.Data.List.Dedup

/-!
# The difference of two sorted lists

Two sorted lists are walked side by side. Entries of the second one that come before the next entry
of the first are skipped; where the two are equal both lists go on. What is left of the first list
are its entries that the second one does not have.
-/
namespace SortedDifference

variable {α : Type*} (r : α → α → Prop) [DecidableRel r] [DecidableEq α]

/-- Skip what comes before `a`. -/
def skipTo (a : α) : List α → List α
  | [] => []
  | b :: bs => if r a b then b :: bs else skipTo a bs

def difference : List α → List α → List α
  | [], _ => []
  | a :: as, bs =>
    match skipTo r a bs with
    | [] => a :: difference as []
    | b :: bs => if a = b then difference as bs else a :: difference as (b :: bs)

variable {r}

omit [DecidableEq α] in
theorem skipTo_sublist (a : α) (bs : List α) : (skipTo r a bs).Sublist bs := by
  induction bs with
  | nil => exact List.Sublist.refl _
  | cons b bs ih =>
    rw [skipTo]
    split_ifs
    · exact List.Sublist.refl _
    · exact ih.trans (List.sublist_cons_self b bs)

omit [DecidableEq α] in
/-- Only what does not come behind `a` is skipped. -/
theorem mem_skipTo {a x : α} (behind : r a x) {bs : List α} : x ∈ skipTo r a bs ↔ x ∈ bs := by
  induction bs with
  | nil => exact Iff.rfl
  | cons b bs ih =>
    rw [skipTo]
    split_ifs with stops
    · exact Iff.rfl
    · have apart : x ≠ b := fun same => stops (same ▸ behind)
      rw [ih, List.mem_cons, or_iff_right apart]

omit [DecidableEq α] in
theorem skipTo_head {a b : α} {bs rest : List α} (stopped : skipTo r a bs = b :: rest) : r a b := by
  induction bs with
  | nil => cases stopped
  | cons c bs ih =>
    rw [skipTo] at stopped
    split_ifs at stopped with stops
    · cases stopped
      exact stops
    · exact ih stopped

/-- The entries of a sorted list without repetitions that a sorted list does not have. -/
theorem difference_eq_filter [Std.Antisymm r] [Std.Refl r] {as bs : List α}
    (sorted : as.Pairwise r) (distinct : as.Nodup) (excluded : bs.Pairwise r) :
    difference r as bs = as.filter (· ∉ bs) := by
  induction as generalizing bs with
  | nil => rfl
  | cons a as ih =>
    obtain ⟨first, sorted⟩ := List.pairwise_cons.mp sorted
    obtain ⟨once, distinct⟩ := List.nodup_cons.mp distinct
    -- what is skipped is not in the first list
    have skipped : ∀ x ∈ a :: as, (x ∈ skipTo r a bs ↔ x ∈ bs) := by
      intro x member
      rcases List.mem_cons.mp member with rfl | later
      · exact mem_skipTo (Std.Refl.refl x)
      · exact mem_skipTo (first x later)
    have same : (a :: as).filter (· ∉ bs) = (a :: as).filter (· ∉ skipTo r a bs) :=
      List.filter_congr fun x member => by rw [decide_eq_decide, skipped x member]
    have ordered := excluded.sublist (skipTo_sublist (r := r) a bs)
    rw [same, difference]
    cases rest : skipTo r a bs with
    | nil => rw [ih sorted distinct List.Pairwise.nil, List.filter_cons_of_pos (by simp)]
    | cons b rest' =>
      rw [rest] at ordered
      obtain ⟨before, ordered'⟩ := List.pairwise_cons.mp ordered
      simp only
      split_ifs with equal
      · subst equal
        rw [ih sorted distinct ordered', List.filter_cons_of_neg (by simp)]
        refine List.filter_congr fun x member => ?_
        have apart : x ≠ a := fun same => once (same ▸ member)
        rw [decide_eq_decide, List.mem_cons, or_iff_right apart]
      · have absent : a ∉ b :: rest' := by
          rintro member
          rcases List.mem_cons.mp member with same | later
          · exact equal same
          · exact equal (Std.Antisymm.antisymm a b (skipTo_head rest) (before a later))
        rw [ih sorted distinct ordered, List.filter_cons_of_pos (by simpa using absent)]

end SortedDifference
