import Mathlib.Data.List.Basic
import Mathlib.Data.List.Nodup

/-!
# Reading a list in pages

A reader takes a list in pages and remembers the key of the last element of each page. With
keys that are distinct, going on behind a key is going on with the rest of the list. Pages
that are empty only at the end make up the list, whatever their sizes are.
-/
namespace Paging

variable {α κ : Type*}

/-- What follows the element with the given key. -/
def after [DecidableEq κ] (key : α → κ) (k : κ) : List α → List α
  | [] => []
  | a :: as => if key a = k then as else after key k as

theorem after_suffix [DecidableEq κ] (key : α → κ) (k : κ) (as : List α) :
    after key k as <:+ as := by
  induction as with
  | nil => exact List.suffix_refl []
  | cons a as ih =>
    rw [after]
    split
    · exact List.suffix_cons a as
    · exact ih.trans (List.suffix_cons a as)

theorem after_append [DecidableEq κ] {key : α → κ} {pre post : List α} {a : α}
    (distinct : ((pre ++ a :: post).map key).Nodup) :
    after key (key a) (pre ++ a :: post) = post := by
  induction pre with
  | nil => simp [after]
  | cons b pre ih =>
    rw [List.cons_append, List.map_cons, List.nodup_cons] at distinct
    have other : key b ≠ key a := by
      intro same
      apply distinct.1
      rw [same]
      exact List.mem_map_of_mem (by simp)
    rw [List.cons_append, after, if_neg other]
    exact ih distinct.2

/-- Pages of a list in order; only behind the end of the list is a page empty. -/
inductive Paged : List α → List (List α) → Prop where
  | stop {rest : List α} : Paged rest []
  | next {page rest : List α} {pages : List (List α)} :
    (page = [] → rest = []) → Paged rest pages → Paged (page ++ rest) (page :: pages)

/-- All elements of the pages before the first empty one. -/
def shown : List (List α) → List α
  | [] => []
  | page :: pages => if page.isEmpty then [] else page ++ shown pages

@[simp] theorem shown_empty (pages : List (List α)) : shown ([] :: pages) = [] := rfl

@[simp] theorem shown_cons {page : List α} (full : page ≠ []) (pages : List (List α)) :
    shown (page :: pages) = page ++ shown pages := by
  rw [shown, if_neg (by simpa using full)]

theorem Paged.shown_prefix {all : List α} {pages : List (List α)} (paged : Paged all pages) :
    shown pages <+: all := by
  induction paged with
  | stop => exact List.nil_prefix
  | @next page rest pages _ _ ih =>
    by_cases empty : page = []
    · rw [empty, shown_empty]
      exact List.nil_prefix
    · rw [shown_cons empty]
      exact (List.prefix_append_right_inj page).mpr ih

/-- The pages before an empty one are the whole list. -/
theorem Paged.shown_eq {all : List α} {pages : List (List α)} (paged : Paged all pages)
    (ended : [] ∈ pages) : shown pages = all := by
  induction paged with
  | stop => cases ended
  | @next page rest pages behind _ ih =>
    by_cases empty : page = []
    · simp [empty, behind empty]
    · have later : [] ∈ pages := by
        rcases List.mem_cons.mp ended with first | later
        · exact absurd first.symm empty
        · exact later
      rw [shown_cons empty, ih later]

/-- With more pages than elements one of them is empty. -/
theorem Paged.ends {all : List α} {pages : List (List α)} (paged : Paged all pages)
    (many : all.length < pages.length) : [] ∈ pages := by
  induction paged with
  | stop => exact absurd many (Nat.not_lt_zero _)
  | @next page rest pages _ _ ih =>
    by_cases empty : page = []
    · rw [empty]
      exact List.mem_cons_self
    · have positive := List.length_pos_of_ne_nil empty
      rw [List.length_append, List.length_cons] at many
      exact List.mem_cons_of_mem page (ih (by omega))

/-- Elements that are converted one by one are shown converted. -/
theorem shown_map {β : Type*} (f : α → β) (pages : List (List α)) :
    shown (pages.map (List.map f)) = (shown pages).map f := by
  induction pages with
  | nil => rfl
  | cons page pages ih =>
    by_cases empty : page = []
    · simp [empty]
    · have full : page.map f ≠ [] := by simpa using empty
      rw [List.map_cons, shown_cons full, shown_cons empty, List.map_append, ih]

end Paging
