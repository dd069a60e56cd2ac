import Mathlib.Data.List.Iterate
import Mathlib.Logic.Function.Basic

/-!
# Lists threaded through a table of links

`List.iterate link head n` are the `n` nodes that are reached from `head`. The link of the
last node is not looked at, so it may point anywhere.
-/
namespace Linked

variable {ι : Type*} {link link' : ι → ι} {head x : ι} {n : Nat}

/-- Only the links of the nodes matter. -/
theorem iterate_congr (same : ∀ i ∈ List.iterate link head n, link' i = link i) :
    List.iterate link' head n = List.iterate link head n := by
  induction n generalizing head with
  | zero => rfl
  | succ n ih =>
    rw [List.iterate, List.iterate, same head List.mem_cons_self]
    rw [ih fun i member => same i (List.mem_cons_of_mem head member)]

/-- A new node in front of the list. -/
theorem iterate_push (fresh : x ∉ List.iterate link head n) (points : link' x = head)
    (same : ∀ i, i ≠ x → link' i = link i) :
    List.iterate link' x (n + 1) = x :: List.iterate link head n := by
  rw [List.iterate, points]
  congr 1
  apply iterate_congr
  intro i member
  apply same
  rintro rfl
  exact fresh member

end Linked
