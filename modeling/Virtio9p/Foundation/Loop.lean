import Mathlib.Logic.Basic

/-!
# Loops

A loop takes a round in a state and either leaves with a result or goes on in another
state. If its measure never grows, it ends unless it comes to a state from which on it keeps
going and the measure stays where it is.
-/

structure Loop (σ ρ : Type*) where
  round : σ → ρ ⊕ σ

namespace Loop

variable {σ ρ : Type*} (L : Loop σ ρ)

/-- The result, if the loop leaves within a number of rounds. -/
def run : Nat → σ → Option ρ
  | 0, _ => none
  | n + 1, s =>
    match L.round s with
    | .inl r => some r
    | .inr s' => run n s'

/-- The state after a number of rounds, if the loop is still going. -/
def after : Nat → σ → Option σ
  | 0, s => some s
  | n + 1, s =>
    match L.round s with
    | .inl _ => none
    | .inr s' => after n s'

def Ends (s : σ) : Prop := ∃ n r, L.run n s = some r

/-- The loop never leaves, and the measure stays. -/
def Stands (measure : σ → Nat) (s : σ) : Prop :=
  ∀ n, ∃ s', L.after n s = some s' ∧ measure s' = measure s

variable {L} {s s' : σ} {r r' : ρ}

theorem run_leaves (leaves : L.round s = .inl r) (n : Nat) : L.run (n + 1) s = some r := by
  rw [run, leaves]

theorem run_goes (goes : L.round s = .inr s') (n : Nat) : L.run (n + 1) s = L.run n s' := by
  rw [run, goes]

theorem after_goes (goes : L.round s = .inr s') (n : Nat) : L.after (n + 1) s = L.after n s' := by
  rw [after, goes]

theorem after_leaves (leaves : L.round s = .inl r) (n : Nat) : L.after (n + 1) s = none := by
  rw [after, leaves]

theorem after_add {m : Nat} (reached : L.after m s = some s') (n : Nat) :
    L.after (m + n) s = L.after n s' := by
  induction m generalizing s with
  | zero =>
    cases reached
    rw [Nat.zero_add]
  | succ m ih =>
    cases step : L.round s with
    | inl r =>
      rw [after_leaves step] at reached
      cases reached
    | inr next =>
      rw [after_goes step] at reached
      rw [Nat.succ_add, after_goes step, ih reached]

/-- A state that takes a round to get to was left for it. -/
theorem after_succ {n : Nat} (reached : L.after (n + 1) s = some s') :
    ∃ t, L.after n s = some t ∧ L.round t = .inr s' := by
  induction n generalizing s with
  | zero =>
    cases step : L.round s with
    | inl r =>
      rw [after_leaves step] at reached
      cases reached
    | inr next =>
      rw [after_goes step] at reached
      cases reached
      exact ⟨s, rfl, step⟩
  | succ n ih =>
    cases step : L.round s with
    | inl r =>
      rw [after_leaves step] at reached
      cases reached
    | inr next =>
      rw [after_goes step] at reached
      obtain ⟨t, before, goes⟩ := ih reached
      exact ⟨t, by rw [after_goes step, before], goes⟩

theorem run_after {m : Nat} (reached : L.after m s = some s') (n : Nat) :
    L.run (m + n) s = L.run n s' := by
  induction m generalizing s with
  | zero =>
    cases reached
    rw [Nat.zero_add]
  | succ m ih =>
    cases step : L.round s with
    | inl r =>
      rw [after_leaves step] at reached
      cases reached
    | inr next =>
      rw [after_goes step] at reached
      rw [Nat.succ_add, run_goes step, ih reached]

/-- A loop has left exactly in a round that it got to. -/
theorem run_some {n : Nat} (left : L.run n s = some r) :
    ∃ m s', L.after m s = some s' ∧ L.round s' = .inl r := by
  induction n generalizing s with
  | zero => cases left
  | succ n ih =>
    cases step : L.round s with
    | inl r' =>
      rw [run_leaves step] at left
      cases left
      exact ⟨0, s, rfl, step⟩
    | inr next =>
      rw [run_goes step] at left
      obtain ⟨m, s', reached, last⟩ := ih left
      exact ⟨m + 1, s', by rw [after_goes step, reached], last⟩

theorem run_more {n : Nat} (left : L.run n s = some r) (k : Nat) : L.run (n + k) s = some r := by
  induction n generalizing s with
  | zero => cases left
  | succ n ih =>
    cases step : L.round s with
    | inl r' =>
      rw [run_leaves step] at left
      rw [Nat.succ_add, run_leaves step, left]
    | inr next =>
      rw [run_goes step] at left
      rw [Nat.succ_add, run_goes step, ih left]

/-- Rounds before the one that leaves go on, and get to it. -/
theorem goes_on {m n : Nat} {t : σ} (reached : L.after m s = some s')
    (leaves : L.round s' = .inl r) (going : L.after n s = some t) :
    t = s' ∨ ∃ next k, L.round t = .inr next ∧ L.after k next = some s' := by
  induction m generalizing s n with
  | zero =>
    cases reached
    cases n with
    | zero =>
      cases going
      exact .inl rfl
    | succ n =>
      rw [after_leaves leaves] at going
      cases going
  | succ m ih =>
    cases step : L.round s with
    | inl r' =>
      rw [after_leaves step] at reached
      cases reached
    | inr next =>
      cases n with
      | zero =>
        cases going
        rw [after_goes step] at reached
        exact .inr ⟨next, m, step, reached⟩
      | succ n =>
        rw [after_goes step] at reached going
        exact ih reached going

theorem run_none_of_after {n : Nat} (going : L.after n s = some s') : L.run n s = none :=
  run_after going 0

theorem ends_of_after_none {n : Nat} (gone : L.after n s = none) : L.Ends s := by
  induction n generalizing s with
  | zero => cases gone
  | succ n ih =>
    cases step : L.round s with
    | inl r => exact ⟨1, r, run_leaves step 0⟩
    | inr next =>
      rw [after_goes step] at gone
      obtain ⟨m, r, left⟩ := ih gone
      exact ⟨m + 1, r, by rw [run_goes step, left]⟩

theorem Stands.not_ends {measure : σ → Nat} (stands : L.Stands measure s) : ¬ L.Ends s := by
  rintro ⟨n, r, left⟩
  obtain ⟨s', going, -⟩ := stands n
  rw [run_none_of_after going] at left
  cases left

/-- A standing loop stands again after a round. -/
theorem Stands.next {measure : σ → Nat} (stands : L.Stands measure s) :
    ∃ s', L.round s = .inr s' ∧ measure s' = measure s ∧ L.Stands measure s' := by
  cases step : L.round s with
  | inl r =>
    obtain ⟨s', going, -⟩ := stands 1
    rw [after_leaves step] at going
    cases going
  | inr next =>
    have same : measure next = measure s := by
      obtain ⟨s', going, same⟩ := stands 1
      rw [after_goes step] at going
      cases going
      exact same
    refine ⟨next, rfl, same, fun n => ?_⟩
    obtain ⟨s', going, later⟩ := stands (n + 1)
    rw [after_goes step] at going
    exact ⟨s', going, by rw [later, same]⟩

section Measure

variable {Inv : σ → Prop} {measure : σ → Nat}
  (preserved : ∀ s s', Inv s → L.round s = .inr s' → Inv s' ∧ measure s' ≤ measure s)

include preserved

theorem after_invariant {n : Nat} (start : Inv s) (reached : L.after n s = some s') :
    Inv s' ∧ measure s' ≤ measure s := by
  induction n generalizing s with
  | zero =>
    cases reached
    exact ⟨start, Nat.le_refl _⟩
  | succ n ih =>
    cases step : L.round s with
    | inl r =>
      rw [after_leaves step] at reached
      cases reached
    | inr next =>
      obtain ⟨inv, lower⟩ := preserved s next start step
      rw [after_goes step] at reached
      obtain ⟨inv', lower'⟩ := ih inv reached
      exact ⟨inv', Nat.le_trans lower' lower⟩

private theorem ends_or_stands (bound : Nat) (start : Inv s) (within : measure s ≤ bound) :
    L.Ends s ∨ ∃ n s', L.after n s = some s' ∧ L.Stands measure s' := by
  induction bound using Nat.strongRecOn generalizing s with
  | _ bound ih =>
    by_cases stands : L.Stands measure s
    · exact .inr ⟨0, s, rfl, stands⟩
    · -- some round later the loop has left, or the measure is lower
      simp only [Stands, not_forall, not_exists, not_and] at stands
      obtain ⟨n, moved⟩ := stands
      cases reached : L.after n s with
      | none => exact .inl (ends_of_after_none reached)
      | some next =>
        obtain ⟨inv, lower⟩ := after_invariant preserved start reached
        have less : measure next < measure s := Nat.lt_of_le_of_ne lower (moved next reached)
        rcases ih (measure next) (by omega) inv (Nat.le_refl _) with ⟨m, r, left⟩ | later
        · exact .inl ⟨n + m, r, by rw [run_after reached, left]⟩
        · obtain ⟨m, s', reached', stands⟩ := later
          exact .inr ⟨n + m, s', by rw [after_add reached, reached'], stands⟩

/-- With a measure that never grows, a loop ends exactly if it comes to stand nowhere. -/
theorem ends_iff_not_stands (start : Inv s) :
    L.Ends s ↔ ¬ ∃ n s', L.after n s = some s' ∧ L.Stands measure s' := by
  constructor
  · rintro ⟨n, r, left⟩ ⟨m, s', reached, stands⟩
    refine stands.not_ends ⟨n, r, ?_⟩
    rw [← run_after reached, Nat.add_comm]
    exact run_more left m
  · intro nowhere
    exact (ends_or_stands preserved (measure s) start (Nat.le_refl _)).resolve_right nowhere

end Measure

end Loop
