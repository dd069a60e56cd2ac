import Mathlib.Data.List.Basic

/-!
# Runs of deterministic machines

A machine takes an input in a state and gives an output and the next state. A
condition on inputs is relative to the state they are taken in. Under such a condition,
what one step preserves a whole run preserves, and a simulation of single steps is a
simulation of runs.
-/

structure Machine (ι ο σ : Type*) where
  step : ι → σ → ο × σ

namespace Machine

variable {ι ο σ τ : Type*} (M : Machine ι ο σ) (N : Machine ι ο τ)

/-- The outputs of a run and the state it ends in. -/
def run : List ι → σ → List ο × σ
  | [], s => ([], s)
  | i :: is, s =>
    let rest := run is (M.step i s).2
    ((M.step i s).1 :: rest.1, rest.2)

/-- Every input of the run meets the condition in the state it is taken in. -/
def Meets (cond : ι → σ → Prop) : List ι → σ → Prop
  | [], _ => True
  | i :: is, s => cond i s ∧ Meets cond is (M.step i s).2

variable {M N}

theorem Meets.and {cond : ι → σ → Prop} {valid : ι → Prop} {is : List ι} {s : σ}
    (meets : M.Meets cond is s) (all : ∀ i ∈ is, valid i) :
    M.Meets (fun i s => valid i ∧ cond i s) is s := by
  induction is generalizing s with
  | nil => exact trivial
  | cons i is ih =>
    exact ⟨⟨all i List.mem_cons_self, meets.1⟩,
      ih meets.2 fun j member => all j (List.mem_cons_of_mem i member)⟩

/-- A condition on the inputs alone. -/
theorem meets_of_forall {valid : ι → Prop} {is : List ι} (all : ∀ i ∈ is, valid i) (s : σ) :
    M.Meets (fun i _ => valid i) is s := by
  induction is generalizing s with
  | nil => exact trivial
  | cons i is ih =>
    exact ⟨all i List.mem_cons_self, ih (fun j member => all j (List.mem_cons_of_mem i member)) _⟩

theorem Meets.invariant {cond : ι → σ → Prop} {Inv : σ → Prop}
    (preserved : ∀ i s, Inv s → cond i s → Inv (M.step i s).2) {is : List ι} {s : σ}
    (meets : M.Meets cond is s) (start : Inv s) : Inv (M.run is s).2 := by
  induction is generalizing s with
  | nil => exact start
  | cons i is ih => exact ih meets.2 (preserved i s start meets.1)

/-- In a run that meets `valid`, conditions agree that do so wherever an invariant holds, which
either of them keeps. -/
theorem Meets.congr {valid cond cond' : ι → σ → Prop} {Inv : σ → Prop}
    (same : ∀ i s, Inv s → valid i s → (cond i s ↔ cond' i s))
    (preserved : ∀ i s, Inv s → valid i s → cond i s → Inv (M.step i s).2) {is : List ι} {s : σ}
    (meets : M.Meets valid is s) (start : Inv s) : M.Meets cond is s ↔ M.Meets cond' is s := by
  induction is generalizing s with
  | nil => exact Iff.rfl
  | cons i is ih =>
    constructor
    · rintro ⟨now, later⟩
      have inv := preserved i s start meets.1 now
      exact ⟨(same i s start meets.1).mp now, (ih meets.2 inv).mp later⟩
    · rintro ⟨now, later⟩
      have now := (same i s start meets.1).mpr now
      exact ⟨now, (ih meets.2 (preserved i s start meets.1 now)).mpr later⟩

theorem meets_congr {cond cond' : ι → σ → Prop} {Inv : σ → Prop}
    (same : ∀ i s, Inv s → (cond i s ↔ cond' i s))
    (preserved : ∀ i s, Inv s → cond i s → Inv (M.step i s).2) (is : List ι) {s : σ}
    (start : Inv s) : M.Meets cond is s ↔ M.Meets cond' is s :=
  have meets : M.Meets (fun _ _ => True) is s := meets_of_forall (fun _ _ => trivial) s
  meets.congr
    (fun i s inv _ => same i s inv) (fun i s inv _ => preserved i s inv) start

theorem run_append (is js : List ι) (s : σ) :
    M.run (is ++ js) s = ((M.run is s).1 ++ (M.run js (M.run is s).2).1,
      (M.run js (M.run is s).2).2) := by
  induction is generalizing s with
  | nil => rfl
  | cons i is ih =>
    simp only [List.cons_append, run]
    rw [ih]

theorem meets_append {cond : ι → σ → Prop} {is js : List ι} {s : σ} :
    M.Meets cond (is ++ js) s ↔ M.Meets cond is s ∧ M.Meets cond js (M.run is s).2 := by
  induction is generalizing s with
  | nil => exact (and_iff_right trivial).symm
  | cons i is ih =>
    constructor
    · rintro ⟨now, later⟩
      obtain ⟨first, rest⟩ := ih.mp later
      exact ⟨⟨now, first⟩, rest⟩
    · rintro ⟨⟨now, first⟩, rest⟩
      exact ⟨now, ih.mpr ⟨first, rest⟩⟩

/-- A run meets a condition if each of its inputs does behind those that come before it. -/
theorem meets_iff_splits {cond : ι → σ → Prop} {is : List ι} {s : σ} :
    M.Meets cond is s ↔
      ∀ before i after, is = before ++ i :: after → cond i (M.run before s).2 := by
  induction is generalizing s with
  | nil =>
    refine iff_of_true trivial ?_
    intro before i after split
    exact absurd split.symm (by simp)
  | cons j is ih =>
    constructor
    · rintro ⟨now, later⟩ before i after split
      cases before with
      | nil =>
        cases split
        exact now
      | cons b before =>
        cases split
        exact ih.mp later before i after rfl
    · intro all
      refine ⟨all [] j is rfl, ih.mpr ?_⟩
      intro before i after split
      exact all (j :: before) i after (by rw [split]; rfl)

theorem run_invariant {Inv : σ → Prop} (preserved : ∀ i s, Inv s → Inv (M.step i s).2)
    (is : List ι) {s : σ} (start : Inv s) : Inv (M.run is s).2 := by
  induction is generalizing s with
  | nil => exact start
  | cons i is ih => exact ih (preserved i s start)

/-- If a step keeps an invariant exactly under a condition, and never makes up for a loss, a run
keeps it exactly if every step meets the condition. -/
theorem run_invariant_iff {cond : ι → σ → Prop} {Inv : σ → Prop}
    (step : ∀ i s, Inv (M.step i s).2 ↔ Inv s ∧ cond i s) (is : List ι) (s : σ) :
    Inv (M.run is s).2 ↔ Inv s ∧ M.Meets cond is s := by
  induction is generalizing s with
  | nil => exact (and_iff_left trivial).symm
  | cons i is ih =>
    calc Inv (M.run is (M.step i s).2).2
        ↔ Inv (M.step i s).2 ∧ M.Meets cond is (M.step i s).2 := ih _
      _ ↔ (Inv s ∧ cond i s) ∧ M.Meets cond is (M.step i s).2 := by rw [step]
      _ ↔ Inv s ∧ M.Meets cond (i :: is) s := and_assoc

/-- All outputs of a run are good if each step gives a good one where it is taken. -/
theorem outputs_iff {good : ο → Prop} (is : List ι) (s : σ) :
    (∀ o ∈ (M.run is s).1, good o) ↔ M.Meets (fun i s => good (M.step i s).1) is s := by
  induction is generalizing s with
  | nil => exact iff_of_true nofun trivial
  | cons i is ih =>
    rw [run, List.forall_mem_cons, ih]
    rfl

theorem run_outputs {Inv : σ → Prop} {good : ο → Prop}
    (preserved : ∀ i s, Inv s → Inv (M.step i s).2) (gives : ∀ i s, Inv s → good (M.step i s).1)
    (is : List ι) {s : σ} (start : Inv s) : ∀ o ∈ (M.run is s).1, good o := by
  induction is generalizing s with
  | nil => rintro o ⟨⟩
  | cons i is ih =>
    intro o member
    rcases List.mem_cons.mp member with rfl | later
    · exact gives i s start
    · exact ih (preserved i s start) o later

theorem Meets.outputs {cond : ι → σ → Prop} {good : ο → Prop}
    (gives : ∀ i s, cond i s → good (M.step i s).1) {is : List ι} {s : σ}
    (meets : M.Meets cond is s) : ∀ o ∈ (M.run is s).1, good o := by
  induction is generalizing s with
  | nil => rintro o ⟨⟩
  | cons i is ih =>
    intro o member
    rcases List.mem_cons.mp member with rfl | later
    · exact gives i s meets.1
    · exact ih meets.2 o later

/-- Steps that agree on their outputs and stay related make runs that do. -/
theorem Meets.simulation {cond : ι → σ → Prop} {Rel : σ → τ → Prop}
    (simulates : ∀ i s t, Rel s t → cond i s →
      (M.step i s).1 = (N.step i t).1 ∧ Rel (M.step i s).2 (N.step i t).2)
    {is : List ι} {s : σ} {t : τ} (meets : M.Meets cond is s) (start : Rel s t) :
    (M.run is s).1 = (N.run is t).1 ∧ Rel (M.run is s).2 (N.run is t).2 := by
  induction is generalizing s t with
  | nil => exact ⟨rfl, start⟩
  | cons i is ih =>
    obtain ⟨outputs, related⟩ := simulates i s t start meets.1
    obtain ⟨later, final⟩ := ih meets.2 related
    refine ⟨?_, final⟩
    simp only [run]
    rw [outputs, later]

end Machine
