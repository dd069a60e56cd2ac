import Virtio9p.Foundation.Machine

/-!
# Rounds of a schedule

The inputs of a machine belong to agents. No input raises the rank of a state, and while the rank
stays, it is the same agent's turn, whose next input lowers it. A round is a part of a run in which
every agent has an input: as many rounds as the rank is high bring it down to 0, in whatever order
the inputs of a round come.
-/

namespace Machine

variable {ι ο σ α : Type*}

/-- The rank and the turns, for the inputs that are `valid` and the states of an invariant. -/
structure Turns (M : Machine ι ο σ) (Inv : σ → Prop) (valid : ι → Prop) (rank : σ → Nat)
    (turn : σ → α) (agent : ι → Option α) : Prop where
  keeps : ∀ i s, Inv s → valid i → Inv (M.step i s).2
  stays : ∀ i s, Inv s → valid i → rank (M.step i s).2 < rank s ∨
    rank (M.step i s).2 = rank s ∧ (0 < rank s → turn (M.step i s).2 = turn s)
  moves : ∀ i s, Inv s → valid i → 0 < rank s → agent i = some (turn s) →
    rank (M.step i s).2 < rank s

namespace Turns

variable {M : Machine ι ο σ} {Inv : σ → Prop} {valid : ι → Prop} {rank : σ → Nat} {turn : σ → α}
  {agent : ι → Option α} (turns : M.Turns Inv valid rank turn agent)

include turns

theorem run_keeps {is : List ι} (all : ∀ i ∈ is, valid i) {s : σ} (inv : Inv s) :
    Inv (M.run is s).2 :=
  (meets_of_forall all s).invariant (fun i s inv valid => turns.keeps i s inv valid) inv

theorem run_le {is : List ι} (all : ∀ i ∈ is, valid i) {s : σ} (inv : Inv s) :
    rank (M.run is s).2 ≤ rank s := by
  induction is generalizing s with
  | nil => exact Nat.le_refl _
  | cons i is ih =>
    obtain ⟨now, later⟩ := List.forall_mem_cons.mp all
    have step : rank (M.step i s).2 ≤ rank s := by
      rcases turns.stays i s inv now with lower | ⟨same, -⟩
      · exact Nat.le_of_lt lower
      · exact Nat.le_of_eq same
    exact Nat.le_trans (ih later (turns.keeps i s inv now)) step

/-- A run in which it becomes the turn's agent's move lowers the rank. -/
theorem run_lt {is : List ι} (all : ∀ i ∈ is, valid i) {s : σ} (inv : Inv s) (left : 0 < rank s)
    (moves : ∃ i ∈ is, agent i = some (turn s)) : rank (M.run is s).2 < rank s := by
  induction is generalizing s with
  | nil =>
    obtain ⟨i, member, -⟩ := moves
    cases member
  | cons i is ih =>
    obtain ⟨now, later⟩ := List.forall_mem_cons.mp all
    have kept := turns.keeps i s inv now
    rcases turns.stays i s inv now with lower | ⟨same, turn⟩
    · exact Nat.lt_of_le_of_lt (turns.run_le later kept) lower
    · obtain ⟨j, member, agent⟩ := moves
      rcases List.mem_cons.mp member with rfl | behind
      · -- the move itself cannot leave the rank as it is
        exact absurd same (Nat.ne_of_lt (turns.moves j s inv now left agent))
      · have below := ih later kept (same ▸ left) ⟨j, behind, (turn left).symm ▸ agent⟩
        rw [same] at below
        exact below

/-- Every round lowers the rank. -/
theorem rounds_le {rounds : List (List ι)} (all : ∀ round ∈ rounds, ∀ i ∈ round, valid i)
    (everyone : ∀ round ∈ rounds, ∀ k, ∃ i ∈ round, agent i = some k) {s : σ} (inv : Inv s) :
    rank (M.run rounds.flatten s).2 ≤ rank s - rounds.length := by
  induction rounds generalizing s with
  | nil => exact Nat.le_refl _
  | cons round rounds ih =>
    obtain ⟨now, later⟩ := List.forall_mem_cons.mp all
    obtain ⟨mover, movers⟩ := List.forall_mem_cons.mp everyone
    have step : rank (M.run round s).2 - rounds.length ≤ rank s - (rounds.length + 1) := by
      rcases Nat.eq_zero_or_pos (rank s) with zero | left
      · have below := turns.run_le now inv
        omega
      · have below := turns.run_lt now inv left (mover (turn s))
        omega
    calc rank (M.run (round ++ rounds.flatten) s).2
        = rank (M.run rounds.flatten (M.run round s).2).2 := by rw [run_append]
      _ ≤ rank (M.run round s).2 - rounds.length := ih later movers (turns.run_keeps now inv)
      _ ≤ rank s - (rounds.length + 1) := step

theorem rounds_zero {rounds : List (List ι)} (all : ∀ round ∈ rounds, ∀ i ∈ round, valid i)
    (everyone : ∀ round ∈ rounds, ∀ k, ∃ i ∈ round, agent i = some k) {s : σ} (inv : Inv s)
    (enough : rank s ≤ rounds.length) : rank (M.run rounds.flatten s).2 = 0 := by
  have below := turns.rounds_le all everyone inv
  omega

end Turns

end Machine
