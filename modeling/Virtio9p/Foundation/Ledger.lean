import Mathlib.Data.List.Basic

/-!
# Ledgers of resources

A ledger lists what is acquired and released. It is in order for a resource if the resource is
never released while it is not held and never acquired while it is; then it says whether the
resource is held at the end. A balanced ledger is in order for each and leaves none behind.
-/
namespace Ledger

variable {ρ : Type}

inductive Entry (ρ : Type) where
  | acquire (r : ρ)
  | release (r : ρ)
  deriving DecidableEq, Repr

def Entry.resource : Entry ρ → ρ
  | .acquire r => r
  | .release r => r

/-- A release for each of `rs` that is held, in their order. -/
def releases (held : ρ → Bool) (rs : List ρ) : List (Entry ρ) := (rs.filter held).map .release

theorem mem_releases {holds : ρ → Bool} {rs : List ρ} {e : Entry ρ} (mem : e ∈ releases holds rs) :
    e.resource ∈ rs := by
  obtain ⟨s, kept, rfl⟩ := List.mem_map.mp mem
  exact (List.mem_filter.mp kept).1

variable [DecidableEq ρ]

/-- What an entry makes of a resource that is held or not; `none` if it does not fit. -/
def enter (r : ρ) (held : Bool) : Entry ρ → Option Bool
  | .acquire s => if s = r then if held then none else some true else some held
  | .release s => if s = r then if held then some false else none else some held

def account (r : ρ) (log : List (Entry ρ)) (held : Bool) : Option Bool := log.foldlM (enter r) held

def Balanced (log : List (Entry ρ)) : Prop := ∀ r, account r log false = some false

variable {r : ρ} {log log' : List (Entry ρ)} {held held' held'' : Bool}

@[simp] theorem account_nil (r : ρ) (held : Bool) : account r [] held = some held := rfl

@[simp] theorem account_cons (r : ρ) (e : Entry ρ) (log : List (Entry ρ)) (held : Bool) :
    account r (e :: log) held = (enter r held e).bind (account r log) := rfl

theorem account_append (r : ρ) (log log' : List (Entry ρ)) (held : Bool) :
    account r (log ++ log') held = (account r log held).bind (account r log') := by
  unfold account
  exact List.foldlM_append

theorem account_trans (first : account r log held = some held')
    (second : account r log' held' = some held'') :
    account r (log ++ log') held = some held'' := by
  rw [account_append, first]
  exact second

theorem enter_other {e : Entry ρ} (other : e.resource ≠ r) (held : Bool) :
    enter r held e = some held := by
  cases e <;> exact if_neg other

/-- A ledger that does not mention a resource changes nothing about it. -/
theorem account_other (others : ∀ e ∈ log, e.resource ≠ r) (held : Bool) :
    account r log held = some held := by
  induction log with
  | nil => rfl
  | cons e log ih =>
    rw [account_cons, enter_other (others e List.mem_cons_self)]
    exact ih fun e' mem => others e' (List.mem_cons_of_mem e mem)

theorem account_outside {rs : List ρ} (inside : ∀ e ∈ log, e.resource ∈ rs) (other : r ∉ rs)
    (held : Bool) : account r log held = some held := by
  apply account_other
  intro e mem same
  rw [← same] at other
  exact other (inside e mem)

/-- Only the entries about a resource count. -/
theorem account_filter {about : Entry ρ → Bool}
    (covers : ∀ e ∈ log, e.resource = r → about e = true) (held : Bool) :
    account r (log.filter about) held = account r log held := by
  induction log generalizing held with
  | nil => rfl
  | cons e log ih =>
    have rest := ih fun e' mem => covers e' (List.mem_cons_of_mem e mem)
    by_cases kept : about e = true
    · rw [List.filter_cons_of_pos kept, account_cons, account_cons]
      exact congrArg _ (funext rest)
    · have other : e.resource ≠ r := fun same => kept (covers e List.mem_cons_self same)
      rw [List.filter_cons_of_neg kept, account_cons, enter_other other]
      exact rest held

/-- What is held is released, once. -/
theorem account_releases {rs : List ρ} (nodup : rs.Nodup) (holds : ρ → Bool) (r : ρ) :
    account r (releases holds rs) (holds r) = some (if r ∈ rs then false else holds r) := by
  induction rs with
  | nil => rfl
  | cons s rs ih =>
    obtain ⟨fresh, nodup⟩ := List.nodup_cons.mp nodup
    have rest := ih nodup
    by_cases same : s = r
    · subst same
      have later (held : Bool) : account s (releases holds rs) held = some held :=
        account_outside (fun _ => mem_releases) fresh held
      cases taken : holds s <;> simp [releases, taken, enter] <;> exact later false
    · have skips : r ∈ s :: rs ↔ r ∈ rs := by simp [Ne.symm same]
      rw [if_congr skips rfl rfl, ← rest]
      cases taken : holds s <;> simp [releases, taken, enter, same]

theorem balanced_pair (r : ρ) : Balanced [.acquire r, .release r] := by
  intro s
  by_cases same : r = s <;> simp [enter, same]

/-- Nothing can be released behind a balanced ledger. -/
theorem not_balanced_release (balanced : Balanced log) (r : ρ) (log' : List (Entry ρ)) :
    ¬ Balanced (log ++ .release r :: log') := by
  intro more
  have outcome := more r
  rw [account_append, balanced r] at outcome
  simp [enter] at outcome

end Ledger
