import Virtio9p.Foundation.Attempt
import Mathlib.Data.List.Basic

/-!
# Scripts that end at the first failure

An attempt may ensure something of the way in which it ends. A script is an attempt whose error is
the status it exits with: under `set -e` the status of the first command that fails, else the one
it gives itself. What is trapped for the exit runs on every way out.
-/

namespace Attempt

variable {σ ε α β : Type*}

def Ends (Fail : ε → σ → Prop) (Done : α → σ → Prop) : Except ε α × σ → Prop
  | (.error e, s) => Fail e s
  | (.ok a, s) => Done a s

def Ensures (Pre : σ → Prop) (Fail : ε → σ → Prop) (Done : α → σ → Prop) (x : Attempt σ ε α) :
    Prop :=
  ∀ s, Pre s → Ends Fail Done (x s)

section Ensures

variable {Pre Pre' : σ → Prop} {Fail Fail' : ε → σ → Prop} {Done Done' : α → σ → Prop}
  {x : Attempt σ ε α}

theorem Ends.mono {r : Except ε α × σ} (ends : Ends Fail Done r)
    (fails : ∀ e s, Fail e s → Fail' e s) (dones : ∀ a s, Done a s → Done' a s) :
    Ends Fail' Done' r := by
  obtain ⟨e | a, s⟩ := r
  · exact fails e s ends
  · exact dones a s ends

theorem Ensures.weaken (ensures : Ensures Pre Fail Done x) (pres : ∀ s, Pre' s → Pre s)
    (fails : ∀ e s, Fail e s → Fail' e s) (dones : ∀ a s, Done a s → Done' a s) :
    Ensures Pre' Fail' Done' x := fun s pre => (ensures s (pres s pre)).mono fails dones

theorem ensures_pure {a : α} (done : ∀ s, Pre s → Done a s) :
    Ensures Pre Fail Done (Attempt.pure a) := done

theorem ensures_fail {e : ε} (fails : ∀ s, Pre s → Fail e s) :
    Ensures Pre Fail Done (Attempt.fail e : Attempt σ ε α) := fails

theorem Ensures.bind {Done' : β → σ → Prop} {f : α → Attempt σ ε β}
    (first : Ensures Pre Fail Done x) (rest : ∀ a, Ensures (Done a) Fail Done' (f a)) :
    Ensures Pre Fail Done' (x.bind f) := by
  intro s pre
  have ends := first s pre
  change Ends Fail Done' (x.fold f Attempt.fail s)
  rw [Attempt.fold]
  revert ends
  obtain ⟨e | a, s'⟩ := x s <;> intro ends
  · exact ends
  · exact rest a s' ends

end Ensures

end Attempt

abbrev Script (σ : Type*) := Attempt σ UInt8 Unit

namespace Script

open Attempt

variable {σ : Type*}

/-- A command that does its work and comes back with 0, or fails with another status. -/
def command (status : UInt8) (work : σ → σ) : Script σ := fun s =>
  if status = 0 then (.ok (), work s) else (.error status, s)

/-- What happens whatever status comes back. -/
def act (work : σ → σ) : Script σ := fun s => (.ok (), work s)

def sequence : List (Script σ) → Script σ
  | [] => Attempt.pure ()
  | c :: cs => c.bind fun _ => sequence cs

/-- Run the rest of a script with a clean-up trapped for its exit. -/
def trapExit (cleanup script : Script σ) : Script σ := fun s =>
  let ended := script s
  match cleanup ended.2 with
  | (.ok _, s) => (ended.1, s)
  | (.error status, s) => (.error status, s)

def exitStatus : Except UInt8 Unit → UInt8
  | .ok _ => 0
  | .error status => status

/-- The status of a pipeline under `pipefail`: that of the last command which failed. -/
def pipefail (statuses : List UInt8) : UInt8 := (statuses.reverse.find? (· ≠ 0)).getD 0

theorem pipefail_eq_zero {statuses : List UInt8} :
    pipefail statuses = 0 ↔ ∀ status ∈ statuses, status = 0 := by
  unfold pipefail
  cases found : statuses.reverse.find? (· ≠ 0) with
  | none =>
    refine iff_of_true rfl ?_
    intro status member
    simpa using List.find?_eq_none.mp found status (List.mem_reverse.mpr member)
  | some status =>
    have failed : status ≠ 0 := by simpa using List.find?_some found
    refine iff_of_false failed ?_
    intro all
    exact failed (all status (List.mem_reverse.mp (List.mem_of_find?_eq_some found)))

section Rules

variable {Pre Post Inv : σ → Prop} {Fail : UInt8 → σ → Prop}

/-- A command fails with a status other than 0. -/
theorem ensures_command {status : UInt8} {work : σ → σ}
    (fails : ∀ s, status ≠ 0 → Pre s → Fail status s)
    (dones : ∀ s, status = 0 → Pre s → Post (work s)) :
    Ensures Pre Fail (fun _ => Post) (command status work) := by
  intro s pre
  by_cases zero : status = 0
  · rw [command, if_pos zero]
    exact dones s zero pre
  · rw [command, if_neg zero]
    exact fails s zero pre

theorem ensures_act {work : σ → σ} (dones : ∀ s, Pre s → Post (work s)) :
    Ensures Pre Fail (fun _ => Post) (act work) := dones

/-- The script exits with 0 only if what it ran did, and the clean-up too. -/
theorem exitStatus_trapExit {cleanup script : Script σ} {s : σ}
    (zero : exitStatus (trapExit cleanup script s).1 = 0)
    (strict : ∀ s status, (cleanup s).1 = .error status → status ≠ 0) :
    exitStatus (script s).1 = 0 := by
  unfold trapExit at zero
  simp only at zero
  cases cleaned : cleanup (script s).2 with
  | mk result s' =>
    rw [cleaned] at zero
    cases result with
    | ok _ => exact zero
    | error status => exact absurd zero (strict _ status (congrArg Prod.fst cleaned))

/-- A clean-up that succeeds leaves the status as it is. -/
theorem trapExit_result {cleanup script : Script σ} {s : σ}
    (cleaned : (cleanup (script s).2).1 = .ok ()) :
    (trapExit cleanup script s).1 = (script s).1 := by
  unfold trapExit
  simp only
  cases ended : cleanup (script s).2 with
  | mk result s' =>
    rw [ended] at cleaned
    cases result with
    | ok _ => rfl
    | error status => cases cleaned

theorem trapExit_state (cleanup script : Script σ) (s : σ) :
    (trapExit cleanup script s).2 = (cleanup (script s).2).2 := by
  unfold trapExit
  simp only
  cases cleanup (script s).2 with
  | mk result s' => cases result <;> rfl

end Rules

end Script
