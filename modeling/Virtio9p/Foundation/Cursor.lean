import Mathlib.Data.List.Basic

/-!
# Decoders over a cursor

A decoder is a state action on a cursor. All that its callers need to know is
which prefix of the unread input it takes and which value it gives back. This is
the judgment `Consumes`. It composes along `bind`, so a decoder written as a
sequence of smaller ones consumes the concatenation of what they consume.
-/
namespace Cursor

/-- How a cursor shows its unread input. `Ready` is what a decoder may assume of
the cursor and has to keep; `Frame` relates cursors over the same input. -/
structure View (γ β : Type) where
  rest : γ → List β
  Ready : γ → Prop
  Frame : γ → γ → Prop
  frame_refl : ∀ s, Frame s s
  frame_trans : ∀ {s t u}, Frame s t → Frame t u → Frame s u

variable {γ β α δ : Type} (V : View γ β)

/-- On every ready cursor whose unread input starts with `bs`, the action gives
`a` and leaves exactly what follows `bs`. -/
def Consumes (x : StateM γ α) (bs : List β) (a : α) : Prop :=
  ∀ s tail, V.Ready s → V.rest s = bs ++ tail →
    ∃ s', x s = (a, s') ∧ V.Ready s' ∧ V.rest s' = tail ∧ V.Frame s s'

variable {V}

theorem Consumes.pure (a : α) : Consumes V (Pure.pure a) [] a := by
  intro s tail ready rest
  exact ⟨s, rfl, ready, rest, V.frame_refl s⟩

theorem Consumes.bind {x : StateM γ α} {k : α → StateM γ δ} {bs cs : List β} {a : α} {d : δ}
    (first : Consumes V x bs a) (second : Consumes V (k a) cs d) :
    Consumes V (x >>= k) (bs ++ cs) d := by
  intro s tail ready rest
  rw [List.append_assoc] at rest
  obtain ⟨t, ht, readyT, restT, frameT⟩ := first s (cs ++ tail) ready rest
  obtain ⟨u, hu, readyU, restU, frameU⟩ := second t tail readyT restT
  refine ⟨u, ?_, readyU, restU, V.frame_trans frameT frameU⟩
  change (x s).1 |> fun a => k a (x s).2 = (d, u)
  rw [ht]
  exact hu

/-- The last step of a sequence often only repackages what was read. -/
theorem Consumes.last {x : StateM γ α} {bs : List β} {a : α} {f : α → δ} {d : δ}
    (first : Consumes V x bs a) (value : f a = d) :
    Consumes V (x >>= fun a => Pure.pure (f a)) bs d := by
  subst value
  simpa using Consumes.bind (k := fun a => Pure.pure (f a)) first (Consumes.pure (f a))

/-- Run `x` a given number of times, appending each value to `acc`. -/
def collect (x : StateM γ α) : Nat → List α → StateM γ (List α)
  | 0, acc => Pure.pure acc
  | n + 1, acc => do
    let a ← x
    collect x n (acc ++ [a])

theorem Consumes.collect {x : StateM γ α} (encode : α → List β) (as : List α)
    (each : ∀ a ∈ as, Consumes V x (encode a) a) (acc : List α) :
    Consumes V (Cursor.collect x as.length acc) (as.flatMap encode) (acc ++ as) := by
  induction as generalizing acc with
  | nil => simpa [Cursor.collect] using Consumes.pure acc
  | cons a as ih =>
    have tail := ih (fun b member => each b (List.mem_cons_of_mem a member)) (acc ++ [a])
    rw [List.append_assoc] at tail
    exact (each a List.mem_cons_self).bind tail

end Cursor
