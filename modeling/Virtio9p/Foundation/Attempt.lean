import Mathlib.Logic.Basic

/-!
# Attempts

An attempt takes a state and gives a value or an error, and the next state. Two attempts on
different states are coupled if, from related states, both fail or both succeed, and the states
they leave are related again.
-/

abbrev Attempt (σ ε α : Type*) := σ → Except ε α × σ

namespace Attempt

variable {σ τ ε ε' α α' β β' : Type*}

def pure (a : α) : Attempt σ ε α := fun s => (.ok a, s)

def fail (e : ε) : Attempt σ ε α := fun s => (.error e, s)

/-- Go on with one of two attempts, by the outcome of a first one. -/
def fold (x : Attempt σ ε α) (done : α → Attempt σ ε' β) (failed : ε → Attempt σ ε' β) :
    Attempt σ ε' β := fun s =>
  match x s with
  | (.ok a, s) => done a s
  | (.error e, s) => failed e s

def bind (x : Attempt σ ε α) (f : α → Attempt σ ε β) : Attempt σ ε β := x.fold f fail

/-- Clean up if the attempt fails. -/
def protect (release : σ → σ) (x : Attempt σ ε α) : Attempt σ ε α :=
  x.fold pure fun e s => (.error e, release s)

/-- Clean up whatever comes out. -/
def cleanup (release : σ → σ) (x : Attempt σ ε α) : Attempt σ ε α :=
  x.fold (fun a s => (.ok a, release s)) fun e s => (.error e, release s)

/-! ### Coupled attempts -/

/-- Both results are errors, or both are values. -/
def Outcome (Err : ε → ε' → Prop) (Fail : σ → τ → Prop) (Done : α → β → σ → τ → Prop) :
    Except ε α × σ → Except ε' β × τ → Prop
  | (.error e, s), (.error e', t) => Err e e' ∧ Fail s t
  | (.ok a, s), (.ok b, t) => Done a b s t
  | _, _ => False

def Couples (Err : ε → ε' → Prop) (Pre Fail : σ → τ → Prop) (Done : α → β → σ → τ → Prop)
    (x : Attempt σ ε α) (y : Attempt τ ε' β) : Prop :=
  ∀ s t, Pre s t → Outcome Err Fail Done (x s) (y t)

section Rules

variable {Err : ε → ε' → Prop} {Pre Pre' Fail Fail' Post : σ → τ → Prop}
  {Done Done' : α → β → σ → τ → Prop} {x : Attempt σ ε α} {y : Attempt τ ε' β}

theorem Outcome.mono {r : Except ε α × σ} {r' : Except ε' β × τ}
    (outcome : Outcome Err Fail Done r r')
    (fails : ∀ s t, Fail s t → Fail' s t) (dones : ∀ a b s t, Done a b s t → Done' a b s t) :
    Outcome Err Fail' Done' r r' := by
  obtain ⟨_ | a, s⟩ := r <;> obtain ⟨_ | b, t⟩ := r'
  · exact ⟨outcome.1, fails s t outcome.2⟩
  · exact outcome
  · exact outcome
  · exact dones a b s t outcome

theorem Couples.weaken (couples : Couples Err Pre Fail Done x y)
    (pres : ∀ s t, Pre' s t → Pre s t) (fails : ∀ s t, Fail s t → Fail' s t)
    (dones : ∀ a b s t, Done a b s t → Done' a b s t) : Couples Err Pre' Fail' Done' x y :=
  fun s t pre => (couples s t (pres s t pre)).mono fails dones

theorem Couples.err {Err' : ε → ε' → Prop} (couples : Couples Err Pre Fail Done x y)
    (errs : ∀ e e', Err e e' → Err' e e') : Couples Err' Pre Fail Done x y := by
  intro s t pre
  have outcome := couples s t pre
  revert outcome
  obtain ⟨_ | a, s'⟩ := x s <;> obtain ⟨_ | b, t'⟩ := y t <;> intro outcome
  · exact ⟨errs _ _ outcome.1, outcome.2⟩
  · exact outcome
  · exact outcome
  · exact outcome

/-- What one side gives in any case, it gives here. -/
theorem Couples.gives {Good : β → Prop} (couples : Couples Err Pre Fail Done x y)
    (good : ∀ t b t', y t = (.ok b, t') → Good b) :
    Couples Err Pre Fail (fun a b s t => Good b ∧ Done a b s t) x y := by
  intro s t pre
  have outcome := couples s t pre
  have values := good t
  revert outcome values
  obtain ⟨_ | a, s'⟩ := x s <;> obtain ⟨_ | b, t'⟩ := y t <;> intro outcome values
  · exact outcome
  · exact outcome
  · exact outcome
  · exact ⟨values b t' rfl, outcome⟩

/-- The two ways in which coupled attempts end. -/
theorem Couples.outcomes (couples : Couples Err Pre Fail Done x y) {s : σ} {t : τ}
    (pre : Pre s t) :
    (∃ e e' s' t', x s = (.error e, s') ∧ y t = (.error e', t') ∧ Err e e' ∧ Fail s' t') ∨
      ∃ a b s' t', x s = (.ok a, s') ∧ y t = (.ok b, t') ∧ Done a b s' t' := by
  have outcome := couples s t pre
  revert outcome
  obtain ⟨e | a, s'⟩ := x s <;> obtain ⟨e' | b, t'⟩ := y t <;> intro outcome
  · exact .inl ⟨e, e', s', t', rfl, rfl, outcome⟩
  · exact outcome.elim
  · exact outcome.elim
  · exact .inr ⟨a, b, s', t', rfl, rfl, outcome⟩

theorem couples_pure {a : α} {b : β} (done : ∀ s t, Pre s t → Done a b s t) :
    Couples Err Pre Fail Done (pure a) (pure b) := done

theorem couples_fail {e : ε} {e' : ε'} (err : Err e e') (fails : ∀ s t, Pre s t → Fail s t) :
    Couples Err Pre Fail Done (fail e) (fail e') := fun s t pre => ⟨err, fails s t pre⟩

section Fold

variable {ε₂ ε₂' : Type*} {Err₂ : ε₂ → ε₂' → Prop} {Done₂ : α' → β' → σ → τ → Prop}
  {f : α → Attempt σ ε₂ α'} {g : β → Attempt τ ε₂' β'} {f' : ε → Attempt σ ε₂ α'}
  {g' : ε' → Attempt τ ε₂' β'}

theorem Couples.fold (first : Couples Err Pre Fail Done x y)
    (done : ∀ a b, Couples Err₂ (Done a b) Fail' Done₂ (f a) (g b))
    (failed : ∀ e e', Err e e' → Couples Err₂ Fail Fail' Done₂ (f' e) (g' e')) :
    Couples Err₂ Pre Fail' Done₂ (x.fold f f') (y.fold g g') := by
  intro s t pre
  have outcome := first s t pre
  simp only [Attempt.fold]
  revert outcome
  obtain ⟨_ | a, s'⟩ := x s <;> obtain ⟨_ | b, t'⟩ := y t <;> intro outcome
  · exact failed _ _ outcome.1 s' t' outcome.2
  · exact False.elim outcome
  · exact False.elim outcome
  · exact done a b s' t' outcome

end Fold

theorem Couples.bind {Done' : α' → β' → σ → τ → Prop} {f : α → Attempt σ ε α'}
    {g : β → Attempt τ ε' β'} (first : Couples Err Pre Fail Done x y)
    (rest : ∀ a b, Couples Err (Done a b) Fail Done' (f a) (g b)) :
    Couples Err Pre Fail Done' (x.bind f) (y.bind g) :=
  first.fold rest fun _ _ err => couples_fail err fun _ _ fails => fails

theorem Couples.protect {release : σ → σ} {release' : τ → τ}
    (body : Couples Err Pre Fail Done x y)
    (releases : ∀ s t, Fail s t → Fail' (release s) (release' t)) :
    Couples Err Pre Fail' Done (x.protect release) (y.protect release') :=
  body.fold (fun _ _ => couples_pure fun _ _ done => done)
    fun _ _ err s t fails => ⟨err, releases s t fails⟩

/-- What is released is held whether the attempt succeeds or not. -/
theorem Couples.cleanup {release : σ → σ} {release' : τ → τ} {Value : α → β → Prop}
    (body : Couples Err Pre Post (fun a b s t => Value a b ∧ Post s t) x y)
    (releases : ∀ s t, Post s t → Fail (release s) (release' t)) :
    Couples Err Pre Fail (fun a b s t => Value a b ∧ Fail s t) (x.cleanup release)
      (y.cleanup release') :=
  body.fold (fun _ _ s t done => ⟨done.1, releases s t done.2⟩)
    fun _ _ err s t fails => ⟨err, releases s t fails⟩

end Rules

end Attempt
