import Virtio9p.Foundation.Machine

/-!
# The life of a server

A server is not there at first, comes up at most once in a fresh state, answers inputs as a given
machine does, and goes. A system in which a server lives in this way gives, over a whole run, the
answers of one run of that machine.
-/

/-- Where a server is in its life. -/
inductive Life (σ : Type*) where
  | coming
  | up (s : σ)
  | gone

namespace Life

variable {ι ο σ : Type*}

/-- A step in the life of a server, with the input that it answers and its answer. -/
inductive Step (M : Machine ι ο σ) (Fresh : σ → Prop) : Life σ →
    Option (ι × ο) → Life σ → Prop where
  | wait (l : Life σ) : Step M Fresh l none l
  | start (s : σ) (fresh : Fresh s) : Step M Fresh .coming none (.up s)
  | answer (s : σ) (i : ι) : Step M Fresh (.up s) (some (i, (M.step i s).1)) (.up (M.step i s).2)
  | leave (l : Life σ) : Step M Fresh l none .gone

/-- The answers are those of a run of the machine, from a fresh state if there is none yet. -/
def Answers (M : Machine ι ο σ) (Fresh : σ → Prop) (answers : List (ι × ο)) : Life σ → Prop
  | .coming => answers = [] ∨
    ∃ s, Fresh s ∧ answers.map Prod.snd = (M.run (answers.map Prod.fst) s).1
  | .up s => answers.map Prod.snd = (M.run (answers.map Prod.fst) s).1
  | .gone => answers = []

variable {M : Machine ι ο σ} {Fresh : σ → Prop}

theorem Answers.of_nil (l : Life σ) : Answers M Fresh [] l := by
  cases l with
  | coming => exact .inl rfl
  | up s => rfl
  | gone => rfl

theorem Step.weaken {Fresh' : σ → Prop} {l l' : Life σ} {answer : Option (ι × ο)}
    (step : Step M Fresh l answer l') (fresh : ∀ s, Fresh s → Fresh' s) :
    Step M Fresh' l answer l' := by
  cases step with
  | wait => exact .wait l
  | start s isFresh => exact .start s (fresh s isFresh)
  | answer s i => exact .answer s i
  | leave => exact .leave l

/-- What is answered from a step on. -/
theorem Step.answers {l l' : Life σ} {answer : Option (ι × ο)} (step : Step M Fresh l answer l')
    {answers : List (ι × ο)} (later : Answers M Fresh answers l') :
    Answers M Fresh (answer.toList ++ answers) l := by
  cases step with
  | wait => exact later
  | start s fresh => exact .inr ⟨s, fresh, later⟩
  | answer s i => exact congrArg (List.cons (M.step i s).1) later
  | leave =>
    have none : answers = [] := later
    rw [none]
    exact Answers.of_nil l

/-- What is answered was asked, in that order. -/
theorem answered_sublist {ε τ : Type*} {C : Machine ε (Option (ι × ο)) τ} {asks : ε → Option ι}
    (asked : ∀ e t answer, (C.step e t).1 = some answer → asks e = some answer.1)
    (es : List ε) (t : τ) :
    (((C.run es t).1.filterMap id).map Prod.fst).Sublist (es.filterMap asks) := by
  induction es generalizing t with
  | nil => exact List.Sublist.slnil
  | cons e es ih =>
    have rest := ih (C.step e t).2
    simp only [Machine.run]
    cases answered : (C.step e t).1 with
    | none => exact rest.trans ((List.sublist_cons_self e es).filterMap asks)
    | some answer =>
      rw [List.filterMap_cons_some (asked e t answer answered)]
      exact rest.cons_cons answer.1

/-- Over a run of a system in which a server lives. -/
theorem run_answers {ε τ : Type*} {C : Machine ε (Option (ι × ο)) τ} {life : τ → Life σ}
    {Inv : τ → Prop} (keeps : ∀ e t, Inv t → Inv (C.step e t).2)
    (lives : ∀ e t, Inv t → Step M Fresh (life t) (C.step e t).1 (life (C.step e t).2))
    (es : List ε) {t : τ} (inv : Inv t) :
    Answers M Fresh ((C.run es t).1.filterMap id) (life t) := by
  induction es generalizing t with
  | nil => exact Answers.of_nil (life t)
  | cons e es ih =>
    have whole := (lives e t inv).answers (ih (keeps e t inv))
    simp only [Machine.run]
    cases answered : (C.step e t).1 with
    | none =>
      rw [answered] at whole
      exact whole
    | some answer =>
      rw [answered] at whole
      exact whole

end Life
