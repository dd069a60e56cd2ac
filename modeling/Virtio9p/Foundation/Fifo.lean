import Virtio9p.Foundation.Machine

/-!
# FIFO queues

A queue as its users see it: entries are put in at one end and taken out at the other,
and a user that finds no entry sees an empty queue. What a machine keeps in some other
form is a queue if each of its steps is an event of one.
-/
namespace Fifo

inductive Event (α : Type*) where
  | put (a : α)
  | get (a : α)
  | empty
  /-- Nothing that concerns this queue. -/
  | silent

variable {α : Type*}

/-- The queue before and after an event. -/
inductive Step : List α → Event α → List α → Prop
  | put (q : List α) (a : α) : Step q (.put a) (q ++ [a])
  | get (a : α) (q : List α) : Step (a :: q) (.get a) q
  | empty : Step [] .empty []
  | silent (q : List α) : Step q .silent q

inductive Trace : List α → List (Event α) → List α → Prop
  | nil (q : List α) : Trace q [] q
  | cons {q q' q'' : List α} {e : Event α} {es : List (Event α)} (step : Step q e q')
      (rest : Trace q' es q'') : Trace q (e :: es) q''

def Event.put? : Event α → Option α
  | .put a => some a
  | _ => none

def Event.get? : Event α → Option α
  | .get a => some a
  | _ => none

/-- What comes out, and what is left, is what was put in, in this order. -/
theorem Trace.order {q q' : List α} {es : List (Event α)} (trace : Trace q es q') :
    es.filterMap Event.get? ++ q' = q ++ es.filterMap Event.put? := by
  induction trace with
  | nil q => simp
  | cons step rest ih =>
    cases step with
    | put q a =>
      simp only [List.filterMap_cons, Event.get?, Event.put?, ih, List.append_assoc,
        List.singleton_append]
    | get a q =>
      simp only [List.filterMap_cons, Event.get?, Event.put?, List.cons_append, ih]
    | empty => exact ih
    | silent q => exact ih

variable {ι ο σ : Type*} {M : Machine ι ο σ} {Inv : σ → Prop} {contents : σ → List α}
  {event : ο → Event α}

/-- A machine whose steps are events of a queue. -/
theorem run_trace (kept : ∀ i s, Inv s → Inv (M.step i s).2)
    (steps : ∀ i s, Inv s → Step (contents s) (event (M.step i s).1) (contents (M.step i s).2))
    (is : List ι) {s : σ} (start : Inv s) :
    Trace (contents s) ((M.run is s).1.map event) (contents (M.run is s).2) := by
  induction is generalizing s with
  | nil => exact Trace.nil _
  | cons i is ih => exact Trace.cons (steps i s start) (ih (kept i s start))

end Fifo
