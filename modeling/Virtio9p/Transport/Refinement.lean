import Virtio9p.Transport.Setup

/-!
# Refinement of transports

A transport with more members does what the one with fewer members does, if each of the member
functions in which transports differ does.
-/
namespace Virtio9p

namespace TransportState

variable {κ κ' κ'' : Type} (φ : κ → κ') (t : TransportState κ)

def mapOwn : TransportState κ' := { t with own := φ t.own }

@[simp] theorem mapOwn_own : (t.mapOwn φ).own = φ t.own := rfl
@[simp] theorem mapOwn_virtqueue : (t.mapOwn φ).virtqueue = t.virtqueue := rfl
@[simp] theorem mapOwn_dmaReqVirt : (t.mapOwn φ).dmaReqVirt = t.dmaReqVirt := rfl
@[simp] theorem mapOwn_dmaReqPhys : (t.mapOwn φ).dmaReqPhys = t.dmaReqPhys := rfl
@[simp] theorem mapOwn_dmaRespVirt : (t.mapOwn φ).dmaRespVirt = t.dmaRespVirt := rfl
@[simp] theorem mapOwn_dmaRespPhys : (t.mapOwn φ).dmaRespPhys = t.dmaRespPhys := rfl

@[simp] theorem mapOwn_release : t.release.mapOwn φ = (t.mapOwn φ).release := rfl

@[simp] theorem mapOwn_mapOwn (ψ : κ' → κ'') : (t.mapOwn φ).mapOwn ψ = t.mapOwn (ψ ∘ φ) := rfl

@[simp] theorem onDevice_completed (change : Device → Device) :
    (t.onDevice change).completed = t.completed := rfl

@[simp] theorem mapBuffers_own (o : SetupOutcome) : (t.mapBuffers o).2.own = t.own := by
  unfold mapBuffers attachInterrupt
  simp only
  -- one alternative for each step that may fail
  repeat' split
  all_goals rfl

@[simp] theorem mapBuffers_completed (o : SetupOutcome) :
    (t.mapBuffers o).2.completed = t.completed := by
  unfold mapBuffers attachInterrupt
  simp only
  repeat' split
  all_goals rfl

theorem mapOwn_of_own {ψ : κ → κ} (same : ψ t.own = t.own) : t.mapOwn ψ = t := by
  rw [mapOwn, same]

theorem mapOwn_attachInterrupt (o : SetupOutcome) :
    ((t.attachInterrupt o).1, (t.attachInterrupt o).2.mapOwn φ) =
      (t.mapOwn φ).attachInterrupt o := by
  unfold attachInterrupt
  split
  · rfl
  · simp only
    split
    · rfl
    · split <;> rfl

theorem mapOwn_mapBuffers (o : SetupOutcome) :
    ((t.mapBuffers o).1, (t.mapBuffers o).2.mapOwn φ) = (t.mapOwn φ).mapBuffers o := by
  unfold mapBuffers
  split
  · rfl
  · simp only
    split
    · rfl
    · split
      · rfl
      · split
        · rfl
        · exact mapOwn_attachInterrupt φ _ o

end TransportState

/-! ### Exchanges -/

namespace ExchangeSteps

variable {κ κ' α β : Type}

/-- Each step of `steps`, seen through a view, is the one of `steps'`. -/
structure Follows (view : α → β) (steps : ExchangeSteps κ α) (steps' : ExchangeSteps κ' β) :
    Prop where
  shared : ∀ a, (steps.transport a).mapOwn (fun _ => ()) =
    (steps'.transport (view a)).mapOwn fun _ => ()
  leave : ∀ live pulses a, view (steps.leave live pulses a) = steps'.leave live pulses (view a)
  notify : ∀ a, view (steps.notify a) = steps'.notify (view a)
  waitForCompletion : ∀ es s a, ((steps.waitForCompletion es s a).1,
    view (steps.waitForCompletion es s a).2) = steps'.waitForCompletion es s (view a)
  resetDevice : ∀ o a, view (steps.resetDevice o a) = steps'.resetDevice o (view a)

section Follows

variable {view : α → β} {steps : ExchangeSteps κ α} {steps' : ExchangeSteps κ' β}
  (follows : Follows view steps steps')

include follows

theorem Follows.exchangeLive (live : LiveQueue) (x : ExchangeInput) (a : α) :
    ((steps.exchangeLive live x a).1, view (steps.exchangeLive live x a).2) =
      steps'.exchangeLive live x (view a) := by
  have shared := follows.shared a
  have reqPhys : (steps.transport a).dmaReqPhys = (steps'.transport (view a)).dmaReqPhys :=
    congrArg TransportState.dmaReqPhys shared
  have respPhys : (steps.transport a).dmaRespPhys = (steps'.transport (view a)).dmaRespPhys :=
    congrArg TransportState.dmaRespPhys shared
  have chid : (steps.transport a).chid = (steps'.transport (view a)).chid :=
    congrArg TransportState.chid shared
  have pulses : (steps.transport a).pulses = (steps'.transport (view a)).pulses :=
    congrArg TransportState.pulses shared
  unfold ExchangeSteps.exchangeLive
  simp only [reqPhys, respPhys, chid, pulses, ← follows.notify, ← follows.waitForCompletion,
    ← follows.leave]
  split
  · rfl
  · split
    · rfl
    · split
      · rw [← follows.resetDevice]
      · rfl

theorem Follows.exchange (x : ExchangeInput) (a : α) :
    ((steps.exchange x a).1, view (steps.exchange x a).2) = steps'.exchange x (view a) := by
  have shared := follows.shared a
  have queue : (steps.transport a).virtqueue = (steps'.transport (view a)).virtqueue :=
    congrArg TransportState.virtqueue shared
  have request : (steps.transport a).dmaReqVirt = (steps'.transport (view a)).dmaReqVirt :=
    congrArg TransportState.dmaReqVirt shared
  have response : (steps.transport a).dmaRespVirt = (steps'.transport (view a)).dmaRespVirt :=
    congrArg TransportState.dmaRespVirt shared
  unfold ExchangeSteps.exchange
  simp only [queue, request, response]
  split
  · exact follows.exchangeLive _ x a
  · rfl

end Follows

/-- The ways in which an exchange ends behind its guard. -/
theorem exchangeLive_state (steps : ExchangeSteps κ α) (live : LiveQueue)
    (x : ExchangeInput) (a : α) :
    let t := steps.transport a
    let added := live.addBuf t.dmaReqPhys (UInt32.ofNat x.request.length) t.dmaRespPhys
      maxMessageSize
    let s := WaitState.elapsed ⟨added.2, 0 ≤ t.chid, t.pulses⟩ x.early
    let waited := steps.waitForCompletion x.events s (steps.notify a)
    let after := (steps.exchangeLive live x a).2
    added.1 < 0 ∧ after = steps.leave added.2 t.pulses a ∨
      ¬ added.1 < 0 ∧ (waited.1 = none ∧ after = steps.leave s.live s.pulses waited.2 ∨
        ∃ done es s', waited.1 = some (done, es, s') ∧
          (done.rc < 0 ∧
              after = steps.resetDevice x.reset (steps.leave s'.live s'.pulses waited.2) ∨
            ¬ done.rc < 0 ∧ after = steps.leave s'.live s'.pulses waited.2)) := by
  intro t added s waited after
  by_cases full : added.1 < 0
  · exact .inl ⟨full, congrArg Prod.snd (if_pos full)⟩
  · refine .inr ⟨full, ?_⟩
    have goesOn : after = _ := congrArg Prod.snd (if_neg full)
    rw [goesOn]
    cases waited.1 with
    | none => exact .inl ⟨rfl, rfl⟩
    | some result =>
      obtain ⟨done, es, s'⟩ := result
      refine .inr ⟨done, es, s', rfl, ?_⟩
      by_cases failed : done.rc < 0
      · exact .inl ⟨failed, congrArg Prod.snd (if_pos failed)⟩
      · exact .inr ⟨failed, congrArg Prod.snd (if_neg failed)⟩

/-- What each step leads to, an exchange leads to. -/
theorem exchange_leads {steps : ExchangeSteps κ α} {Leads : α → α → Prop} (refl : ∀ a, Leads a a)
    (trans : ∀ {a b c}, Leads a b → Leads b c → Leads a c)
    (leave : ∀ live pulses a, Leads a (steps.leave live pulses a))
    (notify : ∀ a, Leads a (steps.notify a))
    (waitForCompletion : ∀ es s a, Leads a (steps.waitForCompletion es s a).2)
    (resetDevice : ∀ o a, Leads a (steps.resetDevice o a)) (x : ExchangeInput) (a : α) :
    Leads a (steps.exchange x a).2 := by
  have waited : ∀ es s live pulses,
      Leads a (steps.leave live pulses (steps.waitForCompletion es s (steps.notify a)).2) :=
    fun es s live pulses => trans (trans (notify a) (waitForCompletion es s _)) (leave _ _ _)
  unfold exchange
  simp only
  split
  · rename_i live _ _ _ _ _
    rcases exchangeLive_state steps live x a with ⟨-, state⟩ | ⟨-, ⟨-, state⟩ | ⟨_, _, _, -, ends⟩⟩
    · exact state ▸ leave _ _ a
    · exact state ▸ waited _ _ _ _
    · rcases ends with ⟨-, state⟩ | ⟨-, state⟩
      · exact state ▸ trans (waited _ _ _ _) (resetDevice _ _)
      · exact state ▸ waited _ _ _ _
  · exact refl a

end ExchangeSteps

namespace TransportImpl

section Live

variable {κ : Type} (impl : TransportImpl κ)

/-- An exchange leaves all but the queue and the pulses alone, or resets the device after it. -/
theorem exchange_state (x : ExchangeInput) (t : TransportState κ) :
    ∃ queue pulses, (impl.exchange x t).2 = { t with virtqueue := queue, pulses := pulses } ∨
      (impl.exchange x t).2 =
        (impl.resetDevice x.reset { t with virtqueue := queue, pulses := pulses }).2 := by
  rw [exchange_eq]
  split
  · simp only
    split
    · exact ⟨_, t.pulses, .inl rfl⟩
    · split
      · exact ⟨_, _, .inl rfl⟩
      · split
        · exact ⟨_, _, .inr rfl⟩
        · exact ⟨_, _, .inl rfl⟩
  · exact ⟨t.virtqueue, t.pulses, .inl rfl⟩

end Live

variable {κ κ' : Type}

structure Refines (φ : κ → κ') (impl : TransportImpl κ) (impl' : TransportImpl κ') : Prop where
  clearStatus : ∀ t, (impl.clearStatus t).mapOwn φ = impl'.clearStatus (t.mapOwn φ)
  negotiateFeatures : ∀ o t,
    ((impl.negotiateFeatures o t).1, (impl.negotiateFeatures o t).2.mapOwn φ) =
      impl'.negotiateFeatures o (t.mapOwn φ)
  setupVirtqueue : ∀ o t,
    ((impl.setupVirtqueue o t).1, (impl.setupVirtqueue o t).2.mapOwn φ) =
      impl'.setupVirtqueue o (t.mapOwn φ)
  waitForCompletion : impl.waitForCompletion = impl'.waitForCompletion

variable {φ : κ → κ'} {impl : TransportImpl κ} {impl' : TransportImpl κ'}

theorem Refines.initializeDevice (refines : Refines φ impl impl') (o : SetupOutcome)
    (t : TransportState κ) :
    ((impl.initializeDevice o t).1, (impl.initializeDevice o t).2.mapOwn φ) =
      impl'.initializeDevice o (t.mapOwn φ) := by
  have queued := refines.setupVirtqueue o (impl.negotiateFeatures o t).2
  unfold TransportImpl.initializeDevice
  simp only [← refines.negotiateFeatures, ← queued]
  split
  · rfl
  · split
    · rfl
    · exact TransportState.mapOwn_mapBuffers φ _ o

theorem Refines.resetDevice (refines : Refines φ impl impl') (o : SetupOutcome)
    (t : TransportState κ) :
    ((impl.resetDevice o t).1, (impl.resetDevice o t).2.mapOwn φ) =
      impl'.resetDevice o (t.mapOwn φ) := by
  have initialized := refines.initializeDevice o
    { impl.clearStatus t with virtqueue := none }.release
  have cleared : ({ impl.clearStatus t with virtqueue := none }.release).mapOwn φ =
      { impl'.clearStatus (t.mapOwn φ) with virtqueue := none }.release := by
    rw [← refines.clearStatus]
    rfl
  unfold TransportImpl.resetDevice
  simp only [← cleared, ← initialized]
  rfl

theorem Refines.exchange (refines : Refines φ impl impl') (x : ExchangeInput)
    (t : TransportState κ) :
    ((impl.exchange x t).1, (impl.exchange x t).2.mapOwn φ) =
      impl'.exchange x (t.mapOwn φ) := by
  have follows : ExchangeSteps.Follows (·.mapOwn φ) impl.steps impl'.steps :=
    { shared := fun _ => rfl
      leave := fun _ _ _ => rfl
      notify := fun _ => rfl
      waitForCompletion := fun es s t =>
        congrArg (fun wait => (wait es s, t.mapOwn φ)) refines.waitForCompletion
      resetDevice := fun o t => congrArg Prod.snd (refines.resetDevice o t) }
  exact follows.exchange x t

end TransportImpl

end Virtio9p
