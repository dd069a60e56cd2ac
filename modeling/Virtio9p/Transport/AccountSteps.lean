import Virtio9p.Transport.Accounts

/-!
# What each step acquires and releases

The members tell what a transport holds. A step moves from one state to the next if its new
entries, beginning with what is held before it, end with what is held after it.
-/
namespace Virtio9p

open Ledger (Entry account account_other account_outside account_releases account_trans
  mem_releases releases)

/-! ### The memory of a queue -/

namespace RingHeld

@[simp] theorem holds_none (r : Resource) : RingHeld.none.holds r = false := by
  cases r <;> rfl

theorem holds_of_not_parts (ring : RingHeld) {r : Resource} (other : r ∉ parts) :
    ring.holds r = false := by
  cases ring <;> cases r <;> first | rfl | exact absurd (by decide) other

theorem account_free (ring : RingHeld) (r : Resource) :
    account r ring.free (ring.holds r) = some false := by
  rw [free, account_releases (by decide)]
  split
  · rfl
  · rename_i other
    rw [ring.holds_of_not_parts other]

end RingHeld

/-- An allocation that fails gives back what it has taken. -/
theorem account_alloc (kind : QueueKind) (failure : Option RingFailure) (r : Resource) :
    account r (kind.alloc failure).2 false = some ((kind.alloc failure).1.holds r) := by
  cases failure with
  | none => cases kind <;> cases r <;> rfl
  | some failure =>
    obtain ⟨part, step⟩ := failure
    cases kind <;> cases part <;> cases step <;> cases r <;> rfl

theorem alloc_parts (kind : QueueKind) (failure : Option RingFailure) :
    ∀ e ∈ (kind.alloc failure).2, e.resource ∈ RingHeld.parts := by
  cases failure with
  | none => cases kind <;> decide
  | some failure =>
    obtain ⟨part, step⟩ := failure
    cases kind <;> cases part <;> cases step <;> decide

/-- Entries about claimed interrupts leave the other resources alone. -/
theorem account_claims {new : List (Entry Resource)} (claims : ∀ e ∈ new, e.resource.isIrq = true)
    {r : Resource} (plain : r.isIrq = false) (held : Bool) : account r new held = some held := by
  apply account_other
  intro e mem about
  have claim := claims e mem
  rw [about, plain] at claim
  cases claim

/-! ### The buffers and the interrupt -/

namespace TransportState

variable {κ : Type} {o : SetupOutcome} {t : TransportState κ}

@[simp] theorem onDevice_holds (change : Device → Device) (r : Resource) :
    (t.onDevice change).holds r = t.holds r := rfl

theorem holds_of_not_handles (t : TransportState κ) {r : Resource} (other : r ∉ handles) :
    t.holds r = false := by
  cases r <;> first | rfl | exact absurd (by decide) other

theorem account_releaseLog (t : TransportState κ) (r : Resource) :
    account r t.releaseLog (t.holds r) = some false := by
  rw [releaseLog, account_releases (by decide)]
  split
  · rfl
  · rename_i other
    rw [t.holds_of_not_handles other]

/-- Nothing is held that `mapBuffers` acquires. -/
def Free (t : TransportState κ) : Prop := ∀ r, t.holds r = false

theorem release_free (t : TransportState κ) : t.release.Free := by
  have negative (id : Int32) : decide (0 ≤ if 0 ≤ id then -1 else id) = false := by
    split
    · decide
    · rename_i taken
      exact decide_eq_false taken
  intro r
  cases r <;> first | rfl | exact negative _

theorem mapLog_handles (o : SetupOutcome) : ∀ e ∈ mapLog o, e.resource ∈ handles := by
  unfold mapLog attachLog
  cases o.stop with
  | none => decide
  | some step => cases step <;> decide

/-- `mapBuffers` holds what its entries say, whichever step of it fails. -/
theorem account_mapLog (free : t.Free) (r : Resource) :
    account r (mapLog o) false = some ((t.mapBuffers o).2.holds r) := by
  by_cases handle : r ∈ handles
  · have interrupt : ¬ 0 ≤ t.irqId := of_decide_eq_false (free .interrupt)
    have connection : ¬ 0 ≤ t.coid := of_decide_eq_false (free .connection)
    have channel : ¬ 0 ≤ t.chid := of_decide_eq_false (free .channel)
    have response : t.dmaRespVirt = none := by
      have absent : t.dmaRespVirt.isSome = false := free .response
      simpa using absent
    simp only [handles, List.mem_cons, List.not_mem_nil, or_false] at handle
    unfold mapLog attachLog mapBuffers attachInterrupt
    cases stop : o.stop with
    | none =>
      rcases handle with rfl | rfl | rfl | rfl | rfl <;>
        simp [holds, Ledger.enter, o.chid.property, o.coid.property, o.irqId.property]
    | some step =>
      -- a call that fails stores -1 or null
      have absent : ¬ (0 : Int32) ≤ -1 := by decide
      cases step <;> rcases handle with rfl | rfl | rfl | rfl | rfl <;>
        simp [holds, Ledger.enter, o.chid.property, o.coid.property, o.irqId.property, interrupt,
          connection, channel, response, absent]
  · rw [account_outside (mapLog_handles o) handle, TransportState.holds_of_not_handles _ handle]

end TransportState

/-! ### Moves -/

namespace Accounts

variable {κ : Type} {own : κ → Resource → Bool} {a a' a'' : Accounts κ}

variable (own) in
/-- What the members say is held; `own` is for those of one transport. -/
def holds (a : Accounts κ) (r : Resource) : Bool :=
  a.transport.holds r || a.ring.holds r || own a.transport.own r

variable (own) in
/-- The new entries lead from what is held before to what is held after; none is about a claimed
interrupt. -/
def Moves (a a' : Accounts κ) : Prop :=
  ∃ new, a'.ledger = a.ledger ++ new ∧ (∀ e ∈ new, e.resource.isIrq = false) ∧
    ∀ r, account r new (a.holds own r) = some (a'.holds own r)

theorem Moves.trans (first : Moves own a a') (second : Moves own a' a'') : Moves own a a'' := by
  obtain ⟨new, appended, plain, moves⟩ := first
  obtain ⟨new', appended', plain', moves'⟩ := second
  refine ⟨new ++ new', by rw [appended', appended, List.append_assoc], ?_, fun r => ?_⟩
  · exact fun e mem => (List.mem_append.mp mem).elim (plain e) (plain' e)
  · exact account_trans (moves r) (moves' r)

/-- Nothing is acquired or released. -/
theorem Moves.of_holds (ledger : a'.ledger = a.ledger)
    (holds : ∀ r, a'.holds own r = a.holds own r) : Moves own a a' :=
  ⟨[], by rw [ledger, List.append_nil], nofun, fun r => by rw [holds]; rfl⟩

/-- The entries are about `rs` only, and so is what changes. -/
theorem Moves.of_part (rs : List Resource) {new : List (Entry Resource)}
    (ledger : a'.ledger = a.ledger ++ new) (plain : ∀ r ∈ rs, r.isIrq = false)
    (inside : ∀ e ∈ new, e.resource ∈ rs)
    (moves : ∀ r ∈ rs, account r new (a.holds own r) = some (a'.holds own r))
    (others : ∀ r, r ∉ rs → a'.holds own r = a.holds own r) : Moves own a a' := by
  refine ⟨new, ledger, fun e mem => plain _ (inside e mem), fun r => ?_⟩
  by_cases part : r ∈ rs
  · exact moves r part
  · rw [account_outside inside part, others r part]

/-- The members of one transport are for other resources than those that both have. -/
def OwnOnly (own : κ → Resource → Bool) : Prop :=
  ∀ k r, r ∈ TransportState.handles ++ RingHeld.parts → own k r = false

theorem holds_handle (only : OwnOnly own) (a : Accounts κ) {r : Resource}
    (handle : r ∈ TransportState.handles) : a.holds own r = a.transport.holds r := by
  have apart : r ∉ RingHeld.parts := by
    simp only [TransportState.handles, List.mem_cons, List.not_mem_nil, or_false] at handle
    rcases handle with rfl | rfl | rfl | rfl | rfl <;> decide
  rw [holds, a.ring.holds_of_not_parts apart, only _ _ (List.mem_append_left _ handle),
    Bool.or_false, Bool.or_false]

theorem holds_part (only : OwnOnly own) (a : Accounts κ) {r : Resource}
    (part : r ∈ RingHeld.parts) : a.holds own r = a.ring.holds r := by
  have apart : r ∉ TransportState.handles := by
    simp only [RingHeld.parts, List.mem_cons, List.not_mem_nil, or_false] at part
    rcases part with rfl | rfl | rfl | rfl <;> decide
  rw [holds, a.transport.holds_of_not_handles apart, only _ _ (List.mem_append_right _ part),
    Bool.or_false, Bool.false_or]

theorem holds_member (a : Accounts κ) {r : Resource} (other : r ∉ TransportState.handles)
    (other' : r ∉ RingHeld.parts) : a.holds own r = own a.transport.own r := by
  rw [holds, a.transport.holds_of_not_handles other, a.ring.holds_of_not_parts other',
    Bool.or_false, Bool.false_or]

/-! ### The steps -/

theorem release_moves (only : OwnOnly own) (a : Accounts κ) : Moves own a a.release := by
  apply Moves.of_part TransportState.handles rfl
  · decide
  · exact fun _ => mem_releases
  · intro r handle
    rw [a.holds_handle only handle, a.release.holds_handle only handle]
    exact (a.transport.account_releaseLog r).trans
      (congrArg some (a.transport.release_free r).symm)
  · intro r other
    rw [holds, holds, a.transport.holds_of_not_handles other,
      a.release.transport.holds_of_not_handles other]
    rfl

/-- What the members of one transport alone hold is given back when they are closed. -/
theorem close_moves (close : κ → κ) {rs : List Resource} (once : rs.Nodup)
    (members : ∀ r ∈ rs, r.isIrq = false ∧ r ∉ TransportState.handles ∧ r ∉ RingHeld.parts)
    (closed : ∀ k, ∀ r ∈ rs, own (close k) r = false)
    (others : ∀ k r, r ∉ rs → own (close k) r = own k r) (a : Accounts κ) :
    Moves own a ((a.enter (releases (own a.transport.own) rs)).on fun t =>
      { t with own := close t.own }) := by
  apply Moves.of_part rs rfl
  · exact fun r mem => (members r mem).1
  · exact fun _ => mem_releases
  · intro r mem
    obtain ⟨-, other, other'⟩ := members r mem
    have given := account_releases once (own a.transport.own) r
    rw [if_pos mem] at given
    rw [a.holds_member other other', holds_member _ other other']
    exact given.trans (congrArg some (closed a.transport.own r mem).symm)
  · intro r other
    exact congrArg _ (others a.transport.own r other)

theorem resetQueue_moves (only : OwnOnly own) (a : Accounts κ) : Moves own a a.resetQueue := by
  apply Moves.of_part RingHeld.parts rfl
  · decide
  · exact fun _ => mem_releases
  · intro r part
    rw [a.holds_part only part, a.resetQueue.holds_part only part]
    exact (a.ring.account_free r).trans (congrArg some (RingHeld.holds_none r).symm)
  · intro r other
    rw [holds, holds, a.ring.holds_of_not_parts other, a.resetQueue.ring.holds_of_not_parts other]
    cases r <;> rfl

/-- A step that acquires and releases nothing. -/
structure Kept (own : κ → Resource → Bool) (t t' : TransportState κ) : Prop where
  handles : ∀ r, t'.holds r = t.holds r
  members : ∀ r, own t'.own r = own t.own r

theorem Kept.moves {t' : TransportState κ} (kept : Kept own a.transport t') :
    Moves own a { a with transport := t' } :=
  .of_holds rfl fun r => by
    rw [holds, holds, kept.handles r, kept.members r]

/-- The registers are no resource of their own. -/
structure AccountLaws (impl : TransportImpl κ) (own : κ → Resource → Bool) : Prop where
  only : OwnOnly own
  cleared : ∀ t, Kept own t (impl.clearStatus t)
  negotiated : ∀ o t, Kept own t (impl.negotiateFeatures o t).2
  queued : ∀ o t, Kept own t (impl.setupVirtqueue o t).2

variable {impl : TransportImpl κ} (made : QueueMade κ)

theorem setupVirtqueue_moves (laws : AccountLaws impl own) (failure : RingFailure)
    (o : SetupOutcome) (a : Accounts κ) :
    Moves own a (a.setupVirtqueue impl made failure o).2 := by
  have kept := laws.queued o a.transport
  unfold setupVirtqueue
  simp only
  split
  · exact kept.moves
  · rename_i kind _
    let failed := if o.stop = some .queueMemory then some failure else none
    apply Moves.of_part RingHeld.parts (List.append_assoc _ _ _)
    · decide
    · intro e mem
      exact (List.mem_append.mp mem).elim mem_releases (alloc_parts kind failed e)
    · intro r part
      rw [a.holds_part laws.only part, holds_part laws.only _ part]
      exact account_trans (a.ring.account_free r) (account_alloc kind failed r)
    · intro r other
      rw [holds, holds, RingHeld.holds_of_not_parts _ other, RingHeld.holds_of_not_parts _ other,
        kept.handles r, kept.members r]

theorem setupVirtqueue_free (laws : AccountLaws impl own) (failure : RingFailure)
    (o : SetupOutcome) (free : a.transport.Free) :
    (a.setupVirtqueue impl made failure o).2.transport.Free := by
  have same := congrArg Prod.snd (setupVirtqueue_transport impl made a failure o)
  intro r
  rw [show (a.setupVirtqueue impl made failure o).2.transport = _ from same]
  exact ((laws.queued o a.transport).handles r).trans (free r)

theorem mapBuffers_moves (only : OwnOnly own) (o : SetupOutcome) (free : a.transport.Free) :
    Moves own a { a.enter (TransportState.mapLog o) with
      transport := (a.transport.mapBuffers o).2 } := by
  apply Moves.of_part TransportState.handles rfl
  · decide
  · exact TransportState.mapLog_handles o
  · intro r handle
    rw [a.holds_handle only handle, holds_handle only _ handle, free r]
    exact TransportState.account_mapLog free r
  · intro r other
    rw [holds, holds, TransportState.holds_of_not_handles _ other,
      TransportState.holds_of_not_handles _ other, TransportState.mapBuffers_own]
    rfl

theorem initializeDevice_moves (laws : AccountLaws impl own) (failure : RingFailure)
    (o : SetupOutcome) (free : a.transport.Free) :
    Moves own a (a.initializeDevice impl made failure o).2 := by
  have kept := laws.negotiated o a.transport
  let b : Accounts κ := { a with transport := (impl.negotiateFeatures o a.transport).2 }
  have still : b.transport.Free := fun r => (kept.handles r).trans (free r)
  have queued := setupVirtqueue_moves made laws failure o b
  unfold initializeDevice
  simp only
  split
  · exact kept.moves
  · split
    · exact kept.moves.trans queued
    · exact (kept.moves.trans queued).trans
        (mapBuffers_moves laws.only o (setupVirtqueue_free made laws failure o still))

theorem resetDevice_moves (laws : AccountLaws impl own) (failure : RingFailure)
    (o : SetupOutcome) (a : Accounts κ) : Moves own a (a.resetDevice impl made failure o).2 := by
  have cleared : Moves own a (a.on impl.clearStatus) := (laws.cleared a.transport).moves
  have emptied := resetQueue_moves laws.only (a.on impl.clearStatus)
  have released := release_moves laws.only (a.on impl.clearStatus).resetQueue
  have free : (a.on impl.clearStatus).resetQueue.release.transport.Free :=
    TransportState.release_free _
  have again := initializeDevice_moves made laws failure o free
  unfold resetDevice
  simp only
  exact (((cleared.trans emptied).trans released).trans again).trans
    (.of_holds rfl fun r => rfl)

theorem exchange_moves (laws : AccountLaws impl own) (failure : RingFailure) (x : ExchangeInput)
    (a : Accounts κ) : Moves own a (a.exchange impl made failure x).2 := by
  refine ExchangeSteps.exchange_leads (fun _ => .of_holds rfl fun _ => rfl) Moves.trans ?_
    (fun _ => .of_holds rfl fun _ => rfl) (fun _ _ _ => .of_holds rfl fun _ => rfl)
    (fun o a => resetDevice_moves made laws failure o a) x a
  intro live pulses a
  exact .of_holds rfl fun r => by cases r <;> rfl

/-! ### Ledgers in order -/

variable (own) in
/-- The ledger says of each resource but claimed interrupts what the members say. -/
def InOrder (a : Accounts κ) : Prop :=
  ∀ r, r.isIrq = false → account r a.ledger false = some (a.holds own r)

theorem InOrder.moves (order : InOrder own a) (moves : Moves own a a') : InOrder own a' := by
  obtain ⟨new, appended, -, steps⟩ := moves
  intro r plain
  rw [appended]
  exact account_trans (order r plain) (steps r)

/-- The entries about claimed interrupts. -/
def irqs (a : Accounts κ) : List (Entry Resource) := a.ledger.filter (·.resource.isIrq)

theorem Moves.irqs (moves : Moves own a a') : a'.irqs = a.irqs := by
  obtain ⟨new, appended, plain, -⟩ := moves
  have absent : new.filter (·.resource.isIrq) = [] :=
    List.filter_eq_nil_iff.mpr fun e mem => by simp [plain e mem]
  rw [Accounts.irqs, Accounts.irqs, appended, List.filter_append, absent, List.append_nil]

/-- Entries about claimed interrupts only. -/
theorem InOrder.claims (order : InOrder own a) {new : List (Entry Resource)}
    (claims : ∀ e ∈ new, e.resource.isIrq = true) : InOrder own (a.enter new) := by
  intro r plain
  exact account_trans (order r plain) (account_claims claims plain _)

theorem irqs_claims (a : Accounts κ) {new : List (Entry Resource)}
    (claims : ∀ e ∈ new, e.resource.isIrq = true) : (a.enter new).irqs = a.irqs ++ new := by
  rw [irqs, irqs, enter, List.filter_append, List.filter_eq_self.mpr claims]

/-- A ledger in order with nothing held is balanced if its entries about claimed interrupts
are. -/
theorem balanced_iff (order : InOrder own a)
    (empty : ∀ r, r.isIrq = false → a.holds own r = false) :
    Ledger.Balanced a.ledger ↔ Ledger.Balanced a.irqs := by
  have irq {r : Resource} (isIrq : r.isIrq = true) :
      account r a.irqs false = account r a.ledger false :=
    Ledger.account_filter (fun e _ same => by rw [same, isIrq]) false
  constructor
  · intro balanced r
    by_cases plain : r.isIrq = true
    · rw [irq plain]
      exact balanced r
    · refine account_other (fun e mem same => plain ?_) false
      rw [← same]
      exact (List.mem_filter.mp mem).2
  · intro balanced r
    by_cases plain : r.isIrq = true
    · rw [← irq plain]
      exact balanced r
    · have off := Bool.eq_false_iff.mpr plain
      rw [order r off, empty r off]

end Accounts

end Virtio9p
