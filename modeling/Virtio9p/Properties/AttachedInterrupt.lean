import Virtio9p.Properties.BarBounds
import Virtio9p.Properties.ExchangeRuns
import Virtio9p.Transport.PciTransportImpl

/-!
# The interrupt that is attached

`InterruptAttachEvent` gets `irq_num_`. Four things have to fit it: `use_msix_`, the MSI-X enable
bit, the vector of the queue and the number itself.
-/
namespace Virtio9p

namespace PciTransportImpl

/-- The device raises the interrupt that is attached. -/
def Raises (f : PciFunction) (m : PciMembers) : Prop :=
  (m.useMsix = true ∧ m.msixEnable = true ∧ m.queueVector = 0 ∧ m.irqNum = msiIrq) ∨
    (m.useMsix = false ∧ m.msixEnable = false ∧ f.readIrq = some m.irqNum)

/-! ### Runs -/

/-- A call after `Initialize`. -/
inductive Call where
  | resetDevice (refused : Bool) (o : SetupOutcome)
  | exchange (refused : Bool) (x : ExchangeInput)

namespace Call

/-- The device refuses the vector of the queue in this call. -/
def refused : Call → Bool
  | .resetDevice refused _ => refused
  | .exchange refused _ => refused

def run : Call → TransportState PciMembers → TransportState PciMembers
  | .resetDevice refused o, t => ((impl refused).resetDevice o t).2
  | .exchange refused x, t => ((impl refused).exchange x t).2

end Call

/-- The states after `Initialize` and after each call. -/
def states (f : PciFunction) (enabled refused : Bool) (o : SetupOutcome) (calls : List Call) :
    List (TransportState PciMembers) :=
  calls.scanl (fun t call => call.run t) (initializeTransport f refused o (fresh enabled)).2

/-! ### One setup -/

variable {f : PciFunction} {enabled : Bool}

variable (f enabled) in
/-- MSI-X is claimed and the BAR of its table is mapped. -/
def takesMsix : Bool :=
  f.usesMsix (.fresh enabled) &&
    (f.mappedSize (.fresh enabled) (f.tableEntry (.fresh enabled)).bar).isSome

variable (f enabled) in
/-- The members that a discovery leaves for a setup. -/
def Agrees (m : PciMembers) : Prop :=
  if takesMsix f enabled then m.useMsix = true ∧ m.msixEnable = true ∧ m.irqNum = msiIrq
  else m.useMsix = false ∧ m.msixEnable = false ∧ f.readIrq = some m.irqNum

variable (f enabled) in
/-- When the interrupt is right: the device refuses no vector, MSI-X is on if it is taken and off if
the legacy interrupt is, and a discovery that has claimed MSI-X gets to the end. -/
structure KeepsInterrupt (refusals : List Bool) : Prop where
  vector : takesMsix f enabled = true → ∀ refused ∈ refusals, refused = false
  written : takesMsix f enabled = true → (enabled || f.msixWritten) = true
  legacy : takesMsix f enabled = false → enabled = false
  notify : f.usesMsix (.fresh enabled) = true → ∀ c,
    (f.capabilities (.fresh enabled)).notify = some c →
      f.mappedSize (.fresh enabled) c.bar ≠ none
  fallback : f.usesMsix (.fresh enabled) = true → takesMsix f enabled = false → f.readIrq ≠ none

/-- A vector that is not refused keeps the members in agreement, and is the one of the queue. -/
theorem assignVector_agrees {refused : Bool} {m : PciMembers} (agrees : Agrees f enabled m)
    (accepted : takesMsix f enabled = true → refused = false) :
    Agrees f enabled (assignVector refused m) ∧
      ((assignVector refused m).useMsix = true → (assignVector refused m).queueVector = 0) := by
  unfold Agrees at agrees ⊢
  cases takes : takesMsix f enabled with
  | true =>
    rw [takes] at agrees accepted
    obtain ⟨used, enable, irq⟩ : m.useMsix = true ∧ m.msixEnable = true ∧ m.irqNum = msiIrq :=
      agrees
    simp [assignVector, accepted rfl, used, enable, irq]
  | false =>
    rw [takes] at agrees
    obtain ⟨used, enable, irq⟩ :
      m.useMsix = false ∧ m.msixEnable = false ∧ f.readIrq = some m.irqNum := agrees
    simp [assignVector, used, enable, irq]

/-! ### The invariant -/

variable (f enabled) in
/-- No setup can succeed, or the members are those of a discovery that agrees. -/
structure Settled (t : TransportState PciMembers) : Prop where
  agrees : t.own.commonCfg = none ∧ t.completed = false ∨ Agrees f enabled t.own
  vector : t.completed = true → t.own.useMsix = true → t.own.queueVector = 0

/-- A setup in a settled state, with the ghost that tells whether it succeeded. -/
theorem Settled.initializeDevice {t : TransportState PciMembers} {refused : Bool}
    (settled : t.own.commonCfg = none ∨ Agrees f enabled t.own)
    (accepted : takesMsix f enabled = true → refused = false) (o : SetupOutcome) :
    Settled f enabled { ((impl refused).initializeDevice o t).2 with
      completed := ((impl refused).initializeDevice o t).1 = 0 } := by
  obtain ⟨failed, own⟩ | ⟨mapped, own⟩ := initializeDevice_own refused o t
  · constructor
    · simpa [own, failed] using settled
    · simp [failed]
  · obtain ⟨agrees, vector⟩ := assignVector_agrees (settled.resolve_left mapped) accepted
    constructor
    · simp [own, agrees]
    · simpa [own] using fun _ => vector

theorem Settled.call {t : TransportState PciMembers} (settled : Settled f enabled t) {call : Call}
    (accepted : takesMsix f enabled = true → call.refused = false) :
    Settled f enabled (call.run t) := by
  have before : t.own.commonCfg = none ∨ Agrees f enabled t.own :=
    settled.agrees.imp_left And.left
  cases call with
  | resetDevice refused o =>
    exact .initializeDevice (t := { (impl refused).clearStatus t with virtqueue := none }.release)
      before accepted o
  | exchange refused x =>
    obtain ⟨queue, pulses, kept | reset⟩ := (impl refused).exchange_state x t
    · simp only [Call.run, kept]
      exact ⟨settled.agrees, settled.vector⟩
    · simp only [Call.run, reset]
      exact .initializeDevice (t := { (impl refused).clearStatus
        { t with virtqueue := queue, pulses := pulses } with virtqueue := none }.release)
        before accepted x.reset

/-! ### Discovery -/

theorem agrees_of_discovered {d : Discovery} (found : f.Discovered (.fresh enabled) d)
    (written : takesMsix f enabled = true → (enabled || f.msixWritten) = true)
    (legacy : takesMsix f enabled = false → enabled = false) : Agrees f enabled d.members := by
  have interrupt := found.interrupt rfl
  have msix : d.members.useMsix = takesMsix f enabled := found.msix
  unfold Agrees
  rw [msix] at interrupt
  split
  · rename_i takes
    rw [if_pos takes] at interrupt
    exact ⟨msix.trans takes, interrupt.2.trans (written takes), interrupt.1⟩
  · rename_i stays
    rw [if_neg stays] at interrupt
    have off := Bool.eq_false_iff.mpr stays
    exact ⟨msix.trans off, interrupt.1.trans (legacy off), interrupt.2⟩

/-- A mapping that fails leaves no registers, or members that agree. -/
theorem mapDevice_settled {refusals : List Bool} (keeps : KeepsInterrupt f enabled refusals)
    {common notify : CapInfo} {d : Discovery}
    (hasNotify : (f.capabilities (.fresh enabled)).notify = some notify)
    (claimed : (f.claimInterrupt (f.attachedTo (.fresh enabled))).1 = 0)
    (eq : d = (f.claimInterrupt (f.attachedTo (.fresh enabled))).2)
    (failed : (f.mapDevice common notify (f.capabilities (.fresh enabled)) d).1 ≠ 0) :
    let after := (f.mapDevice common notify (f.capabilities (.fresh enabled)) d).2.members
    after.commonCfg = none ∨ Agrees f enabled after := by
  have irq := PciFunction.claimInterrupt_ok (f := f) rfl claimed
  obtain ⟨-, members⟩ := f.claimInterrupt_members (f.attachedTo (.fresh enabled))
  rw [← eq] at irq members
  have used : d.members.useMsix = f.usesMsix (.fresh enabled) := by rw [members]; rfl
  have entry : f.msixTableEntry d.members.msixCapOffset = f.tableEntry (.fresh enabled) := by
    rw [members]; rfl
  have unset : d.members.commonCfg = none := by rw [members]; rfl
  have enable : d.members.msixEnable = enabled := by rw [members]; rfl
  unfold PciFunction.mapDevice at failed ⊢
  cases table : f.readBa with
  | none => exact .inl unset
  | some bas =>
    rw [table] at failed
    simp only [used, entry] at failed ⊢
    by_cases stopped : (f.mapBars (PciFunction.needBar (f.capabilities (.fresh enabled))
        (f.usesMsix (.fresh enabled)) (f.tableEntry (.fresh enabled)).bar) bas d).1 ≠ 0
    · rw [PciFunction.next_of_failed stopped, PciFunction.mapBars_members]
      exact .inl unset
    · obtain ⟨mapped, -⟩ := PciFunction.mapBars_ok (not_not.mp stopped)
      have sizes : PciFunction.mappedBars (PciFunction.needBar (f.capabilities (.fresh enabled))
          (f.usesMsix (.fresh enabled)) (f.tableEntry (.fresh enabled)).bar) bas d.members.bars =
            f.mappedSize (.fresh enabled) := by
        rw [PciFunction.mappedSize, table, members]
        rfl
      rw [sizes] at mapped
      rw [PciFunction.next_of_ok (not_not.mp stopped)] at failed ⊢
      obtain same | ⟨missing, set⟩ | ⟨msix, unmapped, unread⟩ :=
        PciFunction.placePointers_failed failed
      · rw [same, mapped]
        exact .inl unset
      · -- the notify BAR is missing, which only the legacy interrupt bears
        rw [mapped] at missing set
        have legacy : f.usesMsix (.fresh enabled) = false :=
          Bool.eq_false_iff.mpr fun uses => keeps.notify uses notify hasNotify missing
        have stays : takesMsix f enabled = false := by rw [takesMsix, legacy, Bool.false_and]
        rw [legacy] at irq used
        rw [set]
        refine .inr ?_
        unfold Agrees
        rw [stays]
        exact ⟨used, enable.trans (keeps.legacy stays), irq⟩
      · rw [mapped] at msix unmapped
        have uses : f.usesMsix (.fresh enabled) = true := used.symm.trans msix
        have absent : f.mappedSize (.fresh enabled) (f.tableEntry (.fresh enabled)).bar = none := by
          rw [← entry]
          exact unmapped
        have stays : takesMsix f enabled = false := by simp [takesMsix, absent]
        exact absurd unread (keeps.fallback uses stays)

theorem discoverDevice_settled {refusals : List Bool}
    (keeps : KeepsInterrupt f enabled refusals) :
    (f.discoverDevice (.fresh enabled)).2.members.commonCfg = none ∨
      Agrees f enabled (f.discoverDevice (.fresh enabled)).2.members := by
  by_cases ok : (f.discoverDevice (.fresh enabled)).1 = 0
  · exact .inr (agrees_of_discovered (PciFunction.discovered ok) keeps.written keeps.legacy)
  · obtain ⟨-, -, members, -⟩ | ⟨common, notify, -, hasNotify, -, claims⟩ :=
      f.discoverDevice_cases (.fresh enabled)
    · rw [members]
      exact .inl rfl
    · rw [claims] at ok ⊢
      by_cases unread : (f.claimInterrupt (f.attachedTo (.fresh enabled))).1 ≠ 0
      · rw [PciFunction.next_of_failed unread, (f.claimInterrupt_members _).2]
        exact .inl rfl
      · have claimed := not_not.mp unread
        rw [PciFunction.next_of_ok claimed] at ok ⊢
        exact mapDevice_settled keeps hasNotify claimed rfl ok

theorem initializeTransport_settled {refused : Bool} {refusals : List Bool}
    (keeps : KeepsInterrupt f enabled (refused :: refusals)) (o : SetupOutcome) :
    Settled f enabled (initializeTransport f refused o (fresh enabled)).2 := by
  have discovered := discoverDevice_settled keeps
  have accepted (takes : takesMsix f enabled = true) : refused = false :=
    keeps.vector takes refused List.mem_cons_self
  unfold initializeTransport
  simp only
  split
  · exact ⟨discovered.imp_left fun unset => ⟨unset, rfl⟩, nofun⟩
  · let t := { fresh enabled with
      own := (f.discoverDevice (.fresh enabled)).2.members, completed := false }
    have settled := Settled.initializeDevice (t := t) discovered accepted o
    have unfinished : ((impl refused).initializeDevice o t).2.completed = false :=
      initializeDevice_completed refused o t
    change Settled f enabled (let result := (impl refused).initializeDevice o t
      if result.1 ≠ 0 then (result.1, shutdown result.2)
      else ((0 : Int32), { result.2 with completed := true })).2
    simp only
    split
    · -- `Shutdown` takes the registers away
      constructor
      · exact .inl ⟨rfl, (shutdown_completed _).trans unfinished⟩
      · intro completed
        rw [shutdown_completed, unfinished] at completed
        cases completed
    · rename_i ok
      rw [decide_eq_true (not_not.mp ok)] at settled
      exact settled

/-! ### Every run -/

/-- In each state of a run the interrupt is right, if the condition is met. -/
theorem attached_interrupt_raised (f : PciFunction) (enabled refused : Bool) (o : SetupOutcome)
    (calls : List Call)
    (keeps : KeepsInterrupt f enabled (refused :: calls.map Call.refused)) :
    ∀ t ∈ states f enabled refused o calls, t.completed = true → Raises f t.own := by
  have raises {t : TransportState PciMembers} (settled : Settled f enabled t)
      (completed : t.completed = true) : Raises f t.own := by
    obtain ⟨-, unfinished⟩ | agrees := settled.agrees
    · exact absurd (unfinished.symm.trans completed) (by decide)
    · unfold Agrees at agrees
      split at agrees
      · obtain ⟨used, enable, irq⟩ := agrees
        exact .inl ⟨used, enable, settled.vector completed used, irq⟩
      · exact .inr agrees
  have first := initializeTransport_settled keeps o
  have accepted (call : Call) (mem : call ∈ calls) (takes : takesMsix f enabled = true) :
      call.refused = false :=
    keeps.vector takes _ (List.mem_cons_of_mem _ (List.mem_map_of_mem mem))
  unfold states
  generalize (initializeTransport f refused o (fresh enabled)).2 = t at first
  clear keeps
  induction calls generalizing t with
  | nil =>
    intro t' mem
    rw [List.scanl_nil, List.mem_singleton] at mem
    rw [mem]
    exact raises first
  | cons call calls ih =>
    intro t' mem
    rw [List.scanl_cons, List.mem_cons] at mem
    obtain rfl | later := mem
    · exact raises first
    · exact ih (fun call' mem' => accepted call' (List.mem_cons_of_mem _ mem')) _
        (first.call (accepted call List.mem_cons_self)) t' later

/-- `modernFunction` with an MSI-X capability, whose table is in the same BAR. -/
def msixFunction : PciFunction :=
  { PciFunction.modernFunction 0 with
    config := fun offset =>
      if offset = 0x64 then some 0x11
      else if offset = 0x68 then some 0x804
      else (PciFunction.modernFunction 0).config offset }

/-- After `Initialize` and a `ResetDevice`. -/
theorem attached_interrupt_raised_msix :
    Raises msixFunction ((Call.resetDevice false (setupUntil none)).run
      (initializeTransport msixFunction false (setupUntil none) (fresh false)).2).own :=
  attached_interrupt_raised msixFunction false false (setupUntil none)
    [.resetDevice false (setupUntil none)] {
      vector := fun _ => by decide
      written := fun _ => rfl
      legacy := fun _ => rfl
      notify := fun _ c has => by
        have found : (msixFunction.capabilities (.fresh false)).notify = some ⟨4, 0x100, 4⟩ := by
          decide
        cases found.symm.trans has
        decide
      fallback := fun _ stays => absurd stays (by decide) }
    _ (List.mem_cons_of_mem _ (List.mem_singleton.mpr rfl)) (by decide)

/-- The device refuses the vector: `irq_num_` stays the MSI interrupt, and MSI-X stays on. -/
theorem refused_vector_not_raised :
    ¬ ∀ (f : PciFunction) (enabled refused : Bool) (o : SetupOutcome) (calls : List Call),
      ∀ t ∈ states f enabled refused o calls, t.completed = true → Raises f t.own := by
  intro claim
  have raises := claim msixFunction false true (setupUntil none) [] _
    (List.mem_singleton.mpr rfl) (by decide)
  obtain ⟨used, -⟩ | ⟨-, disabled, -⟩ := raises
  · exact absurd used (by decide)
  · exact absurd disabled (by decide)

end PciTransportImpl

end Virtio9p
