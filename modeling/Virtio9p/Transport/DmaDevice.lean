import Virtio9p.Foundation.Machine
import Virtio9p.Foundation.Memory
import Virtio9p.Transport.Awaits

/-!
# The device behind the queue

The device reads the bytes of a request where the descriptors say, hands them to its server, and
writes what the server answers into the buffers that it may write.
-/
namespace Virtio9p

/-! ### Chains in memory -/

def VringDesc.writable (d : VringDesc) : Bool := d.flags &&& vringDescFlagWrite ≠ 0

/-- The descriptors from `i` on, and no more than `fuel` of them. -/
def Virtqueue.chainFrom (vq : Virtqueue) : Nat → UInt16 → List VringDesc
  | 0, _ => []
  | fuel + 1, i =>
    let d := vq.desc i
    d :: if d.flags &&& vringDescFlagNext ≠ 0 then chainFrom vq fuel d.next else []

/-- A chain has no more descriptors than the table. -/
def Virtqueue.chainAt (vq : Virtqueue) (head : UInt16) : List VringDesc :=
  vq.chainFrom vq.queueSize.toNat head

/-- The bytes of the buffers that the device reads. -/
def gather (m : Memory UInt8) (descs : List VringDesc) : Bytes :=
  (descs.filter fun d => ¬ d.writable).flatMap fun d => m.load d.addr d.len.toNat

/-- The buffers that the device writes are filled one behind the other. What does not fit is cut
off. -/
def scatter (m : Memory UInt8) : List VringDesc → Bytes → Memory UInt8
  | [], _ => m
  | d :: ds, bytes =>
    if d.writable then scatter (m.store d.addr (bytes.take d.len.toNat)) ds (bytes.drop d.len.toNat)
    else scatter m ds bytes

def capacity (descs : List VringDesc) : Nat :=
  ((descs.filter VringDesc.writable).map fun d => d.len.toNat).sum

/-! ### The device -/

/-- A chain that the device has taken, with the answer once there is one. -/
structure Job where
  head : UInt16
  request : Bytes
  response : Option Bytes
  deriving DecidableEq, Repr

/-- The memory that the device shares with the driver, its own state, and that of its server. -/
structure Backend (S : Type) where
  memory : Memory UInt8
  /-- The device's own index into the available ring. -/
  seenIdx : UInt16
  jobs : List Job
  server : S

/-- What happens on the device's side. `pulse` and `tick` are those of a wait. -/
inductive DeviceEvent where
  | pulse
  | tick
  /-- Take the next entry of the available ring, and read its request. -/
  | take
  /-- Hand the request of a chain that is held to the server. -/
  | execute (which : Nat)
  /-- Write the answer, and publish the completion. -/
  | finish (which : Nat)
  deriving DecidableEq, Repr

namespace Backend

variable {S : Type}

/-- A device that is reset forgets what it holds. -/
def reset (h : Backend S) : Backend S := { h with seenIdx := 0, jobs := [] }

def take (vq : Virtqueue) (h : Backend S) : Backend S :=
  if h.seenIdx = vq.availIdx then h
  else
    let head := vq.availRing (vq.slot h.seenIdx)
    { h with
      seenIdx := h.seenIdx + 1
      jobs := h.jobs ++ [⟨head, gather h.memory (vq.chainAt head), none⟩] }

def execute (serve : Bytes → S → Bytes × S) (which : Nat) (h : Backend S) : Backend S :=
  match h.jobs[which]? with
  | some ⟨head, request, none⟩ =>
    let served := serve request h.server
    { h with
      jobs := h.jobs.set which ⟨head, request, some served.1⟩
      server := served.2 }
  | _ => h

def finish (vq : Virtqueue) (which : Nat) (h : Backend S) : Option WaitEvent × Backend S :=
  match h.jobs[which]? with
  | some ⟨head, _, some response⟩ =>
    let descs := vq.chainAt head
    (some (.complete head (UInt32.ofNat (min response.length (capacity descs)))),
      { h with
        memory := scatter h.memory descs response
        jobs := h.jobs.eraseIdx which })
  | _ => (none, h)

end Backend

/-- The device at a queue that the driver does not write to. The driver sees the pulses, the ends
of its sleeps and the completions. -/
def dmaDevice {S : Type} (serve : Bytes → S → Bytes × S) (vq : Virtqueue) :
    Machine DeviceEvent (Option WaitEvent) (Backend S) where
  step
    | .pulse, h => (some .pulse, h)
    | .tick, h => (some .tick, h)
    | .take, h => (none, h.take vq)
    | .execute which, h => (none, h.execute serve which)
    | .finish which, h => h.finish vq which

/-! ### One request at the device -/

/-- How far the device has got with the one request. -/
inductive Phase where
  | posted
  | taken
  | executed
  | finished
  deriving DecidableEq, Repr

namespace Phase

def next : Phase → DeviceEvent → Phase
  | posted, .take => taken
  | taken, .execute 0 => executed
  | executed, .finish 0 => finished
  | phase, _ => phase

def after (es : List DeviceEvent) (phase : Phase) : Phase := es.foldl next phase

theorem next_finished (e : DeviceEvent) : next finished e = finished := by
  cases e <;> rfl

/-- The steps that are still to come. -/
def remaining : Phase → List DeviceEvent
  | posted => [.take, .execute 0, .finish 0]
  | taken => [.execute 0, .finish 0]
  | executed => [.finish 0]
  | finished => []

/-- The phase moves on with the next step, and with no other event. -/
theorem next_step {phase : Phase} {step : DeviceEvent} {rest : List DeviceEvent}
    (steps : phase.remaining = step :: rest) :
    (phase.next step).remaining = rest ∧ ∀ e, e ≠ step → phase.next e = phase := by
  cases phase with
  | finished => cases steps
  | posted | taken | executed =>
    cases steps
    refine ⟨rfl, ?_⟩
    intro e other
    unfold next
    split <;> first | rfl | contradiction

/-- The request is answered if the remaining steps are taken in their order, whatever comes in
between. -/
theorem after_of_sublist {es : List DeviceEvent} {phase : Phase}
    (steps : phase.remaining.Sublist es) : phase.after es = finished := by
  induction es generalizing phase with
  | nil =>
    have none := List.sublist_nil.mp steps
    cases phase with
    | finished => rfl
    | posted | taken | executed => cases none
  | cons e es ih =>
    change after es (phase.next e) = finished
    apply ih
    cases left : phase.remaining with
    | nil =>
      cases phase with
      | finished =>
        rw [next_finished]
        exact List.nil_sublist es
      | posted | taken | executed => cases left
    | cons step rest =>
      obtain ⟨moves, stays⟩ := next_step left
      rw [left] at steps
      by_cases same : e = step
      · rw [same, moves]
        rw [same] at steps
        exact List.cons_sublist_cons.mp steps
      · rw [stays e same, left]
        cases steps with
        | cons _ later => exact later
        | cons_cons => exact absurd rfl same

end Phase

/-- The queue as `AddBuf` leaves it with one chain in flight. -/
structure Posted (vq : Virtqueue) (c : Chain) : Prop where
  holds : vq.Holds c
  entry : vq.availRing (vq.slot (vq.availIdx - 1)) = c.head
  two : 2 ≤ vq.queueSize

@[simp] theorem Chain.request_writable (c : Chain) : c.request.writable = false :=
  (by decide : decide ((1 : UInt16) &&& 2 ≠ 0) = false)

@[simp] theorem Chain.response_writable (c : Chain) : c.response.writable = true :=
  (by decide : decide ((2 : UInt16) &&& 2 ≠ 0) = true)

namespace Posted

variable {vq : Virtqueue} {c : Chain} (posted : Posted vq c)

include posted

/-- The device finds the two descriptors of the chain. -/
theorem chainAt_head : vq.chainAt c.head = [c.request, c.response] := by
  obtain ⟨first, second⟩ := posted.holds
  obtain ⟨more, size⟩ := Nat.exists_eq_add_of_le (UInt16.le_iff_toNat_le.mp posted.two)
  have two : (2 : UInt16).toNat = 2 := rfl
  rw [two, Nat.add_comm] at size
  have linked : c.request.flags &&& vringDescFlagNext ≠ 0 := (by decide : (1 : UInt16) &&& 1 ≠ 0)
  have last : ¬ c.response.flags &&& vringDescFlagNext ≠ 0 := (by decide : ¬ (2 : UInt16) &&& 1 ≠ 0)
  have tail : vq.chainFrom (more + 1) c.tail = [c.response] := by
    simp only [Virtqueue.chainFrom]
    rw [second, if_neg last]
  rw [Virtqueue.chainAt, size, Virtqueue.chainFrom, first, if_pos linked]
  exact congrArg (c.request :: ·) tail

theorem gather_head (m : Memory UInt8) :
    gather m (vq.chainAt c.head) = m.load c.outPhys c.outLen.toNat := by
  rw [posted.chainAt_head]
  simp [gather]
  rfl

theorem scatter_head (m : Memory UInt8) (bytes : Bytes) :
    scatter m (vq.chainAt c.head) bytes = m.store c.inPhys (bytes.take c.inLen.toNat) := by
  rw [posted.chainAt_head]
  simp [scatter]
  rfl

theorem capacity_head : capacity (vq.chainAt c.head) = c.inLen.toNat := by
  rw [posted.chainAt_head]
  simp [capacity]
  rfl

end Posted

section Request

variable {S : Type} (serve : Bytes → S → Bytes × S) {vq : Virtqueue} {c : Chain} (request : Bytes)
  (s : S)

/-- The answer, as far as it fits the response buffer. -/
def answerFor (c : Chain) (request : Bytes) (s : S) : Bytes :=
  (serve request s).1.take c.inLen.toNat

/-- What the device holds in each phase of the request, which finds the server in state `s`. -/
inductive AtPhase (vq : Virtqueue) (c : Chain) : Phase → Backend S → Prop where
  | posted {h : Backend S} (entry : h.seenIdx + 1 = vq.availIdx) (jobs : h.jobs = [])
      (server : h.server = s) (bytes : h.memory.load c.outPhys c.outLen.toNat = request) :
      AtPhase vq c .posted h
  | taken {h : Backend S} (seen : h.seenIdx = vq.availIdx)
      (jobs : h.jobs = [⟨c.head, request, none⟩])
      (server : h.server = s) : AtPhase vq c .taken h
  | executed {h : Backend S} (seen : h.seenIdx = vq.availIdx)
      (jobs : h.jobs = [⟨c.head, request, some (serve request s).1⟩])
      (server : h.server = (serve request s).2) : AtPhase vq c .executed h
  | finished {h : Backend S} (seen : h.seenIdx = vq.availIdx) (jobs : h.jobs = [])
      (server : h.server = (serve request s).2)
      (bytes : h.memory.load c.inPhys (answerFor serve c request s).length =
        answerFor serve c request s) : AtPhase vq c .finished h

/-- The length that is published once the request is answered. -/
def Phase.answered (n : UInt32) : Phase → Option UInt32
  | finished => some n
  | _ => none

variable {serve request s} {phase : Phase} {h : Backend S}

/-- The device has seen all entries of the available ring, or the one of the chain is left. -/
theorem AtPhase.take (posted : Posted vq c) (here : AtPhase serve request s vq c phase h) :
    AtPhase serve request s vq c (phase.next .take) (h.take vq) := by
  cases here with
  | posted entry jobs server bytes =>
    have left : h.seenIdx ≠ vq.availIdx := by
      rw [← entry]
      simp
    have index : h.seenIdx = vq.availIdx - 1 := by
      rw [← entry]
      simp
    have head : vq.availRing (vq.slot h.seenIdx) = c.head := by rw [index, posted.entry]
    rw [Backend.take, if_neg left]
    simp only [head, posted.gather_head, bytes, jobs]
    exact .taken entry rfl server
  | taken seen jobs server =>
    rw [Backend.take, if_pos seen]
    exact .taken seen jobs server
  | executed seen jobs server =>
    rw [Backend.take, if_pos seen]
    exact .executed seen jobs server
  | finished seen jobs server bytes =>
    rw [Backend.take, if_pos seen]
    exact .finished seen jobs server bytes

theorem AtPhase.execute (here : AtPhase serve request s vq c phase h) (which : Nat) :
    AtPhase serve request s vq c (phase.next (.execute which)) (h.execute serve which) := by
  cases here with
  | posted entry jobs server bytes =>
    simp only [Backend.execute, jobs]
    exact .posted entry jobs server bytes
  | taken seen jobs server =>
    cases which with
    | zero =>
      simp only [Backend.execute, jobs, server]
      exact .executed seen rfl rfl
    | succ which =>
      simp only [Backend.execute, jobs]
      exact .taken seen jobs server
  | executed seen jobs server =>
    -- a request is executed once
    cases which with
    | zero =>
      simp only [Backend.execute, jobs]
      exact .executed seen jobs server
    | succ which =>
      simp only [Backend.execute, jobs]
      exact .executed seen jobs server
  | finished seen jobs server bytes =>
    simp only [Backend.execute, jobs]
    exact .finished seen jobs server bytes

/-- Nothing to finish. -/
theorem Backend.finish_none {which : Nat} (none : ∀ job, h.jobs[which]? = some job →
    job.response = Option.none) : h.finish vq which = (Option.none, h) := by
  unfold Backend.finish
  split
  · rename_i head request response found
    cases none _ found
  · rfl

theorem AtPhase.finish (posted : Posted vq c) (here : AtPhase serve request s vq c phase h)
    (which : Nat) {n : UInt32} (length : (answerFor serve c request s).length = n.toNat) :
    AtPhase serve request s vq c (phase.next (.finish which)) (h.finish vq which).2 ∧
      (phase.answered n).or ((h.finish vq which).1.bind (completion c)) =
        (phase.next (.finish which)).answered n := by
  cases here with
  | posted entry jobs server bytes =>
    have none : h.finish vq which = (none, h) := Backend.finish_none (by simp [jobs])
    rw [none]
    exact ⟨.posted entry jobs server bytes, rfl⟩
  | taken seen jobs server =>
    have none : h.finish vq which = (none, h) := by
      apply Backend.finish_none
      rw [jobs]
      cases which <;> simp
    rw [none]
    exact ⟨.taken seen jobs server, rfl⟩
  | executed seen jobs server =>
    cases which with
    | zero =>
      simp only [Backend.finish, jobs, List.getElem?_cons_zero, posted.scatter_head,
        posted.capacity_head]
      have short : (answerFor serve c request s).length ≤ 2 ^ 64 := by
        have small := n.toNat_lt
        omega
      refine ⟨.finished seen rfl server (Memory.load_store _ _ short), ?_⟩
      have counted : min (serve request s).1.length c.inLen.toNat = n.toNat := by
        rw [← length, answerFor, List.length_take, Nat.min_comm]
      rw [counted, UInt32.ofNat_toNat]
      simp [Phase.answered, completion, Phase.next]
    | succ which =>
      have none : h.finish vq (which + 1) = (none, h) := Backend.finish_none (by simp [jobs])
      rw [none]
      exact ⟨.executed seen jobs server, rfl⟩
  | finished seen jobs server bytes =>
    have none : h.finish vq which = (none, h) := Backend.finish_none (by simp [jobs])
    rw [none]
    exact ⟨.finished seen jobs server bytes, rfl⟩

/-- One event. -/
theorem AtPhase.step (posted : Posted vq c) (here : AtPhase serve request s vq c phase h)
    (e : DeviceEvent) {n : UInt32} (length : (answerFor serve c request s).length = n.toNat) :
    AtPhase serve request s vq c (phase.next e) ((dmaDevice serve vq).step e h).2 ∧
      (phase.answered n).or (((dmaDevice serve vq).step e h).1.bind (completion c)) =
        (phase.next e).answered n := by
  cases e with
  | pulse => cases here <;> exact ⟨by constructor <;> assumption, rfl⟩
  | tick => cases here <;> exact ⟨by constructor <;> assumption, rfl⟩
  | take =>
    refine ⟨here.take posted, ?_⟩
    cases phase <;> rfl
  | execute which =>
    refine ⟨here.execute which, ?_⟩
    cases phase with
    | taken => cases which <;> rfl
    | posted | executed | finished => rfl
  | finish which => exact here.finish posted which length

/-- Any events, by induction on them. -/
theorem AtPhase.run (posted : Posted vq c) (here : AtPhase serve request s vq c phase h)
    (es : List DeviceEvent) {n : UInt32} (length : (answerFor serve c request s).length = n.toNat) :
    AtPhase serve request s vq c (phase.after es) ((dmaDevice serve vq).run es h).2 ∧
      (phase.answered n).or (published c ((dmaDevice serve vq).run es h).1.reduceOption) =
        (phase.after es).answered n := by
  induction es generalizing phase h with
  | nil => exact ⟨here, Option.or_none⟩
  | cons e es ih =>
    obtain ⟨next, now⟩ := here.step posted e length
    obtain ⟨last, later⟩ := ih next
    refine ⟨last, ?_⟩
    change _ = (Phase.after es (phase.next e)).answered n
    rw [← later, ← now, Option.or_assoc]
    congr 1
    simp only [Machine.run]
    generalize ((dmaDevice serve vq).step e h).1 = seen
    cases seen with
    | none => rfl
    | some e' => exact published_cons c e' _

end Request

end Virtio9p
