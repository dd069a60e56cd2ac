import Virtio9p.Transport.Wait

/-!
# One chain in flight

The state of a wait while the chain of the current request is in flight: either the device
has not completed it, or its completion is the one entry of the used ring that is not read.
Every event and every `GetBuf` is one step between these two and the state in which the
chain has been returned.
-/
namespace Virtio9p

/-- Nothing is in flight. -/
structure Idle (queueSize : UInt16) (live : LiveQueue) : Prop where
  sound : Sound queueSize live
  empty : live.inFlight = []

/-- `c` is in flight, and `answer` is the length that the device has published for it. -/
structure Awaits (queueSize : UInt16) (c : Chain) (answer : Option UInt32) (live : LiveQueue) :
    Prop where
  sound : Sound queueSize live
  alone : live.inFlight = [c]
  unread : live.queue.unread = answer.toList.map fun outLen => ⟨c.head.toUInt32, outLen⟩

/-- The length with which an event completes the chain. -/
def completion (c : Chain) : WaitEvent → Option UInt32
  | .complete head outLen => if head = c.head then some outLen else none
  | _ => none

/-- The length with which the first completion of the chain is published. -/
def published (c : Chain) (es : List WaitEvent) : Option UInt32 := es.findSome? (completion c)

@[simp] theorem published_nil (c : Chain) : published c [] = none := rfl

theorem published_cons (c : Chain) (e : WaitEvent) (es : List WaitEvent) :
    published c (e :: es) = (completion c e).or (published c es) := by
  rw [published, List.findSome?_cons]
  cases completion c e <;> rfl

theorem published_append (c : Chain) (es es' : List WaitEvent) :
    published c (es ++ es') = (published c es).or (published c es') := List.findSome?_append

section Steps

variable {queueSize : UInt16} {c : Chain} {answer : Option UInt32} {live : LiveQueue}

theorem Idle.unread (idle : Idle queueSize live) : live.queue.unread = [] := by
  apply List.eq_nil_iff_forall_not_mem.mpr
  intro e member
  -- an unread entry names a chain in flight
  obtain ⟨c, inFlight, _⟩ := idle.sound.completes.named e member
  rw [idle.empty] at inFlight
  cases inFlight

/-- All descriptors are free. -/
theorem Idle.numFree (idle : Idle queueSize live) : live.queue.numFree = queueSize := by
  have count := idle.sound.count
  rw [idle.empty] at count
  exact UInt16.toNat_inj.mp count

/-- `AddBuf` on an idle queue of two descriptors or more. -/
theorem Idle.addBuf (idle : Idle queueSize live) (room : 2 ≤ queueSize) (outPhys : UInt64)
    (outLen : UInt32) (inPhys : UInt64) (inLen : UInt32) :
    let c := live.queue.nextChain outPhys outLen inPhys inLen
    (live.addBuf outPhys outLen inPhys inLen).1 = c.head.toUInt32.toInt32 ∧
      Awaits queueSize c none (live.addBuf outPhys outLen inPhys inLen).2 := by
  intro c
  have free : ¬ live.queue.numFree < 2 := by
    rw [idle.numFree]
    exact UInt16.not_lt.mpr room
  rw [idle.sound.addBuf_eq free]
  constructor
  · rfl
  · constructor
    · exact idle.sound.added ⟨rfl, rfl, rfl⟩ free
    · rw [idle.empty]
      rfl
    · exact idle.unread

theorem Awaits.complete (awaits : Awaits queueSize c answer live) (head : UInt16)
    (outLen : UInt32) :
    Awaits queueSize c (answer.or (completion c (.complete head outLen)))
      (live.complete head outLen) := by
  cases answer with
  | some first =>
    -- the chain is completed already
    have ignored : live.complete head outLen = live := by
      rw [LiveQueue.complete, if_neg]
      rintro ⟨inFlight, fresh⟩
      rw [awaits.alone] at inFlight
      rw [awaits.unread, List.mem_singleton.mp inFlight] at fresh
      simp at fresh
    rw [ignored]
    exact awaits
  | none =>
    -- only the chain in flight can be completed
    by_cases ours : head = c.head
    · let e : VringUsedElem := ⟨c.head.toUInt32, outLen⟩
      let vq := live.queue
      let live' := live.writeUsed (vq.usedIdx + 1)
        (Function.update vq.usedRing (vq.slot vq.usedIdx) e)
      have step : live.complete head outLen = live' := by
        rw [LiveQueue.complete, if_pos, ours]
        rw [awaits.alone, awaits.unread, ours]
        simp
      -- nothing is unread, so the new entry is the whole ring
      have same : vq.lastUsedIdx = vq.usedIdx := Ring.pending_eq_nil.mp awaits.unread
      have unread : live'.queue.unread = [e] := by
        change Ring.pending vq.slot (Function.update vq.usedRing (vq.slot vq.usedIdx) e)
          vq.lastUsedIdx (vq.usedIdx + 1) = [e]
        rw [same, Ring.pending_cons (by simp), Function.update_self, Ring.pending_eq_nil.mpr rfl]
      have answered : (none : Option UInt32).or (completion c (.complete head outLen)) =
          some outLen := by
        simp [completion, ours]
      rw [step, answered]
      constructor
      · apply awaits.sound.writeUsed
        constructor
        · intro e' member
          change e' ∈ live'.queue.unread at member
          rw [unread] at member
          refine ⟨c, ?_, congrArg VringUsedElem.id (List.mem_singleton.mp member)⟩
          change c ∈ live.inFlight
          rw [awaits.alone]
          exact List.mem_singleton_self c
        · change (live'.queue.unread.map VringUsedElem.id).Nodup
          rw [unread]
          simp
      · exact awaits.alone
      · exact unread
    · have ignored : live.complete head outLen = live := by
        rw [LiveQueue.complete, if_neg]
        rintro ⟨inFlight, _⟩
        rw [awaits.alone] at inFlight
        exact ours (List.mem_singleton.mp inFlight)
      rw [ignored]
      simpa [completion, ours] using awaits

/-- Until the device publishes the completion, `GetBuf` returns -1. -/
theorem Awaits.getBuf_none (awaits : Awaits queueSize c none live) (outLen : UInt32) :
    live.getBuf chainLimit outLen = some ((-1, outLen), live) :=
  getBuf_nil awaits.unread chainLimit outLen

/-- From then on it returns the chain. -/
theorem Awaits.getBuf_some {n : UInt32} (awaits : Awaits queueSize c (some n) live)
    (outLen : UInt32) :
    ∃ live', live.getBuf chainLimit outLen = some ((c.head.toUInt32.toInt32, n), live') ∧
      Idle queueSize live' := by
  have member : c ∈ live.inFlight := awaits.alone ▸ List.mem_singleton_self c
  refine ⟨_, awaits.sound.getBuf_eq awaits.unread member rfl 65534 outLen, ?_, ?_⟩
  · exact awaits.sound.returned awaits.unread member rfl
  · rw [awaits.alone]
    simp

end Steps

/-! ### The events of a sleep and of a receive -/

/-- The events up to the end of a sleep, and those behind it. -/
def beforeTick : List WaitEvent → List WaitEvent
  | [] => []
  | .tick :: _ => [.tick]
  | e :: es => e :: beforeTick es

def afterTick : List WaitEvent → List WaitEvent
  | [] => []
  | .tick :: es => es
  | _ :: es => afterTick es

/-- The events up to the end of the given number of sleeps, and those behind them. -/
def window : Nat → List WaitEvent → List WaitEvent
  | 0, _ => []
  | n + 1, es => beforeTick es ++ window n (afterTick es)

def later : Nat → List WaitEvent → List WaitEvent
  | 0, es => es
  | n + 1, es => later n (afterTick es)

/-- The events up to the first pulse that a receive gets, and those behind it; `none` if it
gets none. -/
def untilPulse : Nat → List WaitEvent → Option (List WaitEvent × List WaitEvent)
  | _ + 1, es => some ([], es)
  | 0, [] => none
  | 0, .pulse :: es => some ([.pulse], es)
  | 0, e :: es => (untilPulse 0 es).map fun split => (e :: split.1, split.2)

def WaitState.elapsed (s : WaitState) (es : List WaitEvent) : WaitState := es.foldl elapse s

theorem beforeTick_append (es : List WaitEvent) : beforeTick es ++ afterTick es = es := by
  induction es with
  | nil => rfl
  | cons e es ih =>
    cases e with
    | tick => rfl
    | pulse => exact congrArg _ ih
    | complete head outLen => exact congrArg _ ih

theorem window_append (n : Nat) (es : List WaitEvent) : window n es ++ later n es = es := by
  induction n generalizing es with
  | zero => rfl
  | succ n ih =>
    rw [window, later, List.append_assoc, ih, beforeTick_append]

namespace WaitState

variable {s : WaitState} {es : List WaitEvent}

theorem sleep_eq : s.sleep es = (afterTick es, s.elapsed (beforeTick es)) := by
  induction es generalizing s with
  | nil => rfl
  | cons e es ih =>
    cases e with
    | tick => rfl
    | pulse => exact ih
    | complete head outLen => exact ih

@[simp] theorem elapse_channel (e : WaitEvent) : (s.elapse e).channel = s.channel := by
  cases e <;> rfl

@[simp] theorem elapsed_channel : (s.elapsed es).channel = s.channel := by
  induction es generalizing s with
  | nil => rfl
  | cons e es ih => exact ih.trans (elapse_channel e)

@[simp] theorem drainPulse_channel : s.drainPulse.channel = s.channel := rfl

theorem elapse_pulses (e : WaitEvent) : (s.elapse e).pulses ≤ s.pulses + 1 := by
  cases e <;> simp [elapse]

/-- There are no more pulses than events. -/
theorem elapsed_pulses (s : WaitState) (es : List WaitEvent) :
    (s.elapsed es).pulses ≤ s.pulses + es.length := by
  induction es generalizing s with
  | nil => exact Nat.le_refl _
  | cons e es ih =>
    have first := elapse_pulses (s := s) e
    have rest := ih (s.elapse e)
    change ((s.elapse e).elapsed es).pulses ≤ _
    rw [List.length_cons]
    omega

theorem elapsed_append (es es' : List WaitEvent) :
    s.elapsed (es ++ es') = (s.elapsed es).elapsed es' := List.foldl_append

/-- With pulses queued a receive does not block. -/
theorem receivePulse_queued (attached : s.channel = true) (queued : s.pulses ≠ 0) :
    s.receivePulse es = (.ok (), es, s.drainPulse) := by
  unfold receivePulse
  rw [if_neg (by simp [attached]), if_pos queued]
  rfl

theorem receivePulse_cons (attached : s.channel = true) (empty : s.pulses = 0) (e : WaitEvent) :
    s.receivePulse (e :: es) = (s.elapse e).receivePulse es := by
  rw [receivePulse, if_neg (by simp [attached]), if_neg (not_not_intro empty)]

/-- A receive on a channel takes the first pulse. -/
theorem receivePulse_ok (attached : s.channel = true) {used rest : List WaitEvent}
    (split : untilPulse s.pulses es = some (used, rest)) :
    s.receivePulse es = (.ok (), rest, (s.elapsed used).drainPulse) ∧ es = used ++ rest ∧
      (s.elapsed used).pulses ≠ 0 := by
  -- the receive runs through the events until one is a pulse
  induction es generalizing s used with
  | nil =>
    cases queued : s.pulses with
    | zero =>
      rw [queued] at split
      cases split
    | succ n =>
      rw [queued] at split
      cases split
      exact ⟨receivePulse_queued attached (by simp [queued]), rfl, by simp [elapsed, queued]⟩
  | cons e es ih =>
    cases queued : s.pulses with
    | succ n =>
      rw [queued] at split
      cases split
      exact ⟨receivePulse_queued attached (by simp [queued]), rfl, by simp [elapsed, queued]⟩
    | zero =>
      rw [receivePulse_cons attached queued]
      rw [queued] at split
      have attached' : (s.elapse e).channel = true := by simpa using attached
      cases e with
      | pulse =>
        cases split
        exact ⟨receivePulse_queued attached' (by simp [elapse]), rfl, by simp [elapsed, elapse]⟩
      | complete head outLen =>
        obtain ⟨⟨used', rest'⟩, later, same⟩ := Option.map_eq_some_iff.mp split
        cases same
        have next := ih (s := s.elapse (.complete head outLen)) attached' (queued ▸ later)
        exact ⟨next.1, congrArg _ next.2.1, next.2.2⟩
      | tick =>
        obtain ⟨⟨used', rest'⟩, later, same⟩ := Option.map_eq_some_iff.mp split
        cases same
        have next := ih (s := s.elapse .tick) attached' (queued ▸ later)
        exact ⟨next.1, congrArg _ next.2.1, next.2.2⟩

/-- Without a pulse it waits until the timeout expires. -/
theorem receivePulse_timeout (attached : s.channel = true)
    (split : untilPulse s.pulses es = none) :
    s.receivePulse es = (.error etimedout, [], s.elapsed es) := by
  -- a queued pulse would end `untilPulse` at once
  induction es generalizing s with
  | nil =>
    have empty : s.pulses = 0 := by
      cases queued : s.pulses with
      | zero => rfl
      | succ n =>
        rw [queued] at split
        cases split
    rw [receivePulse, if_neg (by simp [attached]), if_neg (not_not_intro empty)]
    rfl
  | cons e es ih =>
    have empty : s.pulses = 0 := by
      cases queued : s.pulses with
      | zero => rfl
      | succ n =>
        rw [queued] at split
        cases split
    have attached' : (s.elapse e).channel = true := by simpa using attached
    rw [receivePulse_cons attached empty]
    rw [empty] at split
    cases e with
    | pulse => cases split
    | complete head outLen =>
      exact ih (s := s.elapse (.complete head outLen)) attached'
        (empty ▸ Option.map_eq_none_iff.mp split)
    | tick =>
      exact ih (s := s.elapse .tick) attached' (empty ▸ Option.map_eq_none_iff.mp split)

end WaitState

/-! ### The waits -/

section Waits

variable {queueSize : UInt16} {c : Chain} {answer : Option UInt32} {s : WaitState}
  {es : List WaitEvent}

theorem Awaits.elapse (awaits : Awaits queueSize c answer s.live) (e : WaitEvent) :
    Awaits queueSize c (answer.or (completion c e)) (s.elapse e).live := by
  cases e with
  | complete head outLen => exact awaits.complete head outLen
  | pulse => simpa [completion, WaitState.elapse] using awaits
  | tick => simpa [completion, WaitState.elapse] using awaits

theorem Awaits.elapsed (awaits : Awaits queueSize c answer s.live) (es : List WaitEvent) :
    Awaits queueSize c (answer.or (published c es)) (s.elapsed es).live := by
  induction es generalizing s answer with
  | nil => simpa [WaitState.elapsed] using awaits
  | cons e es ih =>
    rw [published_cons, ← Option.or_assoc]
    exact ih (s := s.elapse e) (awaits.elapse e)

theorem getBuf_waiting (awaits : Awaits queueSize c none s.live) (outLen : UInt32) :
    s.getBuf outLen = some ((-1, outLen), s) := by
  rw [WaitState.getBuf, awaits.getBuf_none]
  rfl

theorem getBuf_answered {n : UInt32} (awaits : Awaits queueSize c (some n) s.live)
    (outLen : UInt32) :
    ∃ s', s.getBuf outLen = some ((c.head.toUInt32.toInt32, n), s') ∧ Idle queueSize s'.live := by
  obtain ⟨live, got, idle⟩ := awaits.getBuf_some outLen
  refine ⟨{ s with live := live }, ?_, idle⟩
  rw [WaitState.getBuf, got]
  rfl

theorem head_nonneg (head : UInt16) : (0 : Int32) ≤ head.toUInt32.toInt32 :=
  Int32.not_lt.mp (head_not_neg head)

/-- The spin loop finds what is published before its last sleep ends. -/
theorem spinWait_answered {spins : Nat} {outLen n : UInt32}
    (awaits : Awaits queueSize c none s.live) (answered : published c (window spins es) = some n) :
    ∃ es' s', spinWait spins outLen es s = some ((c.head.toUInt32.toInt32, n), es', s') ∧
      Idle queueSize s'.live := by
  -- on the sleeps: the first one with the completion ends the loop
  induction spins generalizing es s outLen with
  | zero => cases answered
  | succ spins ih =>
    have slept := awaits.elapsed (beforeTick es)
    rw [window, published_append] at answered
    rw [Option.none_or] at slept
    simp only [spinWait, WaitState.sleep_eq]
    cases found : published c (beforeTick es) with
    | some m =>
      rw [found] at slept answered
      cases answered
      obtain ⟨s', got, idle⟩ := getBuf_answered slept outLen
      rw [got]
      simp only [if_pos (head_nonneg c.head)]
      exact ⟨_, s', rfl, idle⟩
    | none =>
      rw [found] at slept answered
      rw [getBuf_waiting slept]
      exact ih slept answered

theorem spinWait_silent {spins : Nat} {outLen : UInt32} (awaits : Awaits queueSize c none s.live)
    (silent : published c (window spins es) = none) :
    spinWait spins outLen es s =
      some ((-1, outLen), later spins es, s.elapsed (window spins es)) := by
  induction spins generalizing es s with
  | zero => rfl
  | succ spins ih =>
    have slept := awaits.elapsed (beforeTick es)
    rw [window, published_append, Option.or_eq_none_iff] at silent
    rw [Option.none_or, silent.1] at slept
    simp only [spinWait, WaitState.sleep_eq]
    rw [getBuf_waiting slept, window, WaitState.elapsed_append, later]
    exact ih slept silent.2

/-- The look at the used ring after a pulse. -/
theorem pollUsed_answered (outLen : UInt32) {n : UInt32} (awaits : Awaits queueSize c answer s.live)
    (answered : answer.or (published c (window 100 es)) = some n) :
    ∃ es' s', pollUsed outLen es s = some ((c.head.toUInt32.toInt32, n), es', s') ∧
      Idle queueSize s'.live := by
  cases answer with
  | some m =>
    cases answered
    obtain ⟨s', got, idle⟩ := getBuf_answered awaits outLen
    rw [pollUsed, got]
    simp only [if_pos (head_nonneg c.head)]
    exact ⟨es, s', rfl, idle⟩
  | none =>
    rw [pollUsed, getBuf_waiting awaits]
    exact spinWait_answered awaits answered

theorem pollUsed_silent (outLen : UInt32) (awaits : Awaits queueSize c answer s.live)
    (silent : answer.or (published c (window 100 es)) = none) :
    pollUsed outLen es s = some ((-1, outLen), later 100 es, s.elapsed (window 100 es)) := by
  rw [Option.or_eq_none_iff] at silent
  rw [silent.1] at awaits
  rw [pollUsed, getBuf_waiting awaits]
  exact spinWait_silent awaits silent.2

/-! ### WaitForCompletion -/

/-- The events until the MMIO transport gives up; `none` if it waits for the timeout. -/
def mmioWindow (pulses : Nat) (es : List WaitEvent) : Option (List WaitEvent) :=
  (untilPulse pulses es).map fun split => split.1 ++ window 100 split.2

/-- The events that the MMIO transport sees are the first ones. -/
theorem mmioWindow_append {seen : List WaitEvent} (attached : s.channel = true)
    (pulsed : mmioWindow s.pulses es = some seen) : ∃ rest, es = seen ++ rest := by
  obtain ⟨⟨used, behind⟩, split, rfl⟩ := Option.map_eq_some_iff.mp pulsed
  refine ⟨later 100 behind, ?_⟩
  rw [List.append_assoc, window_append]
  exact (WaitState.receivePulse_ok attached split).2.1

theorem mmioWait_timeout (attached : s.channel = true)
    (noPulse : mmioWindow s.pulses es = none) :
    mmioWaitForCompletion es s = some (⟨-etimedout, 0, -1⟩, [], s.elapsed es) := by
  rw [mmioWaitForCompletion, WaitState.receivePulse_timeout attached
    (Option.map_eq_none_iff.mp noPulse)]

theorem mmioWait_answered {seen : List WaitEvent} {n : UInt32}
    (awaits : Awaits queueSize c answer s.live) (attached : s.channel = true)
    (pulsed : mmioWindow s.pulses es = some seen)
    (answered : answer.or (published c seen) = some n) :
    ∃ es' s', mmioWaitForCompletion es s =
      some (⟨0, n, c.head.toUInt32.toInt32⟩, es', s') ∧ Idle queueSize s'.live := by
  obtain ⟨⟨used, rest⟩, split, rfl⟩ := Option.map_eq_some_iff.mp pulsed
  have received := (WaitState.receivePulse_ok attached split).1
  have taken : Awaits queueSize c (answer.or (published c used))
      (s.elapsed used).drainPulse.live := awaits.elapsed used
  rw [published_append, ← Option.or_assoc] at answered
  obtain ⟨es', s', polled, idle⟩ := pollUsed_answered 0 taken answered
  refine ⟨es', s', ?_, idle⟩
  rw [mmioWaitForCompletion, received]
  simp only [polled, Option.map_some, conclude, if_pos (head_nonneg c.head)]

theorem mmioWait_silent {seen : List WaitEvent} (awaits : Awaits queueSize c answer s.live)
    (attached : s.channel = true) (pulsed : mmioWindow s.pulses es = some seen)
    (silent : answer.or (published c seen) = none) :
    ∃ es' s', mmioWaitForCompletion es s = some (⟨-eio, 0, -1⟩, es', s') ∧
      Awaits queueSize c none s'.live := by
  obtain ⟨⟨used, rest⟩, split, rfl⟩ := Option.map_eq_some_iff.mp pulsed
  have received := (WaitState.receivePulse_ok attached split).1
  have taken : Awaits queueSize c (answer.or (published c used))
      (s.elapsed used).drainPulse.live := awaits.elapsed used
  rw [published_append, ← Option.or_assoc] at silent
  have polled := pollUsed_silent 0 taken silent
  have after := taken.elapsed (window 100 rest)
  rw [silent] at after
  refine ⟨later 100 rest, _, ?_, after⟩
  rw [mmioWaitForCompletion, received]
  simp only [polled, Option.map_some]
  rfl

/-- A look at the used ring finds the completion, or takes events in which there is none. -/
theorem pollUsed_cases (outLen : UInt32) (es : List WaitEvent)
    (awaits : Awaits queueSize c answer s.live) :
    (∃ n es' s', answer.or (published c es) = some n ∧
      pollUsed outLen es s = some ((c.head.toUInt32.toInt32, n), es', s') ∧
        Idle queueSize s'.live) ∨
    ∃ es' s', answer.or (published c es) = published c es' ∧
      pollUsed outLen es s = some ((-1, outLen), es', s') ∧ Awaits queueSize c none s'.live ∧
        s'.channel = s.channel ∧ s'.pulses + es'.length ≤ s.pulses + es.length := by
  -- the window of the spin loop and what follows it
  have whole : published c es =
      (published c (window 100 es)).or (published c (later 100 es)) := by
    rw [← published_append, window_append]
  rw [whole, ← Option.or_assoc]
  cases found : answer.or (published c (window 100 es)) with
  | some n =>
    left
    obtain ⟨es', s', polled, idle⟩ := pollUsed_answered outLen awaits found
    exact ⟨n, es', s', rfl, polled, idle⟩
  | none =>
    right
    have after := awaits.elapsed (window 100 es)
    rw [found] at after
    refine ⟨later 100 es, s.elapsed (window 100 es), Option.none_or,
      pollUsed_silent outLen awaits found,
      after, WaitState.elapsed_channel, ?_⟩
    -- the events that are taken pay for the pulses that they queue
    have pulses := WaitState.elapsed_pulses s (window 100 es)
    have total := congrArg List.length (window_append 100 es)
    rw [List.length_append] at total
    omega

/-- The slow path ends with the completion or with the timeout, and never for want of fuel. -/
theorem pciRetry_spec {fuel : Nat} (outLen : UInt32) (awaits : Awaits queueSize c none s.live)
    (attached : s.channel = true) (enough : s.pulses + es.length < fuel) :
    (∀ n, published c es = some n → ∃ es' s',
      pciRetry fuel outLen es s = some (⟨0, n, c.head.toUInt32.toInt32⟩, es', s') ∧
        Idle queueSize s'.live) ∧
    (published c es = none → ∃ es' s',
      pciRetry fuel outLen es s = some (⟨-etimedout, outLen, -1⟩, es', s') ∧
        Awaits queueSize c none s'.live) := by
  -- every round takes a pulse, and there are no more than `fuel`
  induction fuel generalizing s es with
  | zero => exact absurd enough (Nat.not_lt_zero _)
  | succ fuel ih =>
    cases split : untilPulse s.pulses es with
    | none =>
      -- timeout: the last-resort check still finds a late completion
      have received := WaitState.receivePulse_timeout attached split
      have after := awaits.elapsed es
      rw [Option.none_or] at after
      constructor
      · intro n answered
        rw [answered] at after
        obtain ⟨s', got, idle⟩ := getBuf_answered after outLen
        refine ⟨[], s', ?_, idle⟩
        simp only [pciRetry, received, got, Option.map_some, conclude, if_pos (head_nonneg c.head)]
      · intro silent
        rw [silent] at after
        refine ⟨[], s.elapsed es, ?_, after⟩
        simp only [pciRetry, received, getBuf_waiting after, Option.map_some]
        rfl
    | some split' =>
      obtain ⟨used, rest⟩ := split'
      obtain ⟨received, rfl, queued⟩ := WaitState.receivePulse_ok attached split
      have taken : Awaits queueSize c (published c used) (s.elapsed used).drainPulse.live := by
        have after := awaits.elapsed used
        rwa [Option.none_or] at after
      have attached' : (s.elapsed used).drainPulse.channel = true := by simpa using attached
      -- every receive takes a pulse
      have fewer : (s.elapsed used).drainPulse.pulses + rest.length < fuel := by
        have pulses := WaitState.elapsed_pulses s used
        rw [List.length_append] at enough
        simp only [WaitState.drainPulse]
        omega
      have whole : published c (used ++ rest) = (published c used).or (published c rest) :=
        published_append c used rest
      rcases pollUsed_cases outLen rest taken with
        ⟨m, es', s', found, polled, idle⟩ | ⟨es', s', same, polled, waiting, open', pulses⟩
      · have step : pciRetry (fuel + 1) outLen (used ++ rest) s =
            some (⟨0, m, c.head.toUInt32.toInt32⟩, es', s') := by
          simp only [pciRetry, received, polled, if_pos (head_nonneg c.head)]
        rw [step, whole, found]
        constructor
        · rintro n ⟨⟩
          exact ⟨es', s', rfl, idle⟩
        · rintro ⟨⟩
      · have step : pciRetry (fuel + 1) outLen (used ++ rest) s = pciRetry fuel outLen es' s' := by
          simp only [pciRetry, received, polled]
          rfl
        rw [step, whole, same]
        exact ih waiting (open'.trans attached') (Nat.lt_of_le_of_lt pulses fewer)

theorem pciWait_answered {n : UInt32} (awaits : Awaits queueSize c answer s.live)
    (attached : s.channel = true) (answered : answer.or (published c es) = some n) :
    ∃ es' s', pciWaitForCompletion es s =
      some (⟨0, n, c.head.toUInt32.toInt32⟩, es', s') ∧ Idle queueSize s'.live := by
  cases answer with
  | some m =>
    cases answered
    obtain ⟨s', got, idle⟩ := getBuf_answered awaits 0
    refine ⟨es, s'.drainPulse, ?_, idle⟩
    rw [pciWaitForCompletion, got]
    simp only [if_pos (head_nonneg c.head)]
  | none =>
    obtain ⟨es', s', retried, idle⟩ :=
      (pciRetry_spec 0 awaits attached (Nat.lt_succ_self _)).1 n answered
    refine ⟨es', s', ?_, idle⟩
    rw [pciWaitForCompletion, getBuf_waiting awaits]
    exact retried

theorem pciWait_silent (awaits : Awaits queueSize c answer s.live) (attached : s.channel = true)
    (silent : answer.or (published c es) = none) :
    ∃ es' s', pciWaitForCompletion es s = some (⟨-etimedout, 0, -1⟩, es', s') ∧
      Awaits queueSize c none s'.live := by
  rw [Option.or_eq_none_iff] at silent
  rw [silent.1] at awaits
  obtain ⟨es', s', retried, after⟩ :=
    (pciRetry_spec 0 awaits attached (Nat.lt_succ_self _)).2 silent.2
  refine ⟨es', s', ?_, after⟩
  rw [pciWaitForCompletion, getBuf_waiting awaits]
  exact retried

end Waits

end Virtio9p
