import Virtio9p.Transport.Partition

/-!
# Waiting for a completion

The two `WaitForCompletion` functions. What happens while they run is a list of events:
interrupt pulses, completions that the device publishes, and the ends of the 100 µs sleeps.
The list ends where the receive timeout expires. A blocking receive sees no sleep end.
-/
namespace Virtio9p

def esrch : Int32 := 3
def etimedout : Int32 := 260

inductive WaitEvent where
  | pulse
  /-- The device publishes the completion of a chain. -/
  | complete (head : UInt16) (outLen : UInt32)
  | tick
  deriving DecidableEq, Repr

/-- A conforming device completes only a chain that is in flight, and only once. -/
def LiveQueue.complete (head : UInt16) (outLen : UInt32) (s : LiveQueue) : LiveQueue :=
  if head ∈ s.inFlight.map Chain.head ∧
      head.toUInt32 ∉ s.queue.unread.map VringUsedElem.id then
    s.writeUsed (s.queue.usedIdx + 1)
      (Function.update s.queue.usedRing (s.queue.slot s.queue.usedIdx) ⟨head.toUInt32, outLen⟩)
  else s

/-- The queue and the completion channel. -/
structure WaitState where
  live : LiveQueue
  /-- `chid_` is a channel. -/
  channel : Bool
  /-- Pulses queued in the channel. -/
  pulses : Nat

/-- More descriptors than any table has. -/
def chainLimit : Nat := 65536

namespace WaitState

def elapse (s : WaitState) : WaitEvent → WaitState
  | .pulse => { s with pulses := s.pulses + 1 }
  | .complete head outLen => { s with live := s.live.complete head outLen }
  | .tick => s

def getBuf (outLen : UInt32) (s : WaitState) : Option ((Int32 × UInt32) × WaitState) :=
  (s.live.getBuf chainLimit outLen).map fun got => (got.1, { s with live := got.2 })

/-- `nanosleep`: what happens until the sleep ends. -/
def sleep : List WaitEvent → WaitState → List WaitEvent × WaitState
  | [], s => ([], s)
  | .tick :: es, s => (es, s)
  | e :: es, s => sleep es (s.elapse e)

/-- `MsgReceivePulse` with the timeout armed. -/
def receivePulse : List WaitEvent → WaitState → Except Int32 Unit × List WaitEvent × WaitState
  | es, s =>
    if s.channel = false then (.error esrch, es, s)
    else if s.pulses ≠ 0 then (.ok (), es, { s with pulses := s.pulses - 1 })
    else
      match es with
      | [] => (.error etimedout, [], s)
      | e :: es => receivePulse es (s.elapse e)

/-- `MsgReceivePulse` that does not block. -/
def drainPulse (s : WaitState) : WaitState := { s with pulses := s.pulses - 1 }

end WaitState

/-- What `GetBuf` left in `rc` and `out_len`, and the rest of the events. -/
abbrev Polled := Option ((Int32 × UInt32) × List WaitEvent × WaitState)

/-- The spin loop: sleep, then look at the used ring again. -/
def spinWait : Nat → UInt32 → List WaitEvent → WaitState → Polled
  | 0, outLen, es, s => some ((-1, outLen), es, s)
  | spins + 1, outLen, es, s =>
    let slept := s.sleep es
    match slept.2.getBuf outLen with
    | none => none
    | some (got, s) =>
      if 0 ≤ got.1 then some (got, slept.1, s) else spinWait spins got.2 slept.1 s

/-- `GetBuf` after a pulse, with the spin loop behind it. -/
def pollUsed (outLen : UInt32) (es : List WaitEvent) (s : WaitState) : Polled :=
  match s.getBuf outLen with
  | none => none
  | some (got, s) => if 0 ≤ got.1 then some (got, es, s) else spinWait 100 got.2 es s

/-- What `WaitForCompletion` returns. -/
structure Completion where
  rc : Int32
  outLen : UInt32
  /-- Ghost: the last result of `GetBuf`. -/
  head : Int32
  deriving DecidableEq, Repr

/-- `none` if a `GetBuf` does not return. -/
abbrev Waited := Option (Completion × List WaitEvent × WaitState)

/-- Success if the last `GetBuf` found a completion, else the given error. -/
def conclude (got : Int32 × UInt32) (failure : Int32) : Completion :=
  if 0 ≤ got.1 then ⟨0, got.2, got.1⟩ else ⟨failure, got.2, got.1⟩

/-- `MmioTransportImpl::WaitForCompletion`: one receive, then one look at the used ring. -/
def mmioWaitForCompletion (es : List WaitEvent) (s : WaitState) : Waited :=
  match s.receivePulse es with
  | (.error errno, es, s) => some (⟨-errno, 0, -1⟩, es, s)
  | (.ok _, es, s) =>
    (pollUsed 0 es s).map fun polled => (conclude polled.1 (-eio), polled.2)

/-- The slow path of the PCI transport, for at most `fuel` receives. -/
def pciRetry : Nat → UInt32 → List WaitEvent → WaitState → Waited
  | 0, _, _, _ => none
  | fuel + 1, outLen, es, s =>
    match s.receivePulse es with
    | (.error errno, es, s) =>
      -- last-resort check
      (s.getBuf outLen).map fun got => (conclude got.1 (-errno), es, got.2)
    | (.ok _, es, s) =>
      match pollUsed outLen es s with
      | none => none
      | some (got, es, s) =>
        if 0 ≤ got.1 then some (⟨0, got.2, got.1⟩, es, s) else pciRetry fuel got.2 es s

/-- `PciTransportImpl::WaitForCompletion`. Every receive that does not fail takes a pulse, so
there are no more receives than pulses, and one. -/
def pciWaitForCompletion (es : List WaitEvent) (s : WaitState) : Waited :=
  match s.getBuf 0 with
  | none => none
  | some (got, s) =>
    if 0 ≤ got.1 then some (⟨0, got.2, got.1⟩, es, s.drainPulse)
    else pciRetry (s.pulses + es.length + 1) got.2 es s

end Virtio9p
