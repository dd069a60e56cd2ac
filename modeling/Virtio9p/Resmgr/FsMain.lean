import Virtio9p.Resmgr.Handlers
import Virtio9p.Resmgr.ParseArgs

/-!
# FsVirtio9pMain

The driver's start as a daemon. The process forks: the child sets everything up, serves, and writes
to a pipe whether it got that far; the parent reads the pipe and exits with what it read. The two
take their steps in any order.
-/
namespace Virtio9p

/-- What `CreateTransport` makes. -/
inductive TransportChoice where
  | mmio (base : UInt64) (irq : UInt32)
  | pci
  deriving DecidableEq, Repr

def createTransport (config : FsConfig) : TransportChoice :=
  if config.transportType = mmioTransport then .mmio config.mmioBase config.irq else .pci

/-- What `FsVirtio9pMain` calls of the transports. -/
structure TransportService (σ : Type) where
  /-- `CreateTransport` and `Initialize`, by the number of the start. -/
  initializeTransport : Nat → TransportChoice → Except Int32 σ
  getMountTag : σ → Except Int32 Bytes
  transport : Transport σ
  /-- `GetMountTag` reads no tag that is longer. -/
  tag_short : ∀ s tag, getMountTag s = .ok tag → tag.length ≤ 256

namespace TransportService

variable {σ : Type} (D : TransportService σ)

/-- Without a tag the name to attach is empty. -/
def mountTag (s : σ) : Bytes := (D.getMountTag s).toOption.getD []

theorem mountTag_short (s : σ) : (D.mountTag s).length ≤ 256 := by
  unfold mountTag
  cases read : D.getMountTag s with
  | error _ => exact Nat.zero_le _
  | ok tag => exact D.tag_short s tag read

end TransportService

/-! ### The child -/

/-- The child, by what it does next. -/
inductive Child (σ : Type) where
  /-- `ThreadCtl` -/
  | begun
  /-- `CreateTransport` and `Initialize` -/
  | privileged
  /-- `GetMountTag` -/
  | initialized (s : σ)
  /-- `NinePSession::Initialize` -/
  | tagged (s : σ) (mountTag : Bytes)
  /-- `dispatch_create` -/
  | session (w : Link σ)
  /-- `resmgr_attach` -/
  | dispatching (w : Link σ)
  /-- `dispatch_context_alloc` -/
  | attached (w : Link σ)
  /-- `write`; none if something failed. -/
  | reporting (ready : Option (Link σ))
  /-- `close` of the write end -/
  | reported (ready : Option (Link σ))
  /-- The dispatch loop. -/
  | serving (d : Driver σ)
  /-- Ghost: whether it had reported that it serves. -/
  | ended (ready : Bool)

/-- What happens to a child: it goes on, with `ok` if the operating system grants what it asks for,
it is killed, or it gets a message. -/
inductive ChildEvent where
  | step (ok : Bool)
  | crash
  | message (call : Call)

namespace Child

variable {σ : Type}

/-- It has reported that it serves. -/
def ready : Child σ → Bool
  | .reported link => link.isSome
  | .serving _ => true
  | .ended ready => ready
  | _ => false

/-- The write end is open. -/
def holds : Child σ → Bool
  | .serving _ => false
  | .ended _ => false
  | _ => true

/-- The next step; `reads` says whether the read end is open. -/
def step (D : TransportService σ) (number : Nat) (config : FsConfig) (reads ok : Bool) :
    Child σ → Child σ
  | .begun => if ok then .privileged else .reporting none
  | .privileged =>
    match D.initializeTransport number (createTransport config) with
    | .error _ => .reporting none
    | .ok s => .initialized s
  | .initialized s => .tagged s (D.mountTag s)
  | .tagged s mountTag =>
    let result := initializeSession D.transport mountTag ⟨NinePSession.new, s, []⟩
    if result.1 ≠ 0 then .reporting none else .session result.2
  | .session w => if ok then .dispatching w else .reporting none
  | .dispatching w => if ok then .attached w else .reporting none
  | .attached w => .reporting (if ok then some w else none)
  -- a write to a pipe that nobody reads kills the process
  | .reporting link => if reads then .reported link else .ended false
  | .reported none => .ended false
  | .reported (some w) => .serving ⟨w, []⟩
  -- `dispatch_block` fails
  | .serving d => if ok then .serving d else .ended true
  | .ended ready => .ended ready

/-- What is written to the pipe. -/
def writes (reads : Bool) : ChildEvent → Child σ → List UInt8
  | .step _, .reporting link => if reads then [if link.isSome then 0 else 1] else []
  | _, _ => []

/-- What becomes of the child, and its answer to a message. -/
def take (D : TransportService σ) (q : Qnx) (number : Nat) (config : FsConfig) (reads : Bool) :
    ChildEvent → Child σ → Option (Call × Reply) × Child σ
  | .step ok, c => (none, c.step D number config reads ok)
  | .crash, c => (none, .ended c.ready)
  | .message call, .serving d =>
    let result := (driver D.transport q).step call d
    (some (call, result.1), .serving result.2)
  | .message _, c => (none, c)

end Child

/-! ### The parent -/

inductive Parent where
  /-- `pipe` -/
  | begun
  /-- `fork` -/
  | piped
  /-- `close` of the write end -/
  | forked
  /-- `read` -/
  | reading
  | exited (status : UInt8)
  deriving DecidableEq, Repr

/-- The two processes and the bytes in the pipe. -/
structure Daemon (σ : Type) where
  /-- The number of the start. -/
  number : Nat
  parent : Parent
  bytes : List UInt8
  child : Option (Child σ)

namespace Daemon

variable {σ : Type}

/-- The read end is open: the parent closes it when it exits. -/
def reads (a : Daemon σ) : Bool :=
  match a.parent with
  | .exited _ => false
  | _ => true

/-- The next step of the parent. -/
def parentStep (ok : Bool) (a : Daemon σ) : Daemon σ :=
  match a.parent with
  | .begun => { a with parent := if ok then .piped else .exited 1 }
  | .piped =>
    if ok then { a with parent := .forked, child := some .begun }
    else { a with parent := .exited 1 }
  | .forked => { a with parent := .reading }
  | .reading =>
    match a.bytes with
    | status :: rest => { a with parent := .exited status, bytes := rest }
    | [] =>
      -- the end of the file leaves the status at 1
      if a.child.any Child.holds then a else { a with parent := .exited 1 }
  | .exited _ => a

/-- What happens to the child, if there is one. -/
def childEvent (D : TransportService σ) (q : Qnx) (config : FsConfig) (e : ChildEvent)
    (a : Daemon σ) : Option (Call × Reply) × Daemon σ :=
  match a.child with
  | none => (none, a)
  | some c =>
    let result := c.take D q a.number config a.reads e
    (result.1, { a with bytes := a.bytes ++ Child.writes a.reads e c, child := some result.2 })

end Daemon

end Virtio9p
