import Virtio9p.Resmgr.FsMain
import Virtio9p.Scripts.MountHelper

/-!
# startup.sh

The loop that mounts the shared directory: it runs `mount_virtio9p` until that exits with 0. What
the starts before the last have left behind goes on beside it.
-/
namespace Virtio9p

structure Boot (σ : Type) where
  daemon : Daemon σ
  /-- The processes of the mounts before. -/
  earlier : List (Daemon σ)
  /-- The loop is over. -/
  mounted : Bool

inductive BootEvent where
  | parent (ok : Bool)
  | child (e : ChildEvent)
  | earlier (i : Nat) (e : ChildEvent)
  /-- The shell takes the exit status of the mount. -/
  | shell

section Loop

variable {σ : Type}

/-- `mount_virtio9p` executes the driver, or exits with 1. -/
def Daemon.start (args : List Bytes) (number : Nat) : Daemon σ :=
  ⟨number, if (mountVirtio9p args).isSome then .begun else .exited 1, [], none⟩

def Boot.start (args : List Bytes) : Boot σ := ⟨Daemon.start args 0, [], false⟩

/-- The configuration of the driver. -/
def mountConfig (args : List Bytes) : FsConfig := (parseArgs ((mountVirtio9p args).getD []) .new).2

/-- `while ! mount_virtio9p`, and the processes that it starts. -/
def bootLoop (D : TransportService σ) (q : Qnx) (args : List Bytes) :
    Machine BootEvent (Option (Call × Reply)) (Boot σ) where
  step
    | .parent ok, b => (none, { b with daemon := b.daemon.parentStep ok })
    | .child e, b =>
      let result := b.daemon.childEvent D q (mountConfig args) e
      (result.1, { b with daemon := result.2 })
    | .earlier i e, b =>
      match b.earlier[i]? with
      | none => (none, b)
      | some a =>
        let result := a.childEvent D q (mountConfig args) e
        (result.1, { b with earlier := b.earlier.set i result.2 })
    | .shell, b =>
      match b.daemon.parent with
      | .exited status =>
        if status = 0 then (none, { b with mounted := true })
        else (none, ⟨Daemon.start args (b.daemon.number + 1), b.daemon :: b.earlier, false⟩)
      | _ => (none, b)

end Loop

end Virtio9p
