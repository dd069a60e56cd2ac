import Virtio9p.Resmgr.ParseArgs

/-!
# mount_virtio9p

The mount helper turns the arguments of a mount into the command line of the driver.
-/
namespace Virtio9p

/-- The variables of the script. -/
structure MountRequest where
  opts : Bytes
  device : Bytes
  mountpoint : Bytes
  deriving DecidableEq, Repr

namespace MountRequest

def new : MountRequest := ⟨[], [], []⟩

/-- An argument that takes no other with it. Unknown flags are ignored. -/
def applyArg (arg : Bytes) (m : MountRequest) : MountRequest :=
  if arg.head? = some 45 then m
  else if m.device = [] then { m with device := arg }
  else { m with mountpoint := arg }

end MountRequest

def mountLoop : List Bytes → MountRequest → Option MountRequest
  | [], m => some m
  -- behind a last `-o` nothing is left to `shift`, which ends the script
  | [arg], m => if arg = optionFlag then none else some (m.applyArg arg)
  | arg :: next :: args, m =>
    if arg = optionFlag then mountLoop args { m with opts := next }
    else mountLoop (next :: args) (m.applyArg arg)

/-- The arguments that `fs-virtio9p` is executed with; none if the script exits with 1. -/
def mountVirtio9p (args : List Bytes) : Option (List Bytes) :=
  (mountLoop args .new).bind fun m =>
    if m.mountpoint = [] then none
    else if m.opts ≠ [] then some [daemonFlag, optionFlag, m.opts, m.mountpoint]
    else some [daemonFlag, m.mountpoint]

/-- What the options of a mount ask for. -/
def MountRequest.options (m : MountRequest) : FsConfig :=
  applyOptions m.opts { FsConfig.new with mountPoint := [], daemonize := true }

/-- The configuration that a mount asks for. -/
def MountRequest.config (m : MountRequest) : FsConfig where
  mountPoint := m.mountpoint
  transportType := if m.options.transportType = [] then pciTransport else m.options.transportType
  mmioBase := m.options.mmioBase
  irq := m.options.irq
  daemonize := true

/-! ### The driver is told what was asked for -/

theorem applyOption_others (option : Bytes) (config : FsConfig) :
    (applyOption option config).mountPoint = config.mountPoint ∧
      (applyOption option config).daemonize = config.daemonize := by
  unfold applyOption
  split
  · exact ⟨rfl, rfl⟩
  · simp only
    split_ifs <;> exact ⟨rfl, rfl⟩

/-- Options say nothing of the mount point or the daemon. -/
theorem applyOptions_others (opts : Bytes) (config : FsConfig) :
    (applyOptions opts config).mountPoint = config.mountPoint ∧
      (applyOptions opts config).daemonize = config.daemonize := by
  have loop (fuel pos : Nat) (config : FsConfig) :
      (optionLoop opts fuel pos config).mountPoint = config.mountPoint ∧
        (optionLoop opts fuel pos config).daemonize = config.daemonize := by
    induction fuel generalizing pos config with
    | zero => exact ⟨rfl, rfl⟩
    | succ fuel ih =>
      rw [optionLoop]
      split_ifs
      · obtain ⟨mountPoint, daemonize⟩ := ih _ (applyOption _ config)
        obtain ⟨mountPoint', daemonize'⟩ := applyOption_others _ config
        exact ⟨mountPoint.trans mountPoint', daemonize.trans daemonize'⟩
      · exact ⟨rfl, rfl⟩
  exact loop opts.length 0 config

/-- The helper takes no flag for a mount point. -/
theorem mountLoop_mountpoint {args : List Bytes} {m m' : MountRequest}
    (positional : m.mountpoint.head? ≠ some 45) (done : mountLoop args m = some m') :
    m'.mountpoint.head? ≠ some 45 := by
  have step (arg : Bytes) {m : MountRequest} (positional : m.mountpoint.head? ≠ some 45) :
      (m.applyArg arg).mountpoint.head? ≠ some 45 := by
    unfold MountRequest.applyArg
    split_ifs with flag
    · exact positional
    · exact positional
    · exact flag
  induction args, m using mountLoop.induct with
  | case1 m =>
    cases done
    exact positional
  | case2 m =>
    rw [mountLoop, if_pos rfl] at done
    cases done
  | case3 arg m flag =>
    rw [mountLoop, if_neg flag] at done
    cases done
    exact step arg positional
  | case4 m next args ih =>
    rw [mountLoop, if_pos rfl] at done
    exact ih positional done
  | case5 arg next args m flag ih =>
    rw [mountLoop, if_neg flag] at done
    exact ih (step arg positional) done

theorem parseArgs_mount {options : FsConfig} {mountpoint : Bytes} (proper : mountpoint ≠ [])
    (positional : mountpoint.head? ≠ some 45) {args : List Bytes}
    (read : argsLoop args { FsConfig.new with mountPoint := [] } = applyArg mountpoint options) :
    parseArgs args .new = (0, { options with
      mountPoint := mountpoint
      transportType := if options.transportType = [] then pciTransport else
        options.transportType }) := by
  have flag : mountpoint ≠ daemonFlag := by
    rintro rfl
    exact positional rfl
  have placed : applyArg mountpoint options = { options with mountPoint := mountpoint } := by
    rw [applyArg, if_neg flag, if_pos positional]
  unfold parseArgs
  rw [read, placed]
  simp only [if_neg proper]
  split_ifs <;> rfl

/-- `ParseArgs` makes of the helper's command line the configuration of the mount. -/
theorem mountVirtio9p_config {args command : List Bytes}
    (executed : mountVirtio9p args = some command) :
    ∃ m, mountLoop args .new = some m ∧ m.mountpoint ≠ [] ∧
      parseArgs command .new = (0, m.config) := by
  obtain ⟨m, done, given⟩ := Option.bind_eq_some_iff.mp executed
  have positional := mountLoop_mountpoint (m := .new) (by decide) done
  have daemonize : m.options.daemonize = true := (applyOptions_others m.opts _).2
  split_ifs at given with missing options
  · cases given
    have read : argsLoop [daemonFlag, optionFlag, m.opts, m.mountpoint]
        { FsConfig.new with mountPoint := [] } = applyArg m.mountpoint m.options := rfl
    refine ⟨m, done, missing, ?_⟩
    rw [parseArgs_mount missing positional read, MountRequest.config, daemonize]
  · cases given
    have none : m.opts = [] := not_not.mp options
    have read : argsLoop [daemonFlag, m.mountpoint] { FsConfig.new with mountPoint := [] } =
        applyArg m.mountpoint m.options := by
      rw [MountRequest.options, none]
      rfl
    refine ⟨m, done, missing, ?_⟩
    rw [parseArgs_mount missing positional read, MountRequest.config, daemonize]

/-! ### The mounts of `startup.sh` -/

/-- `"/opt/tests"` -/
def testsDirectory : Bytes := [47, 111, 112, 116, 47, 116, 101, 115, 116, 115]

/-- `"none"` -/
def noDevice : Bytes := [110, 111, 110, 101]

/-- `-o transport=pci none /opt/tests` -/
def x86MountArgs : List Bytes :=
  [optionFlag, transportKey ++ [61] ++ pciTransport, noDevice, testsDirectory]

/-- `-o smem=0xa003a00,irq=77 none /opt/tests` -/
def arm64MountArgs : List Bytes :=
  [optionFlag,
    smemKey ++ [61, 48, 120, 97, 48, 48, 51, 97, 48, 48, 44] ++ irqKey ++ [61, 55, 55],
    noDevice, testsDirectory]

example : (mountVirtio9p x86MountArgs).map (fun command => (parseArgs command .new).2) =
    some ⟨testsDirectory, pciTransport, 0, 0, true⟩ := by
  decide

example : (mountVirtio9p arm64MountArgs).map (fun command => (parseArgs command .new).2) =
    some ⟨testsDirectory, mmioTransport, 0xa003a00, 77, true⟩ := by
  decide

end Virtio9p
