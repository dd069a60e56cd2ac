import Virtio9p.Protocol.Types

/-!
# ParseArgs

The command line of the driver: `-d`, mount points, and `-o` with key=value options.
-/
namespace Virtio9p

structure FsConfig where
  mountPoint : Bytes
  transportType : Bytes
  mmioBase : UInt64
  irq : UInt32
  daemonize : Bool
  deriving DecidableEq, Repr

/-- `"/mnt/host"` -/
def defaultMountPoint : Bytes := [47, 109, 110, 116, 47, 104, 111, 115, 116]

def FsConfig.new : FsConfig := ⟨defaultMountPoint, [], 0, 0, false⟩

/-! ### strtoull -/

def isSpace (c : UInt8) : Bool := c = 32 ∨ 9 ≤ c ∧ c ≤ 13

/-- The value of a digit or letter in the given base. -/
def digitValue (base : Nat) (c : UInt8) : Option Nat :=
  let value :=
    if 48 ≤ c ∧ c ≤ 57 then some (c.toNat - 48)
    else if 97 ≤ c ∧ c ≤ 122 then some (c.toNat - 87)
    else if 65 ≤ c ∧ c ≤ 90 then some (c.toNat - 55)
    else none
  value.filter (· < base)

/-- The number that the digits in front of a string make. -/
def readDigits (base : Nat) : Bytes → Nat → Nat
  | [], value => value
  | c :: cs, value =>
    match digitValue base c with
    | none => value
    | some digit => readDigits base cs (value * base + digit)

/-- The base that a prefix stands for, and what follows it. `0x` counts only with a digit. -/
def readPrefix (s : Bytes) : Nat × Bytes :=
  match s with
  | 48 :: x :: d :: rest =>
    if (x = 120 ∨ x = 88) ∧ digitValue 16 d ≠ none then (16, d :: rest) else (8, s)
  | 48 :: _ => (8, s)
  | _ => (10, s)

/-- The C function, with base 0. `strtoul` is the same where `unsigned long` has 64 bits. -/
def strtoull (s : Bytes) : UInt64 :=
  let s := s.dropWhile isSpace
  let signed : Bool × Bytes :=
    match s with
    | 45 :: rest => (true, rest)
    | 43 :: rest => (false, rest)
    | _ => (false, s)
  let digits := readPrefix signed.2
  let value := readDigits digits.1 digits.2 0
  if 2 ^ 64 ≤ value then 0xFFFFFFFFFFFFFFFF
  else if signed.1 then -UInt64.ofNat value
  else UInt64.ofNat value

/-! ### Options -/

/-- `"smem"` -/
def smemKey : Bytes := [115, 109, 101, 109]

/-- `"irq"` -/
def irqKey : Bytes := [105, 114, 113]

/-- `"transport"` -/
def transportKey : Bytes := [116, 114, 97, 110, 115, 112, 111, 114, 116]

/-- `"mmio"` -/
def mmioTransport : Bytes := [109, 109, 105, 111]

/-- `"pci"` -/
def pciTransport : Bytes := [112, 99, 105]

/-- `find` of one byte at or behind a position. -/
def findByte (c : UInt8) (s : Bytes) (pos : Nat) : Option Nat :=
  ((s.drop pos).idxOf? c).map (pos + ·)

/-- `ApplyOption`: key and value are what stands before and behind the first `=`. -/
def applyOption (option : Bytes) (config : FsConfig) : FsConfig :=
  match findByte 61 option 0 with
  | none => config
  | some eqPos =>
    let key := option.take eqPos
    let value := option.drop (eqPos + 1)
    if key = smemKey then
      { config with
        mmioBase := strtoull value
        -- a transport that was chosen before stays
        transportType := if config.transportType = [] then mmioTransport else config.transportType }
    else if key = irqKey then { config with irq := (strtoull value).toUInt32 }
    else if key = transportKey then { config with transportType := value }
    else config

/-- The loop over the comma-separated options from `pos` on, for at most `fuel` rounds. -/
def optionLoop (opts : Bytes) : Nat → Nat → FsConfig → FsConfig
  | 0, _, config => config
  | fuel + 1, pos, config =>
    if pos < opts.length then
      let comma := (findByte 44 opts pos).getD opts.length
      optionLoop opts fuel (comma + 1) (applyOption ((opts.drop pos).take (comma - pos)) config)
    else config

/-- Every round moves `pos` on, so there are no more rounds than bytes. -/
def applyOptions (opts : Bytes) (config : FsConfig) : FsConfig :=
  optionLoop opts opts.length 0 config

/-! ### Arguments -/

/-- `"-d"` -/
def daemonFlag : Bytes := [45, 100]

/-- `"-o"` -/
def optionFlag : Bytes := [45, 111]

/-- An argument that takes no other with it. Those that begin with a dash are ignored. -/
def applyArg (arg : Bytes) (config : FsConfig) : FsConfig :=
  if arg = daemonFlag then { config with daemonize := true }
  else if arg.head? ≠ some 45 then { config with mountPoint := arg }
  else config

def argsLoop : List Bytes → FsConfig → FsConfig
  | [], config => config
  -- a `-o` with nothing behind it is ignored like any other flag
  | [arg], config => applyArg arg config
  | arg :: next :: args, config =>
    if arg = optionFlag then argsLoop args (applyOptions next config)
    else argsLoop (next :: args) (applyArg arg config)

/-- `ParseArgs`, for the arguments behind the program name. -/
def parseArgs (args : List Bytes) (config : FsConfig) : Int32 × FsConfig :=
  let config := argsLoop args { config with mountPoint := [] }
  let config :=
    if config.mountPoint = [] then { config with mountPoint := defaultMountPoint } else config
  let config :=
    if config.transportType = [] then { config with transportType := pciTransport } else config
  (0, config)

end Virtio9p
