import Mathlib.Algebra.Group.Nat.Defs
import Mathlib.Data.Finset.Basic
import Mathlib.Data.Int.Order.Basic

/-!
# 9P2000.L types

Constants, message type codes and the plain records of the wire protocol. Byte
strings and `std::string` are lists of bytes; integers keep the width they have
in the driver.
-/
namespace Virtio9p

abbrev Bytes := List UInt8

/-- Maximum message size proposed by Tversion. -/
def maxMessageSize : UInt32 := 131072

/-- `"9P2000.L"` -/
def protocolVersion : Bytes := [57, 80, 50, 48, 48, 48, 46, 76]

def noFid : UInt32 := 0xFFFFFFFF

def noTag : UInt16 := 0xFFFF

/-- Wire header: size[4] type[1] tag[2]. -/
def headerSize : UInt32 := 7

inductive MessageType where
  | tlerror | rlerror
  | tversion | rversion
  | tattach | rattach
  | twalk | rwalk
  | tlopen | rlopen
  | tlcreate | rlcreate
  | tread | rread
  | twrite | rwrite
  | tclunk | rclunk
  | tgetattr | rgetattr
  | treaddir | rreaddir
  | tmkdir | rmkdir
  | tunlinkat | runlinkat
  | trenameat | rrenameat
  deriving DecidableEq, Repr

/-- The type byte on the wire. -/
def MessageType.code : MessageType → UInt8
  | .tlerror => 6 | .rlerror => 7
  | .tversion => 100 | .rversion => 101
  | .tattach => 104 | .rattach => 105
  | .twalk => 110 | .rwalk => 111
  | .tlopen => 12 | .rlopen => 13
  | .tlcreate => 14 | .rlcreate => 15
  | .tread => 116 | .rread => 117
  | .twrite => 118 | .rwrite => 119
  | .tclunk => 120 | .rclunk => 121
  | .tgetattr => 24 | .rgetattr => 25
  | .treaddir => 40 | .rreaddir => 41
  | .tmkdir => 72 | .rmkdir => 73
  | .tunlinkat => 76 | .runlinkat => 77
  | .trenameat => 74 | .rrenameat => 75

/-- No two message types share a code. -/
theorem MessageType.code_injective : Function.Injective MessageType.code := by
  intro a b same
  cases a <;> cases b <;> first | rfl | (exact absurd same (by decide))

@[simp] theorem MessageType.code_inj {a b : MessageType} : a.code = b.code ↔ a = b :=
  MessageType.code_injective.eq_iff

/-- Server-side file identifier. -/
structure Qid where
  type : UInt8
  version : UInt32
  path : UInt64
  deriving DecidableEq, Repr

/-- File attributes returned by Rgetattr. -/
structure NinePStat where
  valid : UInt64
  qid : Qid
  mode : UInt32
  uid : UInt32
  gid : UInt32
  nlink : UInt64
  rdev : UInt64
  size : UInt64
  blksize : UInt64
  blocks : UInt64
  atimeSec : UInt64
  atimeNsec : UInt64
  mtimeSec : UInt64
  mtimeNsec : UInt64
  ctimeSec : UInt64
  ctimeNsec : UInt64
  btimeSec : UInt64
  btimeNsec : UInt64
  gen : UInt64
  dataVersion : UInt64
  deriving DecidableEq, Repr

/-- The value-initialised `NinePStat{}`. -/
def NinePStat.zero : NinePStat :=
  ⟨0, ⟨0, 0, 0⟩, 0, 0, 0, 0, 0, 0, 0, 0, 0, 0, 0, 0, 0, 0, 0, 0, 0, 0⟩

/-- Request mask for all attributes. -/
def getattrBasic : UInt64 := 0x000007ff

/-! Linux open flags and `AT_REMOVEDIR` as they go on the wire. -/

def linuxOWronly : UInt32 := 0x0001
def linuxORdwr : UInt32 := 0x0002
def linuxOCreat : UInt32 := 0x0040
def linuxOTrunc : UInt32 := 0x0200
def linuxOAppend : UInt32 := 0x0400
def linuxAtRemovedir : UInt32 := 0x0200

/-- Directory entry of Rreaddir. -/
structure DirEntry where
  qid : Qid
  offset : UInt64
  type : UInt8
  name : Bytes
  deriving DecidableEq, Repr

/-! Error numbers, as QNX defines them. -/

def enoent : Int32 := 2
def eio : Int32 := 5
def einval : Int32 := 22
def enotsup : Int32 := 48
def enosys : Int32 := 89

end Virtio9p
