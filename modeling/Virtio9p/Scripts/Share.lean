import Virtio9p.Scripts.QemuCommon

/-!
# The shared directory

What the host and the guest leave in it for each other. A command that fails may have written a part
of its file.
-/
namespace Virtio9p

/-- The files below a directory, each with the components of its path; the newest comes first. -/
abbrev Files := List (List Bytes × Bytes)

/-- What a test run leaves in `/persistent`, and what of it is copied to `test_results`. -/
structure ResultFiles where
  /-- `returncode.log` -/
  returncode : Option Bytes
  /-- `test.xml` -/
  testXml : Option Bytes
  /-- `test_output.log` -/
  testOutput : Option Bytes
  /-- The directory `coverage`, or the archive `coverage.tar.gz` made of it. -/
  coverage : Option Bytes
  deriving DecidableEq, Repr

def ResultFiles.empty : ResultFiles := ⟨none, none, none, none⟩

structure Share where
  /-- `cc_test_qnx` -/
  testBinary : Option Bytes
  /-- `cc_test_qnx_filters.txt` -/
  filters : Option Bytes
  fragments : ShareDir
  /-- `cc_test_qnx.runfiles` -/
  runfiles : Option Files
  libs : Option Files
  testResults : Option ResultFiles
  deriving DecidableEq, Repr

def Share.empty : Share := ⟨none, none, ⟨none, none⟩, none, none, none⟩

/-- `qemu_setup_fsdev` removes each of the entries of an earlier run. -/
def Share.cleared (s : Share) : Share :=
  { testBinary := none, filters := none, fragments := setupFsdev s.fragments, runfiles := none,
    libs := none, testResults := none }

/-- How a command ended that writes a file. -/
structure Written where
  status : UInt8
  /-- What was written before it failed; `none`: the file was not opened. -/
  count : Option Nat
  deriving DecidableEq, Repr

/-- What the file holds then. -/
def Written.file (w : Written) (content : Bytes) (old : Option Bytes) : Option Bytes :=
  if w.status = 0 then some content
  else
    match w.count with
    | none => old
    | some n => some (content.take n)

/-- `cp`: without a source nothing is written. -/
def Written.copy (w : Written) (source old : Option Bytes) : Option Bytes :=
  match source with
  | none => old
  | some content => w.file content old

theorem Written.file_begins {w : Written} {content b : Bytes}
    (written : w.file content none = some b) :
    b <+: content := by
  unfold Written.file at written
  split_ifs at written
  · cases written
    exact List.prefix_rfl
  · cases count : w.count with
    | none =>
      rw [count] at written
      cases written
    | some n =>
      rw [count] at written
      cases written
      exact List.take_prefix n content

/-- A new copy is a part of its source, and all of it if the command succeeds. -/
theorem Written.copy_begins {w : Written} {source : Option Bytes} {b : Bytes}
    (copied : w.copy source none = some b) :
    ∃ content, source = some content ∧ b <+: content ∧ (w.status = 0 → b = content) := by
  cases source with
  | none => cases copied
  | some content =>
    refine ⟨content, rfl, file_begins copied, ?_⟩
    intro done
    have whole : w.file content none = some content := if_pos done
    exact Option.some.inj (copied.symm.trans whole)

theorem Written.copy_done {w : Written} (done : w.status = 0) (source : Option Bytes) :
    w.copy source none = source := by
  cases source with
  | none => rfl
  | some content => exact if_pos done

end Virtio9p
