import Virtio9p.Foundation.SortedDifference
import Virtio9p.Scripts.Share

/-!
# Runfiles

Which files of the runfiles tree `run_under_qnx.sh` copies to the shared directory, and which of
them `prepare_test.sh` copies on to the directory of the test. The order in which the locale
collates lines is a parameter.
-/
namespace Virtio9p

/-- A path as the shell has it. -/
def pathLine (path : List Bytes) : Bytes := [47].intercalate path

def baseName (path : List Bytes) : Bytes := path.getLast?.getD []

/-- `".so"` -/
def soSuffix : Bytes := [46, 115, 111]

/-- `-name "*.so"` -/
def isSharedObject (name : Bytes) : Bool := soSuffix.isSuffixOf name

/-- `-name "*.so.*"` -/
def isVersionedObject (name : Bytes) : Bool := name.tails.any (soSuffix ++ [46]).isPrefixOf

/-- `"run_under_qnx"` -/
def runUnderQnx : Bytes := [114, 117, 110, 95, 117, 110, 100, 101, 114, 95, 113, 110, 120]

/-- `"run_under_qnx.sh"` -/
def runUnderQnxSh : Bytes := runUnderQnx ++ [46, 115, 104]

/-- `"run_under_qnx_manifest.txt"` -/
def runUnderManifest : Bytes :=
  runUnderQnx ++ [95, 109, 97, 110, 105, 102, 101, 115, 116, 46, 116, 120, 116]

/-- `"**/"` -/
def anyDirectory : Bytes := [42, 42, 47]

/-- `"../"` -/
def parentStep : Bytes := [46, 46, 47]

/-- `"external/"` -/
def externalDirectory : Bytes := [101, 120, 116, 101, 114, 110, 97, 108, 47]

/-- `_short_path_to_runfiles_path`, which makes the lines of the manifest. -/
def shortPathToRunfilesPath (shortPath : Bytes) : Bytes :=
  if parentStep.isPrefixOf shortPath then externalDirectory ++ shortPath.drop 3 else shortPath

/-- What `run_under_qnx.sh` finds below `PWD`. -/
structure RunfilesTree where
  files : Files
  /-- The files of the launcher, by their short paths; `none`: there is no manifest. -/
  launcher : Option (List Bytes)
  /-- `${TEST_BINARY#${PWD}/}` -/
  testBinaryPath : Bytes
  distinct : (files.map Prod.fst).Nodup
  /-- No name has a slash, and a path is one line. -/
  named : ∀ file ∈ files, file.1 ≠ [] ∧ ∀ name ∈ file.1, 47 ∉ name ∧ 10 ∉ name

/-- The lines of `EXCLUDE_FILE`, not yet sorted. -/
def excludedLines (launcher : List Bytes) (testBinaryPath : Bytes) : List Bytes :=
  launcher.map shortPathToRunfilesPath ++
    [runUnderManifest, testBinaryPath, anyDirectory ++ runUnderQnxSh, anyDirectory ++ runUnderQnx]

/-- The names that `find` does not list. -/
def hiddenName (name : Bytes) : Bool :=
  isSharedObject name || name == runUnderQnxSh || name == runUnderQnx

section Collation

variable (collates : Bytes → Bytes → Prop) [DecidableRel collates]

/-- `find … | sort` -/
def allLines (files : Files) : List Bytes :=
  (((files.map Prod.fst).filter fun path => !hiddenName (baseName path)).map pathLine).insertionSort
    collates

/-- `sort -u` -/
def excludeFile (launcher : List Bytes) (testBinaryPath : Bytes) : List Bytes :=
  ((excludedLines launcher testBinaryPath).insertionSort collates).dedup

/-- `comm -23` -/
def copyList (files : Files) (launcher : List Bytes) (testBinaryPath : Bytes) : List Bytes :=
  SortedDifference.difference collates (allLines collates files)
    (excludeFile collates launcher testBinaryPath)

/-- The loop that copies the listed files to `cc_test_qnx.runfiles`. -/
def copyListed (files : Files) (lines : List Bytes) : Files :=
  lines.filterMap fun line => files.find? fun file => pathLine file.1 = line

/-- The loop that collects the shared objects by name; a later one replaces an earlier one. -/
def collectObjects (files : Files) : Files :=
  ((files.filter fun file =>
    isSharedObject (baseName file.1) || isVersionedObject (baseName file.1)).map
      fun file => ([baseName file.1], file.2)).reverse

/-- Without a manifest nothing is copied. -/
def copyRunfiles (tree : RunfilesTree) (s : Share) : Share :=
  match tree.launcher with
  | none => s
  | some launcher =>
    let copied := copyListed tree.files (copyList collates tree.files launcher tree.testBinaryPath)
    { s with
      runfiles := if copied = [] then none else some copied
      libs := some (collectObjects tree.files) }

end Collation

/-! ### The guest -/

/-- `"_main"` -/
def mainRepository : Bytes := [95, 109, 97, 105, 110]

/-- `"libs"` -/
def libsName : Bytes := [108, 105, 98, 115]

/-- A directory is there if a file is below it. -/
def hasDirectory (files : Files) (name : Bytes) : Bool :=
  files.any fun file => file.1.head? = some name && 1 < file.1.length

/-- What is below `ROOT_DIR`. -/
def rootFiles (runfiles : Files) : Files :=
  if hasDirectory runfiles mainRepository then
    runfiles.filterMap fun file =>
      if file.1.head? = some mainRepository then some (file.1.tail, file.2) else none
  else runfiles

/-- `find -maxdepth 1 -mindepth 1 -type d -exec cp -R`, and `cp -R` of the libraries behind it. -/
def prepareFiles (s : Share) : Files :=
  (s.libs.getD []).map (fun file => (libsName :: file.1, file.2)) ++
    (rootFiles (s.runfiles.getD [])).filter fun file => 1 < file.1.length

end Virtio9p
