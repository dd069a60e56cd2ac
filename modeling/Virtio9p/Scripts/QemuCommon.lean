import Virtio9p.Protocol.Types

/-!
# qemu_common.sh

What the launch scripts share: the directory that the guest mounts, and the fragment with the
variables that are forwarded to it. A variable of the shell is looked up by name: a local one hides
the caller's variable of that name from everything the function does, and some variables the shell
itself gives their values, whatever the caller's were.
-/
namespace Virtio9p

/-- The fragments in the shared directory that the guest's shell sources. -/
structure ShareDir where
  /-- `cc_test_qnx_extra_args.sh` -/
  extraArgs : Option Bytes
  /-- `cc_test_qnx_env.sh` -/
  env : Option Bytes
  deriving DecidableEq, Repr

/-- `qemu_setup_fsdev`: the directory is new, or the files of an earlier run are removed. -/
def setupFsdev (d : ShareDir) : ShareDir := { d with extraArgs := none, env := none }

/-- The value of each variable that is set. -/
abbrev Variables := Bytes → Option Bytes

/-! ### Names -/

def isNameStart (c : UInt8) : Bool := 97 ≤ c ∧ c ≤ 122 ∨ 65 ≤ c ∧ c ≤ 90 ∨ c = 95

def isNameByte (c : UInt8) : Bool := isNameStart c || (48 ≤ c ∧ c ≤ 57)

/-- `^[a-zA-Z_][a-zA-Z0-9_]*$` -/
def isIdentifier : Bytes → Bool
  | [] => false
  | c :: cs => isNameStart c && cs.all isNameByte

/-- `"QNX_FORWARD_ENV"` -/
def qnxForwardEnv : Bytes := [81, 78, 88, 95, 70, 79, 82, 87, 65, 82, 68, 95, 69, 78, 86]

/-- `IFS=, read -r -a`: one line, cut at the commas. -/
def readNames (value : Bytes) : List Bytes :=
  let fields := (value.takeWhile (· ≠ 10)).splitOn 44
  -- behind a comma at the end no field begins
  if fields.getLast? = some [] then fields.dropLast else fields

/-! ### The variables of the function -/

/-- `"qnx_forward_"` -/
def forwardStem : Bytes := [113, 110, 120, 95, 102, 111, 114, 119, 97, 114, 100, 95]

/-- `"qnx_forward_saved_names"` -/
def savedNamesVar : Bytes := forwardStem ++ [115, 97, 118, 101, 100, 95, 110, 97, 109, 101, 115]

/-- `"qnx_forward_saved_values"` -/
def savedValuesVar : Bytes :=
  forwardStem ++ [115, 97, 118, 101, 100, 95, 118, 97, 108, 117, 101, 115]

/-- `"qnx_forward_saved_set"` -/
def savedSetVar : Bytes := forwardStem ++ [115, 97, 118, 101, 100, 95, 115, 101, 116]

/-- `"qnx_forward_loop_name"` -/
def loopNameVar : Bytes := forwardStem ++ [108, 111, 111, 112, 95, 110, 97, 109, 101]

/-- `"qnx_forward_loop_index"` -/
def loopIndexVar : Bytes := forwardStem ++ [108, 111, 111, 112, 95, 105, 110, 100, 101, 120]

/-- `"BASH_REMATCH"` -/
def bashRematchVar : Bytes := [66, 65, 83, 72, 95, 82, 69, 77, 65, 84, 67, 72]

/-- `"FUNCNAME"` -/
def funcnameVar : Bytes := [70, 85, 78, 67, 78, 65, 77, 69]

/-- `"qemu_write_forwarded_env"` -/
def functionName : Bytes :=
  [113, 101, 109, 117, 95, 119, 114, 105, 116, 101, 95, 102, 111, 114, 119, 97, 114, 100,
    101, 100, 95, 101, 110, 118]

/-- The other variables that the shell maintains, such as `RANDOM`: whether one is set, and its
value when so many variables have been captured. -/
abbrev OwnVariables := Bytes → Option (Option (Nat → Bytes))

/-- The variables that `qemu_write_forwarded_env` declares, and the match that its check leaves. The
index is 0 until the last loop. -/
structure Locals where
  savedNames : List Bytes
  savedValues : List Bytes
  savedSet : List Bytes
  loopName : Option Bytes
  /-- `BASH_REMATCH`, unless no name was matched. -/
  rematch : Option Bytes

/-- What a name stands for inside the function; an array stands for its first element. -/
def Locals.visible (l : Locals) (own : OwnVariables) (caller : Variables) (name : Bytes) :
    Option Bytes :=
  if name = savedNamesVar then l.savedNames.head?
  else if name = savedValuesVar then l.savedValues.head?
  else if name = savedSetVar then l.savedSet.head?
  else if name = loopNameVar then l.loopName
  else if name = loopIndexVar then some [48]
  else if name = bashRematchVar then l.rematch.or (caller name)
  else if name = funcnameVar then some functionName
  else
    match own name with
    | some value => value.map fun content => content l.savedValues.length
    | none => caller name

/-! ### qemu_write_forwarded_env -/

/-- The first loop: check the names, each against `^[a-zA-Z_][a-zA-Z0-9_]*$`. A name that matches is
the whole match; `none` is a name that does not. -/
def checkNames : List Bytes → Option Bytes → Option (Option Bytes)
  | [], rematch => some rematch
  | name :: names, rematch =>
    if name = [] then checkNames names rematch
    else if isIdentifier name then checkNames names (some name)
    else none

/-- The second loop: capture the values. -/
def captureValues (own : OwnVariables) (caller : Variables) : List Bytes → Locals → Locals
  | [], l => l
  | name :: names, l =>
    let l := { l with loopName := some name }
    if name = [] then captureValues own caller names l
    else
      match l.visible own caller name with
      | some _ =>
        -- the flag is stored before the value is read
        let l := { l with savedSet := l.savedSet ++ [[49]] }
        captureValues own caller names
          { l with savedValues := l.savedValues ++ [(l.visible own caller name).getD []] }
      | none =>
        captureValues own caller names
          { l with savedSet := l.savedSet ++ [[48]], savedValues := l.savedValues ++ [[]] }

/-- `"export "` -/
def exportWord : Bytes := [101, 120, 112, 111, 114, 116, 32]

def exportLine (printfQ : Bytes → Bytes) (name value : Bytes) : Bytes :=
  exportWord ++ name ++ 61 :: printfQ value ++ [10]

/-- The third loop: one line for each name that is set. -/
def exportLines (printfQ : Bytes → Bytes) (l : Locals) : List Bytes → Nat → Bytes
  | [], _ => []
  | name :: names, index =>
    if name = [] then exportLines printfQ l names index
    else
      (if l.savedSet[index]? = some [49] then
        exportLine printfQ name (l.savedValues[index]?.getD [])
      else []) ++ exportLines printfQ l names (index + 1)

/-- `qemu_write_forwarded_env`, with the `%q` of `printf`. -/
def writeForwardedEnv (printfQ : Bytes → Bytes) (own : OwnVariables) (caller : Variables)
    (d : ShareDir) : Nat × ShareDir :=
  let names := readNames ((caller qnxForwardEnv).getD [])
  match checkNames names none with
  | none => (1, { d with env := none })
  | some rematch =>
    let l := captureValues own caller names ⟨names, [], [], none, rematch⟩
    if names.length > 0 then (0, { d with env := some (exportLines printfQ l names 0) })
    else (0, { d with env := none })

/-! ### The guest -/

/-- A shell that sources lines as `exportLine` makes them, to which the names are variables like any
other; `readWord` reads one word of it from the front of a text. -/
def sourceExports (readWord : Bytes → Option (Bytes × Bytes)) :
    Nat → Bytes → Variables → Option Variables
  | _, [], vars => some vars
  | 0, _, _ => none
  | fuel + 1, text, vars =>
    if text.take exportWord.length ≠ exportWord then none
    else
      let rest := text.drop exportWord.length
      let name := rest.takeWhile isNameByte
      match rest.drop name.length with
      | 61 :: rest =>
        match readWord rest with
        | some (value, 10 :: rest) =>
          sourceExports readWord fuel rest (Function.update vars name (some value))
        | _ => none
      | _ => none

/-- `prepare_test.sh` sources the fragment if it is there. -/
def prepareTest (readWord : Bytes → Option (Bytes × Bytes)) (d : ShareDir) (vars : Variables) :
    Option Variables :=
  match d.env with
  | none => some vars
  -- no line is empty
  | some text => sourceExports readWord text.length text vars

end Virtio9p
