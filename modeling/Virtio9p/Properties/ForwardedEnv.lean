import Virtio9p.Scripts.QemuCommon
import Virtio9p.Foundation.ShellWords
import Mathlib.Data.List.TakeWhile

/-!
# Forwarded variables

When the guest's shell gets the caller's values of the listed variables. A listed name that is also
a local variable of the function is read as the local variable, one that the shell gives its value
is read as the shell has it, and a list that goes over a line end is read up to there.
-/
namespace Virtio9p

variable {printfQ : Bytes → Bytes} {readWord : Bytes → Option (Bytes × Bytes)} {own : OwnVariables}
  {caller : Variables}

/-! ### What is forwarded -/

/-- Reading what `%q` printed gives the value back. -/
def ReadsBack (readWord : Bytes → Option (Bytes × Bytes)) (printfQ : Bytes → Bytes) : Prop :=
  ∀ value rest, readWord (printfQ value ++ 10 :: rest) = some (value, 10 :: rest)

/-- The names that `QNX_FORWARD_ENV` lists. -/
def listedNames (value : Bytes) : List Bytes := (value.splitOn 44).filter (· ≠ [])

/-- The listing fails for an invalid name, or the guest has the caller's values of the listed
names that are set and keeps every other variable. -/
def ForwardsRightly (readWord : Bytes → Option (Bytes × Bytes)) (printfQ : Bytes → Bytes)
    (own : OwnVariables) (caller : Variables) (d : ShareDir) : Prop :=
  let listed := listedNames ((caller qnxForwardEnv).getD [])
  let (status, d) := writeForwardedEnv printfQ own caller d
  ((∃ name ∈ listed, isIdentifier name = false) ∧ status = 1 ∧ d.env = none) ∨
    ((∀ name ∈ listed, isIdentifier name) ∧ status = 0 ∧
      ∀ guest, prepareTest readWord d guest =
        some fun name => if name ∈ listed then (caller name).or (guest name) else guest name)

/-! ### Capturing -/

def setFlag (value : Option Bytes) : Bytes := if value.isSome then [49] else [48]

/-- What the name of a round stands for in it. -/
def Locals.seen (l : Locals) (own : OwnVariables) (caller : Variables) (name : Bytes) :
    Option Bytes :=
  ({ l with loopName := some name } : Locals).visible own caller name

/-- The flag that is stored before the value is read does not change what is read. -/
theorem visible_flagged {l : Locals} {name value : Bytes} (flag : Bytes)
    (set : l.visible own caller name = some value) :
    ({ l with savedSet := l.savedSet ++ [flag] } : Locals).visible own caller name =
    some value := by
  by_cases savedSet : name = savedSetVar
  · subst savedSet
    have head : l.savedSet.head? = some value := set
    change (l.savedSet ++ [flag]).head? = some value
    rw [List.head?_append, head]
    rfl
  · simp only [Locals.visible, if_neg savedSet] at set ⊢
    exact set

/-- One round of the capturing loop. -/
theorem captureValues_cons {name : Bytes} (proper : name ≠ []) (names : List Bytes) (l : Locals) :
    captureValues own caller (name :: names) l =
      captureValues own caller names
        { l with
          savedSet := l.savedSet ++ [setFlag (l.seen own caller name)]
          savedValues := l.savedValues ++ [(l.seen own caller name).getD []]
          loopName := some name } := by
  rw [captureValues]
  simp only [if_neg proper]
  unfold Locals.seen
  cases seen : ({ l with loopName := some name } : Locals).visible own caller name with
  | none => rfl
  | some value =>
    have again := visible_flagged [49] seen
    simp only [setFlag, Option.isSome_some, if_true, Option.getD_some]
    rw [show (Locals.visible _ own caller name) = some value from again]
    rfl

theorem captureValues_nil (names : List Bytes) (l : Locals) :
    captureValues own caller ([] :: names) l =
      captureValues own caller names { l with loopName := some [] } := rfl

section Seen

variable (own caller) (fields : List Bytes)

/-- The match of the last name that is checked. -/
def lastMatch : Option Bytes := (fields.filter (· ≠ [])).getLast?

/-- What the first listed name stands for when it is captured. -/
def firstSeen (name : Bytes) : Option Bytes :=
  Locals.seen ⟨fields, [], [], none, lastMatch fields⟩ own caller name

/-- What a name stands for once `first` has been captured for the first name, and so many values
behind it. -/
def laterSeen (first : Option Bytes) (count : Nat) (name : Bytes) : Option Bytes :=
  Locals.seen
    ⟨fields, first.getD [] :: List.replicate count [], [setFlag first], none, lastMatch fields⟩
    own caller name

/-- The names behind the first one, each with what is captured for it. -/
def capturedLater (first : Option Bytes) (names : List Bytes) (count : Nat) :
    List (Bytes × Option Bytes) :=
  (names.zipIdx count).map fun place => (place.1, laterSeen own caller fields first place.2 place.1)

end Seen

/-- The arrays' first elements and the number of values decide what a name stands for. -/
theorem seen_of_heads {l : Locals} {first : Option Bytes} {count : Nat} {name : Bytes}
    (rematch : l.rematch = lastMatch l.savedNames)
    (values : l.savedValues.head? = some (first.getD []))
    (length : l.savedValues.length = count + 1)
    (flags : l.savedSet.head? = some (setFlag first)) :
    l.seen own caller name = laterSeen own caller l.savedNames first count name := by
  simp only [laterSeen, Locals.seen, Locals.visible, rematch, values, length, flags,
    List.head?_cons,
    List.length_cons, List.length_replicate]

/-- After the first captured name, the arrays get one element for each name. -/
theorem captureValues_later (names : List Bytes) {l : Locals} {first : Option Bytes} {count : Nat}
    (rematch : l.rematch = lastMatch l.savedNames)
    (values : l.savedValues.head? = some (first.getD []))
    (length : l.savedValues.length = count + 1)
    (flags : l.savedSet.head? = some (setFlag first)) :
    let seen := (capturedLater own caller l.savedNames first (names.filter (· ≠ [])) count).map
      Prod.snd
    (captureValues own caller names l).savedSet = l.savedSet ++ seen.map setFlag ∧
      (captureValues own caller names l).savedValues = l.savedValues ++ seen.map (·.getD []) := by
  induction names generalizing l count with
  | nil => simp [captureValues, capturedLater]
  | cons name names ih =>
    by_cases empty : name = []
    · subst empty
      rw [captureValues_nil]
      exact ih (l := { l with loopName := some [] }) rematch values length flags
    · rw [captureValues_cons empty, seen_of_heads rematch values length flags]
      let value := laterSeen own caller l.savedNames first count name
      let next : Locals :=
        { l with
          savedSet := l.savedSet ++ [setFlag value]
          savedValues := l.savedValues ++ [value.getD []]
          loopName := some name }
      have kept : next.savedValues.head? = some (first.getD []) := by
        rw [List.head?_append, values]
        rfl
      have longer : next.savedValues.length = count + 1 + 1 := by
        rw [List.length_append, length]
        rfl
      have keptFlags : next.savedSet.head? = some (setFlag first) := by
        rw [List.head?_append, flags]
        rfl
      obtain ⟨set, vals⟩ := ih (l := next) rematch kept longer keptFlags
      have proper : (name :: names).filter (· ≠ []) = name :: names.filter (· ≠ []) := by
        simp [empty]
      rw [proper]
      refine ⟨set.trans ?_, vals.trans ?_⟩ <;>
        simp only [capturedLater, List.zipIdx_cons, List.map_cons, List.append_assoc,
          List.singleton_append, next, value]

/-! ### The fragment -/

/-- A line for each name that was set. -/
def assignments (printfQ : Bytes → Bytes) (pairs : List (Bytes × Option Bytes)) : Bytes :=
  pairs.flatMap fun pair => (pair.2.map (exportLine printfQ pair.1)).getD []

/-- What the lines leave a shell with. -/
def assigned (pairs : List (Bytes × Option Bytes)) (vars : Variables) : Variables :=
  pairs.foldl (fun vars pair => Function.update vars pair.1 (pair.2.or (vars pair.1))) vars

/-- The arrays hold, from `index` on, what was seen of the names. -/
theorem exportLines_seen {l : Locals} {names : List Bytes} {before seen : List (Option Bytes)}
    (count : seen.length = (names.filter (· ≠ [])).length)
    (flags : l.savedSet = (before ++ seen).map setFlag)
    (values : l.savedValues = (before ++ seen).map (·.getD [])) :
    exportLines printfQ l names before.length =
      assignments printfQ ((names.filter (· ≠ [])).zip seen) := by
  induction names generalizing before seen with
  | nil => rfl
  | cons name names ih =>
    by_cases empty : name = []
    · subst empty
      exact ih count flags values
    · have proper : (name :: names).filter (· ≠ []) = name :: names.filter (· ≠ []) := by
        simp [empty]
      rw [proper] at count ⊢
      obtain ⟨value, seen, rfl⟩ : ∃ value later, seen = value :: later :=
        List.exists_cons_of_length_pos (by rw [count]; exact Nat.succ_pos _)
      have split : before ++ value :: seen = (before ++ [value]) ++ seen := by simp
      have rest : exportLines printfQ l names (before ++ [value]).length =
          assignments printfQ ((names.filter (· ≠ [])).zip seen) :=
        ih (Nat.succ.inj count) (split ▸ flags) (split ▸ values)
      rw [List.length_append, List.length_singleton] at rest
      have flag : l.savedSet[before.length]? = some (setFlag value) := by
        rw [flags, List.getElem?_map, List.getElem?_append_right le_rfl, Nat.sub_self]
        rfl
      have read : l.savedValues[before.length]? = some (value.getD []) := by
        rw [values, List.getElem?_map, List.getElem?_append_right le_rfl, Nat.sub_self]
        rfl
      rw [exportLines, if_neg empty, flag, read, rest]
      cases value <;> rfl

/-- An identifier ends at the `=` behind it. -/
theorem takeWhile_identifier {name : Bytes} (identifier : isIdentifier name) (text : Bytes) :
    (name ++ 61 :: text).takeWhile isNameByte = name := by
  have bytes : ∀ c ∈ name, isNameByte c = true := by
    cases name with
    | nil => exact nofun
    | cons c cs =>
      rw [isIdentifier, Bool.and_eq_true, List.all_eq_true] at identifier
      intro d member
      rcases List.mem_cons.mp member with rfl | member
      · rw [isNameByte, identifier.1, Bool.true_or]
      · exact identifier.2 d member
  rw [List.takeWhile_append_of_pos bytes, List.takeWhile_cons_of_neg (by decide), List.append_nil]

theorem sourceExports_line (readsBack : ReadsBack readWord printfQ) {name : Bytes}
    (identifier : isIdentifier name) (value rest : Bytes) (fuel : Nat) (vars : Variables) :
    sourceExports readWord (fuel + 1) (exportLine printfQ name value ++ rest) vars =
      sourceExports readWord fuel rest (Function.update vars name (some value)) := by
  have line : exportLine printfQ name value ++ rest =
      exportWord ++ (name ++ 61 :: (printfQ value ++ 10 :: rest)) := by
    simp [exportLine]
  have begins : (exportWord ++ (name ++ 61 :: (printfQ value ++ 10 :: rest))).take
      exportWord.length = exportWord := List.take_left
  have behind : (exportWord ++ (name ++ 61 :: (printfQ value ++ 10 :: rest))).drop
      exportWord.length = name ++ 61 :: (printfQ value ++ 10 :: rest) := List.drop_left
  rw [line, sourceExports]
  · simp only [begins, behind, takeWhile_identifier identifier, List.drop_left,
      readsBack value rest,
      ne_eq, not_true_eq_false, if_false]
  · -- a line is not empty
    exact nofun

/-- A shell sources the lines one after another. -/
theorem sourceExports_assignments (readsBack : ReadsBack readWord printfQ)
    {pairs : List (Bytes × Option Bytes)} (identifiers : ∀ pair ∈ pairs, isIdentifier pair.1)
    {fuel : Nat} (enough : (assignments printfQ pairs).length ≤ fuel) (vars : Variables) :
    sourceExports readWord fuel (assignments printfQ pairs) vars = some (assigned pairs vars) := by
  induction pairs generalizing fuel vars with
  | nil => cases fuel <;> rfl
  | cons pair pairs ih =>
    obtain ⟨name, value⟩ := pair
    have later : ∀ pair ∈ pairs, isIdentifier pair.1 :=
      fun pair member => identifiers pair (List.mem_cons_of_mem _ member)
    cases value with
    | none =>
      -- a name that was not set has no line
      have same : Function.update vars name (none.or (vars name)) = vars := by simp
      change sourceExports readWord fuel (assignments printfQ pairs) vars =
        some (assigned pairs (Function.update vars name (none.or (vars name))))
      rw [same]
      exact ih later enough vars
    | some value =>
      have cut : assignments printfQ ((name, some value) :: pairs) =
          exportLine printfQ name value ++ assignments printfQ pairs := rfl
      have line : 0 < (exportLine printfQ name value).length := by
        rw [exportLine, List.length_append]
        exact Nat.succ_pos _
      rw [cut, List.length_append] at enough
      obtain ⟨left, rfl⟩ : ∃ left, fuel = left + 1 :=
        Nat.exists_eq_succ_of_ne_zero (by omega)
      rw [cut, sourceExports_line readsBack (identifiers _ List.mem_cons_self)]
      exact ih later (by omega) _

/-- The last place of a name in a list, counted from `place` on. -/
def lastPlace (name : Bytes) : List Bytes → Nat → Nat
  | [], place => place
  | _ :: names, place => if name ∈ names then lastPlace name names (place + 1) else place

/-- What the names of a list leave a shell with, when a name that is not set at one place is not set
at any: the last place counts. -/
theorem assigned_placed (seen : Nat → Variables)
    (steady : ∀ place other name, seen place name = none → seen other name = none)
    (names : List Bytes) (place : Nat) (vars : Variables) :
    assigned ((names.zipIdx place).map fun listed => (listed.1, seen listed.2 listed.1)) vars =
      fun name =>
        if name ∈ names then (seen (lastPlace name names place) name).or (vars name)
        else vars name := by
  induction names generalizing place vars with
  | nil => simp [assigned]
  | cons name names ih =>
    have rest := ih (place + 1) (Function.update vars name ((seen place name).or (vars name)))
    rw [List.zipIdx_cons]
    refine rest.trans (funext fun other => ?_)
    by_cases later : other ∈ names
    · rw [if_pos later, if_pos (List.mem_cons_of_mem _ later), lastPlace, if_pos later]
      by_cases same : other = name
      · subst same
        rw [Function.update_self]
        cases last : seen (lastPlace other names (place + 1)) other with
        | none =>
          rw [steady _ place other last]
          rfl
        | some value => rfl
      · rw [Function.update_of_ne same]
    · rw [if_neg later]
      by_cases same : other = name
      · subst same
        rw [Function.update_self, if_pos List.mem_cons_self, lastPlace, if_neg later]
      · rw [Function.update_of_ne same, if_neg (by simp [same, later])]

/-! ### What a name stands for -/

/-- What a listed name stands for when it is captured the last time. -/
def seenAs (own : OwnVariables) (caller : Variables) (fields : List Bytes) (name : Bytes) :
    Option Bytes :=
  match fields.filter (· ≠ []) with
  | [] => none
  | first :: later =>
    if name ∈ later then
      laterSeen own caller fields (firstSeen own caller fields first) (lastPlace name later 0) name
    else firstSeen own caller fields name

/-- A name that is not set stays so, unless an array gets its first element. -/
theorem visible_unset {l l' : Locals} {name : Bytes} (names : l'.savedNames = l.savedNames)
    (values : l.savedValues.head? = none → l'.savedValues.head? = none)
    (flags : l.savedSet.head? = none → l'.savedSet.head? = none)
    (loopName : l'.loopName = l.loopName) (rematch : l'.rematch = l.rematch)
    (unset : l.visible own caller name = none) : l'.visible own caller name = none := by
  simp only [Locals.visible, names, loopName, rematch] at unset ⊢
  split_ifs at unset ⊢
  · exact unset
  · exact values unset
  · exact flags unset
  · exact unset
  · exact unset
  · -- whether a variable of the shell's own is set does not change
    cases shell : own name with
    | none => rwa [shell] at unset
    | some value =>
      rw [shell] at unset
      rw [Option.map_eq_none_iff] at unset ⊢
      exact unset

theorem laterSeen_steady {fields : List Bytes} {first : Option Bytes} {count : Nat} {name : Bytes}
    (unset : laterSeen own caller fields first count name = none) (other : Nat) :
    laterSeen own caller fields first other name = none := by
  unfold laterSeen Locals.seen at unset ⊢
  refine visible_unset ?_ ?_ ?_ ?_ ?_ unset
  · rfl
  · rintro ⟨⟩
  · rintro ⟨⟩
  · rfl
  · rfl

/-- A name that is not set later was not set before. -/
theorem firstSeen_of_later {fields : List Bytes} {first : Option Bytes} {count : Nat} {name : Bytes}
    (unset : laterSeen own caller fields first count name = none) :
    firstSeen own caller fields name = none := by
  unfold laterSeen Locals.seen at unset
  unfold firstSeen Locals.seen
  refine visible_unset ?_ ?_ ?_ ?_ ?_ unset
  · rfl
  · exact fun _ => rfl
  · exact fun _ => rfl
  · rfl
  · rfl

/-- The names of the local variables. -/
def localNames : List Bytes :=
  [savedNamesVar, savedValuesVar, savedSetVar, loopNameVar, loopIndexVar]

/-- Inside the function the name may stand for something else than the caller's variable. -/
abbrev Hidden (own : OwnVariables) (name : Bytes) : Prop :=
  name ∈ localNames ∨ name = bashRematchVar ∨ name = funcnameVar ∨ own name ≠ none

/-- Any other name stands for the caller's variable. -/
theorem visible_of_caller {name : Bytes} (other : ¬ Hidden own name) (l : Locals) :
    l.visible own caller name = caller name := by
  simp only [Hidden, localNames, List.mem_cons, List.not_mem_nil, or_false, not_or,
    not_not] at other
  obtain ⟨⟨names, values, flags, loopName, loopIndex⟩, rematch, funcname, shell⟩ := other
  rw [Locals.visible, if_neg names, if_neg values, if_neg flags, if_neg loopName, if_neg loopIndex,
    if_neg rematch, if_neg funcname, shell]

theorem seenAs_of_caller {fields : List Bytes} {name : Bytes} (other : ¬ Hidden own name)
    (listed : name ∈ fields.filter (· ≠ [])) : seenAs own caller fields name = caller name := by
  unfold seenAs
  cases names : fields.filter (· ≠ []) with
  | nil =>
    rw [names] at listed
    exact absurd listed List.not_mem_nil
  | cons first later =>
    simp only
    split_ifs
    · exact visible_of_caller other _
    · exact visible_of_caller other _

/-! ### The listing -/

/-- A byte of a joined text other than the separator is in one of the parts. -/
theorem mem_of_mem_intercalate {c sep : UInt8} (apart : c ≠ sep) {names : List Bytes}
    (member : c ∈ [sep].intercalate names) : ∃ name ∈ names, c ∈ name := by
  induction names with
  | nil => exact absurd member List.not_mem_nil
  | cons name names ih =>
    cases names with
    | nil => exact ⟨name, List.mem_cons_self, by simpa using member⟩
    | cons next names =>
      rw [List.intercalate_cons_cons, List.append_assoc, List.mem_append, List.mem_append,
        List.mem_singleton] at member
      rcases member with here | same | later
      · exact ⟨name, List.mem_cons_self, here⟩
      · exact absurd same apart
      · obtain ⟨other, listed, inside⟩ := ih later
        exact ⟨other, List.mem_cons_of_mem _ listed, inside⟩

/-- A list that goes over a line end has an invalid name. -/
theorem invalid_of_newline {value : Bytes} (newline : 10 ∈ value) :
    ∃ name ∈ listedNames value, isIdentifier name = false := by
  have joined : [44].intercalate (value.splitOn 44) = value := List.intercalate_splitOn 44
  rw [← joined] at newline
  obtain ⟨name, listed, inside⟩ := mem_of_mem_intercalate (by decide) newline
  have proper : name ≠ [] := List.ne_nil_of_mem inside
  refine ⟨name, List.mem_filter.mpr ⟨listed, decide_eq_true proper⟩, ?_⟩
  cases name with
  | nil => rfl
  | cons c cs =>
    rw [isIdentifier, Bool.and_eq_false_iff]
    rcases List.mem_cons.mp inside with same | inside
    · left
      rw [← same]
      rfl
    · right
      rw [List.all_eq_false]
      exact ⟨10, inside, by decide⟩

/-- The names that are read are those of the first line. -/
theorem readNames_filter (value : Bytes) :
    (readNames value).filter (· ≠ []) = listedNames (value.takeWhile (· ≠ 10)) := by
  unfold readNames listedNames
  simp only
  split_ifs with comma
  · obtain ⟨front, last⟩ := List.getLast?_eq_some_iff.mp comma
    rw [last, List.dropLast_concat, List.filter_append]
    simp
  · rfl

theorem takeWhile_of_no_newline {value : Bytes} (line : 10 ∉ value) :
    value.takeWhile (· ≠ 10) = value :=
  List.takeWhile_eq_self_iff.mpr fun _ member =>
    decide_eq_true fun newline => line (newline ▸ member)

/-- The loop that checks the names fails at an invalid one, and leaves the last match otherwise. -/
theorem checkNames_eq (names : List Bytes) (rematch : Option Bytes) :
    checkNames names rematch =
      if ∃ name ∈ names.filter (· ≠ []), isIdentifier name = false then none
      else some ((names.filter (· ≠ [])).getLast?.or rematch) := by
  induction names generalizing rematch with
  | nil => simp [checkNames]
  | cons name names ih =>
    rw [checkNames]
    by_cases empty : name = []
    · rw [if_pos empty, ih]
      simp only [List.filter_cons, empty, ne_eq, not_true_eq_false, decide_false,
        Bool.false_eq_true, if_false]
    · rw [if_neg empty, List.filter_cons_of_pos (by simpa using empty)]
      by_cases identifier : isIdentifier name = true
      · rw [if_pos identifier, ih]
        simp only [List.exists_mem_cons_iff, identifier, Bool.true_eq_false, false_or]
        split_ifs
        · rfl
        · cases names.filter (· ≠ []) with
          | nil => rfl
          | cons next later =>
            rw [List.getLast?_cons_cons, List.getLast?_eq_getLast_of_ne_nil (by simp)]; rfl
      · have invalid : isIdentifier name = false := Bool.eq_false_iff.mpr identifier
        rw [if_neg identifier, if_pos ⟨name, List.mem_cons_self, invalid⟩]

/-- A listing with an invalid name is refused. -/
theorem writeForwardedEnv_refused (d : ShareDir)
    (invalid : ∃ name ∈ (readNames ((caller qnxForwardEnv).getD [])).filter (· ≠ []),
      isIdentifier name = false) :
    writeForwardedEnv printfQ own caller d = (1, { d with env := none }) := by
  unfold writeForwardedEnv
  simp only [checkNames_eq]
  rw [if_pos invalid]

/-! ### The function as a whole -/

/-- The listed names, each with what was captured for it. -/
def captured (own : OwnVariables) (caller : Variables) (fields : List Bytes) :
    List (Bytes × Option Bytes) :=
  match fields.filter (· ≠ []) with
  | [] => []
  | first :: later =>
    let value := firstSeen own caller fields first
    (first, value) :: capturedLater own caller fields value later 0

/-- What the arrays hold when all values are captured. -/
theorem captureValues_seen {names later : List Bytes} {first : Bytes} (fields : List Bytes)
    (proper : names.filter (· ≠ []) = first :: later) (loopName : Option Bytes) :
    let l := captureValues own caller names ⟨fields, [], [], loopName, lastMatch fields⟩
    let value := firstSeen own caller fields first
    let seen := value :: (capturedLater own caller fields value later 0).map Prod.snd
    l.savedSet = seen.map setFlag ∧ l.savedValues = seen.map (·.getD []) := by
  induction names generalizing loopName with
  | nil => exact absurd proper nofun
  | cons name names ih =>
    by_cases empty : name = []
    · subst empty
      exact ih proper (some [])
    · rw [show (name :: names).filter (· ≠ []) = name :: names.filter (· ≠ []) by simp [empty],
        List.cons.injEq] at proper
      obtain ⟨rfl, rfl⟩ := proper
      rw [captureValues_cons empty]
      exact captureValues_later names rfl rfl rfl rfl

theorem exportLines_nothing {l : Locals} {names : List Bytes} (none : names.filter (· ≠ []) = [])
    (index : Nat) : exportLines printfQ l names index = [] := by
  induction names with
  | nil => rfl
  | cons name names ih =>
    have empty : name = [] := by
      by_contra proper
      simp [proper] at none
    subst empty
    exact ih none

/-- The fragment has the assignments of what was captured. -/
theorem exportLines_captured (fields : List Bytes) :
    exportLines printfQ
        (captureValues own caller fields ⟨fields, [], [], none, lastMatch fields⟩) fields 0 =
      assignments printfQ (captured own caller fields) := by
  unfold captured
  cases names : fields.filter (· ≠ []) with
  | nil => exact exportLines_nothing names 0
  | cons first later =>
    let l := captureValues own caller fields ⟨fields, [], [], none, lastMatch fields⟩
    let value := firstSeen own caller fields first
    let pairs := capturedLater own caller fields value later 0
    have listed : pairs.map Prod.fst = later := by
      simp only [pairs, capturedLater, List.map_map]
      exact List.zipIdx_map_fst 0 later
    obtain ⟨flags, values⟩ : l.savedSet = ([] ++ value :: pairs.map Prod.snd).map setFlag ∧
        l.savedValues = ([] ++ value :: pairs.map Prod.snd).map (Option.getD · []) :=
      captureValues_seen fields names none
    have count : (value :: pairs.map Prod.snd).length = (fields.filter (· ≠ [])).length := by
      rw [names, List.length_cons, List.length_cons, List.length_map, ← listed, List.length_map]
    refine (exportLines_seen count flags values).trans ?_
    rw [names, List.zip_cons_cons, ← List.zip_of_prod listed rfl]

theorem mem_of_captured {fields : List Bytes} {pair : Bytes × Option Bytes}
    (member : pair ∈ captured own caller fields) : pair.1 ∈ fields.filter (· ≠ []) := by
  unfold captured at member
  split at member <;> rename_i names
  · exact absurd member List.not_mem_nil
  · rw [names]
    rcases List.mem_cons.mp member with rfl | member
    · exact List.mem_cons_self
    · obtain ⟨place, listed, rfl⟩ := List.mem_map.mp member
      exact List.mem_cons_of_mem _ (List.fst_mem_of_mem_zipIdx listed)

/-- The last assignment of a name wins, and it sets the name if any of them does. -/
theorem assigned_captured (fields : List Bytes) (guest : Variables) :
    assigned (captured own caller fields) guest = fun name =>
      if name ∈ fields.filter (· ≠ []) then (seenAs own caller fields name).or (guest name)
      else guest name := by
  unfold captured seenAs
  cases names : fields.filter (· ≠ []) with
  | nil => simp [assigned]
  | cons first later =>
    let value := firstSeen own caller fields first
    refine (assigned_placed (laterSeen own caller fields value)
      (fun place other name unset => laterSeen_steady unset other) later 0
      (Function.update guest first (value.or (guest first)))).trans (funext fun name => ?_)
    simp only
    by_cases again : name ∈ later
    · rw [if_pos again, if_pos again, if_pos (List.mem_cons_of_mem _ again)]
      by_cases same : name = first
      · subst same
        rw [Function.update_self]
        cases seen : laterSeen own caller fields value (lastPlace name later 0) name with
        | none =>
          rw [show value = none from firstSeen_of_later seen]
          rfl
        | some _ => rfl
      · rw [Function.update_of_ne same]
    · rw [if_neg again, if_neg again]
      by_cases same : name = first
      · subst same
        rw [Function.update_self, if_pos List.mem_cons_self]
      · rw [Function.update_of_ne same, if_neg (by simp [same, again])]

/-- The guest gets what the names stood for. -/
theorem prepareTest_seen (readsBack : ReadsBack readWord printfQ) (own : OwnVariables)
    (d : ShareDir)
    (valid : ∀ name ∈ (readNames ((caller qnxForwardEnv).getD [])).filter (· ≠ []),
      isIdentifier name = true) (guest : Variables) :
    let fields := readNames ((caller qnxForwardEnv).getD [])
    let (status, d) := writeForwardedEnv printfQ own caller d
    status = 0 ∧ prepareTest readWord d guest = some fun name =>
      if name ∈ fields.filter (· ≠ []) then (seenAs own caller fields name).or (guest name)
      else guest name := by
  have checked : checkNames (readNames ((caller qnxForwardEnv).getD [])) none =
      some (lastMatch (readNames ((caller qnxForwardEnv).getD []))) := by
    rw [checkNames_eq, if_neg, Option.or_none]
    · rfl
    · rintro ⟨name, listed, invalid⟩
      exact absurd (valid name listed) (Bool.not_eq_true _ ▸ invalid)
  unfold writeForwardedEnv
  simp only [checked]
  split_ifs with some
  · refine ⟨rfl, ?_⟩
    rw [exportLines_captured, prepareTest, ← assigned_captured]
    exact sourceExports_assignments readsBack (fun pair member => valid _ (mem_of_captured member))
      le_rfl guest
  · -- there is no name at all
    have none : readNames ((caller qnxForwardEnv).getD []) = [] :=
      List.eq_nil_of_length_eq_zero (Nat.eq_zero_of_not_pos some)
    refine ⟨rfl, ?_⟩
    rw [none]
    rfl

/-! ### When the variables are forwarded -/

/-- With an invalid name on the first line nothing is written. -/
theorem forwardsRightly_of_invalid (d : ShareDir)
    (invalid : ∃ name ∈ listedNames (((caller qnxForwardEnv).getD []).takeWhile (· ≠ 10)),
      isIdentifier name = false) : ForwardsRightly readWord printfQ own caller d := by
  have refused : writeForwardedEnv printfQ own caller d = (1, { d with env := none }) :=
    writeForwardedEnv_refused d (by rwa [readNames_filter])
  unfold ForwardsRightly
  simp only [refused]
  refine .inl ⟨?_, trivial, trivial⟩
  by_cases newline : 10 ∈ (caller qnxForwardEnv).getD []
  · exact invalid_of_newline newline
  · rwa [takeWhile_of_no_newline newline] at invalid

/-- With valid names on the first line that line has to be the whole list, and each name that may
stand for something else has to stand for the caller's value. -/
theorem forwardsRightly_of_valid (readsBack : ReadsBack readWord printfQ) (d : ShareDir)
    (valid : ∀ name ∈ listedNames (((caller qnxForwardEnv).getD []).takeWhile (· ≠ 10)),
      isIdentifier name = true) :
    let value := (caller qnxForwardEnv).getD []
    ForwardsRightly readWord printfQ own caller d ↔
      10 ∉ value ∧ ∀ name ∈ listedNames value, Hidden own name →
        caller name = seenAs own caller (readNames value) name := by
  intro value
  have names := readNames_filter value
  have sourced := prepareTest_seen readsBack own d (names.symm ▸ valid)
  by_cases newline : 10 ∈ value
  · -- the name with the newline is not refused
    obtain ⟨name, listed, invalid⟩ := invalid_of_newline newline
    refine ⟨?_, fun line => absurd newline line.1⟩
    rintro (⟨-, failed, -⟩ | ⟨identifiers, -⟩)
    · exact absurd ((sourced fun _ => none).1.symm.trans failed) (by decide)
    · exact absurd (identifiers name listed) (Bool.not_eq_true _ ▸ invalid)
  · rw [takeWhile_of_no_newline newline] at names valid
    have status := (sourced fun _ => none).1
    constructor
    · rintro (⟨-, failed, -⟩ | ⟨-, -, guest⟩)
      · exact absurd (status.symm.trans failed) (by decide)
      · refine ⟨newline, fun name listed _ => ?_⟩
        have same : (if name ∈ listedNames value then (caller name).or none else none) =
            if name ∈ (readNames value).filter (· ≠ []) then
              (seenAs own caller (readNames value) name).or none else none :=
          congrFun (Option.some.inj
            ((guest fun _ => none).symm.trans (sourced fun _ => none).2)) name
        rw [names, if_pos listed, if_pos listed, Option.or_none, Option.or_none] at same
        exact same
    · rintro ⟨-, hidden⟩
      refine .inr ⟨valid, status, fun guest => (sourced guest).2.trans ?_⟩
      refine congrArg some (funext fun name => ?_)
      rw [names]
      by_cases listed : name ∈ listedNames value
      · have seen : seenAs own caller (readNames value) name = caller name := by
          by_cases other : Hidden own name
          · exact (hidden name listed other).symm
          · exact seenAs_of_caller other (names.symm ▸ listed)
        rw [if_pos listed, if_pos listed, seen]
      · rw [if_neg listed, if_neg listed]

/-- The variables are forwarded rightly exactly if the first line has an invalid name, or there is
one line and each name in it that is local or the shell's stands for the caller's value when it is
captured. -/
theorem forwardsRightly_iff (readsBack : ReadsBack readWord printfQ) (own : OwnVariables)
    (caller : Variables) (d : ShareDir) :
    let value := (caller qnxForwardEnv).getD []
    ForwardsRightly readWord printfQ own caller d ↔
      (∃ name ∈ listedNames (value.takeWhile (· ≠ 10)), isIdentifier name = false) ∨
        10 ∉ value ∧ ∀ name ∈ listedNames value, Hidden own name →
          caller name = seenAs own caller (readNames value) name := by
  intro value
  by_cases invalid : ∃ name ∈ listedNames (value.takeWhile (· ≠ 10)), isIdentifier name = false
  · exact ⟨fun _ => .inl invalid, fun _ => forwardsRightly_of_invalid d invalid⟩
  · have valid : ∀ name ∈ listedNames (value.takeWhile (· ≠ 10)), isIdentifier name = true :=
      fun name listed => by
        by_contra refused
        exact invalid ⟨name, listed, Bool.eq_false_iff.mpr refused⟩
    rw [or_iff_right invalid]
    exact forwardsRightly_of_valid readsBack d valid

/-- The values `$A;'` and `f`, newline, are forwarded as they are. -/
theorem forwardsRightly_iff_two :
    let caller : Variables := Function.update (Function.update (Function.update (fun _ => none)
      qnxForwardEnv (some [65, 44, 66])) [65] (some [36, 65, 59, 39])) [66] (some [102, 10])
    ForwardsRightly ShellWords.readWord ShellWords.quote (fun _ => none) caller ⟨none, none⟩ :=
  (forwardsRightly_iff ShellWords.readWord_quote (fun _ => none) _ ⟨none, none⟩).mpr
    (.inr ⟨by decide, by decide⟩)

/-- The index of the last loop is forwarded in place of the caller's variable of that name. -/
theorem loop_index_forwarded :
    let caller : Variables := Function.update (Function.update (fun _ => none)
      qnxForwardEnv (some loopIndexVar)) loopIndexVar (some [55])
    ¬ ForwardsRightly ShellWords.readWord ShellWords.quote (fun _ => none) caller ⟨none, none⟩ := by
  intro caller rightly
  have written : writeForwardedEnv ShellWords.quote (fun _ => none) caller ⟨none, none⟩ =
      (0, ⟨none, some (exportWord ++ loopIndexVar ++ [61, 48, 10])⟩) := by
    decide
  have sourced : (prepareTest ShellWords.readWord
      ⟨none, some (exportWord ++ loopIndexVar ++ [61, 48, 10])⟩ fun _ => none).map
        (· loopIndexVar) = some (some [48]) := by
    decide
  unfold ForwardsRightly at rightly
  simp only [written] at rightly
  rcases rightly with ⟨-, failed, -⟩ | ⟨-, -, forwarded⟩
  · exact absurd failed (by decide)
  · rw [forwarded] at sourced
    exact absurd sourced (by decide)

end Virtio9p
