import Mathlib.Data.List.Perm.Basic
import Virtio9p.Resmgr.ParseArgs

/-!
# The order of the options

A command line is read as a list of settings and a list of other arguments. The settings may
come in any order and in any number of `-o` arguments, as long as no key is set twice.
-/
namespace Virtio9p

def optionKey (option : Bytes) : Option Bytes := (findByte 61 option 0).map option.take

/-- What stands behind the first `=`. -/
def optionValue (option : Bytes) : Bytes :=
  match findByte 61 option 0 with
  | none => []
  | some eqPos => option.drop (eqPos + 1)

/-- The option has a key that the driver knows. -/
def IsSetting (option : Bytes) : Prop :=
  optionKey option = some smemKey ∨ optionKey option = some irqKey ∨
    optionKey option = some transportKey

instance (option : Bytes) : Decidable (IsSetting option) :=
  inferInstanceAs (Decidable (_ ∨ _ ∨ _))

inductive ArgItem where
  /-- A `-o`, and options that are joined by commas. -/
  | options (pieces : List Bytes)
  | other (arg : Bytes)
  deriving DecidableEq, Repr

namespace ArgItem

def args : ArgItem → List Bytes
  | options pieces => [optionFlag, [44].intercalate pieces]
  | other arg => [arg]

def WellFormed : ArgItem → Prop
  | options pieces => ∀ piece ∈ pieces, 44 ∉ piece
  | other arg => arg ≠ optionFlag

instance (item : ArgItem) : Decidable item.WellFormed :=
  match item with
  | options pieces => inferInstanceAs (Decidable (∀ piece ∈ pieces, 44 ∉ piece))
  | other arg => inferInstanceAs (Decidable (arg ≠ optionFlag))

def pieces : ArgItem → List Bytes
  | options pieces => pieces
  | other _ => []

def others : ArgItem → List Bytes
  | options _ => []
  | other arg => [arg]

end ArgItem

/-- The arguments behind the program name. -/
def commandLine (items : List ArgItem) : List Bytes := items.flatMap ArgItem.args

/-- The options that set something, in the order of the command line. -/
def settings (items : List ArgItem) : List Bytes :=
  (items.flatMap ArgItem.pieces).filter fun piece => decide (IsSetting piece)

def otherArgs (items : List ArgItem) : List Bytes := items.flatMap ArgItem.others

/-! ### One option -/

theorem applyOption_noKey {option : Bytes} (none : ¬ IsSetting option) (config : FsConfig) :
    applyOption option config = config := by
  unfold IsSetting optionKey at none
  unfold applyOption
  cases found : findByte 61 option 0 with
  | none => rfl
  | some eqPos =>
    rw [found] at none
    simp only [Option.map_some, Option.some.injEq, not_or] at none
    obtain ⟨notSmem, notIrq, notTransport⟩ := none
    simp only [if_neg notSmem, if_neg notIrq, if_neg notTransport]

theorem applyOption_smem {option : Bytes} (key : optionKey option = some smemKey)
    (config : FsConfig) :
    applyOption option config = { config with
      mmioBase := strtoull (optionValue option)
      transportType :=
        if config.transportType = [] then mmioTransport else config.transportType } := by
  obtain ⟨eqPos, found, key⟩ := Option.map_eq_some_iff.mp key
  rw [applyOption, optionValue, found]
  simp only [if_pos key]

theorem applyOption_irq {option : Bytes} (key : optionKey option = some irqKey)
    (config : FsConfig) :
    applyOption option config =
      { config with irq := (strtoull (optionValue option)).toUInt32 } := by
  obtain ⟨eqPos, found, key⟩ := Option.map_eq_some_iff.mp key
  rw [applyOption, optionValue, found]
  simp only [if_pos key, if_neg (key ▸ by decide : option.take eqPos ≠ smemKey)]

theorem applyOption_transport {option : Bytes} (key : optionKey option = some transportKey)
    (config : FsConfig) :
    applyOption option config = { config with transportType := optionValue option } := by
  obtain ⟨eqPos, found, key⟩ := Option.map_eq_some_iff.mp key
  rw [applyOption, optionValue, found]
  simp only [if_pos key, if_neg (key ▸ by decide : option.take eqPos ≠ smemKey),
    if_neg (key ▸ by decide : option.take eqPos ≠ irqKey)]

/-- A base address and a transport do not get in each other's way. -/
theorem smem_transport {smem transport : Bytes} (key : optionKey smem = some smemKey)
    (key' : optionKey transport = some transportKey) (valued : optionValue transport ≠ [])
    (config : FsConfig) :
    applyOption transport (applyOption smem config) =
      applyOption smem (applyOption transport config) := by
  rw [applyOption_smem key, applyOption_smem key, applyOption_transport key',
    applyOption_transport key']
  simp only [if_neg valued]

/-- Settings of different keys commute. -/
theorem settings_commute {a b : Bytes} (known : IsSetting a) (known' : IsSetting b)
    (differ : optionKey a ≠ optionKey b) (valued : optionValue a ≠ [])
    (valued' : optionValue b ≠ []) (config : FsConfig) :
    applyOption b (applyOption a config) = applyOption a (applyOption b config) := by
  rcases known with smem | irq | transport <;> rcases known' with smem' | irq' | transport'
  · exact absurd (smem.trans smem'.symm) differ
  · simp only [applyOption_smem smem, applyOption_irq irq']
  · exact smem_transport smem transport' valued' config
  · simp only [applyOption_irq irq, applyOption_smem smem']
  · exact absurd (irq.trans irq'.symm) differ
  · simp only [applyOption_irq irq, applyOption_transport transport']
  · exact (smem_transport smem' transport valued config).symm
  · simp only [applyOption_transport transport, applyOption_irq irq']
  · exact absurd (transport.trans transport'.symm) differ

/-- An option and another argument set different members. -/
theorem applyArg_applyOption (arg option : Bytes) (config : FsConfig) :
    applyArg arg (applyOption option config) = applyOption option (applyArg arg config) := by
  by_cases known : IsSetting option
  · unfold applyArg
    rcases known with smem | irq | transport
    · simp only [applyOption_smem smem]
      split
      · rfl
      · split <;> rfl
    · simp only [applyOption_irq irq]
      split
      · rfl
      · split <;> rfl
    · simp only [applyOption_transport transport]
      split
      · rfl
      · split <;> rfl
  · rw [applyOption_noKey known, applyOption_noKey known]

/-! ### The loops -/

theorem findByte_at {c : UInt8} {s : Bytes} {pos : Nat} {front back : Bytes}
    (rest : s.drop pos = front ++ c :: back) (first : c ∉ front) :
    findByte c s pos = some (pos + front.length) := by
  unfold findByte
  have index : (front ++ c :: back).idxOf? c = some front.length := by
    rw [List.idxOf?_eq_some_iff]
    refine ⟨by simp, by simp, ?_⟩
    intro j early same
    rw [List.getElem_append_left early] at same
    exact first (same ▸ List.getElem_mem early)
  rw [rest, index]
  rfl

theorem findByte_none {c : UInt8} {s : Bytes} {pos : Nat} (absent : c ∉ s.drop pos) :
    findByte c s pos = none := by
  unfold findByte
  rw [List.idxOf?_eq_none_iff.mpr absent]
  rfl

theorem applyOption_nil (config : FsConfig) : applyOption [] config = config :=
  applyOption_noKey (by decide) config

/-- The loop applies what `splitOn` gives; an empty piece does nothing. -/
theorem optionLoop_eq (opts : Bytes) {fuel pos : Nat} (enough : opts.length ≤ pos + fuel)
    (config : FsConfig) :
    optionLoop opts fuel pos config =
      ((opts.drop pos).splitOn 44).foldl (fun config piece => applyOption piece config) config := by
  induction fuel generalizing pos config with
  | zero =>
    rw [List.drop_eq_nil_of_le (by omega : opts.length ≤ pos)]
    exact (applyOption_nil config).symm
  | succ fuel ih =>
    rw [optionLoop]
    by_cases more : pos < opts.length
    · rw [if_pos more]
      by_cases comma : 44 ∈ opts.drop pos
      · obtain ⟨front, back, rest, first⟩ := List.eq_append_cons_of_mem comma
        have next : opts.drop (pos + front.length + 1) = back := by
          rw [Nat.add_assoc, ← List.drop_drop, rest, ← List.singleton_append, ← List.append_assoc]
          exact List.drop_left' (by simp)
        rw [findByte_at rest first, rest, List.splitOn_append_cons_self_of_not_mem first]
        simp only [Option.getD_some, Nat.add_sub_cancel_left, List.take_left', List.foldl_cons]
        rw [ih (by omega), next]
      · -- the last piece
        rw [findByte_none comma, List.splitOn_eq_singleton comma]
        simp only [Option.getD_none, List.foldl_cons, List.foldl_nil]
        rw [List.take_of_length_le (by simp), ih (by omega),
          List.drop_eq_nil_of_le (Nat.le_succ _)]
        exact applyOption_nil _
    · rw [if_neg more, List.drop_eq_nil_of_le (Nat.not_lt.mp more)]
      exact (applyOption_nil config).symm

def applyPieces (pieces : List Bytes) (config : FsConfig) : FsConfig :=
  pieces.foldl (fun config piece => applyOption piece config) config

theorem applyOptions_pieces {pieces : List Bytes} (whole : ∀ piece ∈ pieces, 44 ∉ piece)
    (config : FsConfig) :
    applyOptions ([44].intercalate pieces) config = applyPieces pieces config := by
  unfold applyOptions
  rw [optionLoop_eq _ (by omega), List.drop_zero]
  by_cases empty : pieces = []
  · rw [empty]
    exact applyOption_nil config
  · rw [List.splitOn_intercalate 44 whole empty]
    rfl

/-! ### The command line -/

def ArgItem.apply (config : FsConfig) : ArgItem → FsConfig
  | .options pieces => applyPieces pieces config
  | .other arg => applyArg arg config

theorem argsLoop_commandLine {items : List ArgItem}
    (wellFormed : ∀ item ∈ items, item.WellFormed) (config : FsConfig) :
    argsLoop (commandLine items) config = items.foldl ArgItem.apply config := by
  induction items generalizing config with
  | nil => rfl
  | cons item items ih =>
    have first := wellFormed item List.mem_cons_self
    have rest (config : FsConfig) := ih (fun item member =>
      wellFormed item (List.mem_cons_of_mem _ member)) config
    cases item with
    | options pieces =>
      change argsLoop (optionFlag :: [44].intercalate pieces :: commandLine items) config = _
      rw [argsLoop, if_pos rfl, applyOptions_pieces first, rest]
      rfl
    | other arg =>
      have plain : arg ≠ optionFlag := first
      rw [List.foldl_cons, ← rest]
      change argsLoop (arg :: commandLine items) config = _
      cases commandLine items with
      | nil => rfl
      | cons next args =>
        rw [argsLoop, if_neg plain]
        rfl

theorem applyArg_applyPieces (arg : Bytes) (pieces : List Bytes) (config : FsConfig) :
    applyArg arg (applyPieces pieces config) = applyPieces pieces (applyArg arg config) := by
  induction pieces generalizing config with
  | nil => rfl
  | cons piece pieces ih =>
    change applyArg arg (applyPieces pieces (applyOption piece config)) = _
    rw [ih, applyArg_applyOption]
    rfl

/-- The options may as well come first. -/
theorem items_apart (items : List ArgItem) (config : FsConfig) :
    items.foldl ArgItem.apply config =
      (otherArgs items).foldl (fun config arg => applyArg arg config)
        (applyPieces (items.flatMap ArgItem.pieces) config) := by
  induction items generalizing config with
  | nil => rfl
  | cons item items ih =>
    rw [List.foldl_cons, ih]
    cases item with
    | options pieces =>
      have joined : applyPieces ((ArgItem.options pieces :: items).flatMap ArgItem.pieces) config =
          applyPieces (items.flatMap ArgItem.pieces) (applyPieces pieces config) :=
        List.foldl_append
      rw [joined]
      rfl
    | other arg =>
      change _ = (otherArgs items).foldl _
        (applyArg arg (applyPieces (items.flatMap ArgItem.pieces) config))
      rw [applyArg_applyPieces]
      rfl

/-- What sets nothing may as well be left out. -/
theorem applyPieces_filter (pieces : List Bytes) (config : FsConfig) :
    applyPieces (pieces.filter fun piece => decide (IsSetting piece)) config =
      applyPieces pieces config := by
  induction pieces generalizing config with
  | nil => rfl
  | cons piece pieces ih =>
    change _ = applyPieces pieces (applyOption piece config)
    by_cases known : IsSetting piece
    · rw [List.filter_cons_of_pos (by simpa using known), ← ih]
      rfl
    · rw [List.filter_cons_of_neg (by simpa using known), applyOption_noKey known, ih]

theorem argsLoop_settings {items : List ArgItem}
    (wellFormed : ∀ item ∈ items, item.WellFormed) (config : FsConfig) :
    argsLoop (commandLine items) config =
      (otherArgs items).foldl (fun config arg => applyArg arg config)
        (applyPieces (settings items) config) := by
  rw [argsLoop_commandLine wellFormed, items_apart, settings, applyPieces_filter]

/-! ### Any order -/

/-- Every key is set once, and to something. -/
structure SetOnce (options : List Bytes) : Prop where
  known : ∀ option ∈ options, IsSetting option
  distinct : (options.map optionKey).Nodup
  valued : ∀ option ∈ options, optionValue option ≠ []

theorem SetOnce.perm {options options' : List Bytes} (once : SetOnce options)
    (perm : options.Perm options') (config : FsConfig) :
    applyPieces options config = applyPieces options' config := by
  apply perm.foldl_eq'
  intro a member b member' config
  by_cases same : a = b
  · rw [same]
  · have differ : optionKey a ≠ optionKey b := by
      intro equal
      exact same (List.inj_on_of_nodup_map once.distinct member member' equal)
    exact settings_commute (once.known a member) (once.known b member') differ
      (once.valued a member) (once.valued b member') config

theorem applyArg_transportType (args : List Bytes) (config : FsConfig) :
    (args.foldl (fun config arg => applyArg arg config) config).transportType =
      config.transportType := by
  induction args generalizing config with
  | nil => rfl
  | cons arg args ih =>
    rw [List.foldl_cons, ih]
    unfold applyArg
    split
    · rfl
    · split <;> rfl

/-- An explicit transport may as well come last. -/
theorem SetOnce.transportType {options : List Bytes} (once : SetOnce options) {option : Bytes}
    (member : option ∈ options) (key : optionKey option = some transportKey) (config : FsConfig) :
    (applyPieces options config).transportType = optionValue option := by
  have last : options.Perm (options.erase option ++ [option]) :=
    (List.perm_cons_erase member).trans (List.perm_append_singleton option _).symm
  rw [once.perm last]
  have joined : applyPieces (options.erase option ++ [option]) config =
      applyOption option (applyPieces (options.erase option) config) := List.foldl_append
  rw [joined, applyOption_transport key]

/-- Command lines with the same settings, in any order and grouping and with anything between
them that sets nothing, and the same other arguments in the same order, make the same
configuration; an explicit transport wins over the one that `smem=` implies. -/
theorem parseArgs_any_order {items items' : List ArgItem} (config : FsConfig)
    (wellFormed : ∀ item ∈ items, item.WellFormed)
    (wellFormed' : ∀ item ∈ items', item.WellFormed)
    (perm : (settings items).Perm (settings items'))
    (others : otherArgs items = otherArgs items')
    (distinct : ((settings items).map optionKey).Nodup)
    (valued : ∀ option ∈ settings items, optionValue option ≠ []) :
    parseArgs (commandLine items) config = parseArgs (commandLine items') config ∧
      ∀ option ∈ settings items, optionKey option = some transportKey →
        (parseArgs (commandLine items) config).2.transportType = optionValue option := by
  have once : SetOnce (settings items) := by
    refine ⟨?_, distinct, valued⟩
    intro option member
    exact of_decide_eq_true (List.mem_filter.mp member).2
  constructor
  · unfold parseArgs
    rw [argsLoop_settings wellFormed, argsLoop_settings wellFormed', once.perm perm, others]
  · intro option member key
    have chosen : (argsLoop (commandLine items) { config with mountPoint := [] }).transportType =
        optionValue option := by
      rw [argsLoop_settings wellFormed, applyArg_transportType, once.transportType member key]
    have given := once.valued option member
    rw [← chosen] at given ⊢
    unfold parseArgs
    simp only
    -- so the default of the transport is not taken
    split <;> rfl

/-- `-o irq=5,smem=1 /a -o transport=pci` and `-o transport=pci,,x -o smem=1 /a -o irq=5,x=y`. -/
theorem parseArgs_any_order_two :
    let irq : Bytes := irqKey ++ [61, 53]
    let smem : Bytes := smemKey ++ [61, 49]
    let transport : Bytes := transportKey ++ 61 :: pciTransport
    let items : List ArgItem := [.options [irq, smem], .other [47, 97], .options [transport]]
    let items' : List ArgItem := [.options [transport, [], [120]], .options [smem],
      .other [47, 97], .options [irq, [120, 61, 121]]]
    parseArgs (commandLine items) FsConfig.new = parseArgs (commandLine items') FsConfig.new ∧
      ∀ option ∈ settings items, optionKey option = some transportKey →
        (parseArgs (commandLine items) FsConfig.new).2.transportType = optionValue option :=
  parseArgs_any_order FsConfig.new (by decide) (by decide) (by decide) (by decide) (by decide)
    (by decide)

end Virtio9p
