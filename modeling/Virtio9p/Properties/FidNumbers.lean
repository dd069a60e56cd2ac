import Mathlib.Data.Finset.Card
import Virtio9p.Foundation.Machine
import Virtio9p.Protocol.FidPool

/-!
# The numbers of the pool

The number that `Allocate` hands out depends on nothing but how often it was called since the
last `Reset`. So the fids in the pool, and the next number, can be read off the calls.
-/
namespace Virtio9p

inductive PoolInput where
  | allocate
  | release (fid : UInt32)
  | reset
  deriving DecidableEq, Repr

/-- A pool whose members are called in any order; the output is the fid of an `Allocate`. -/
def poolMachine : Machine PoolInput (Option UInt32) FidPool where
  step
    | .allocate, p => (some p.allocate.1, p.allocate.2)
    | .release fid, p => (none, p.release fid)
    | .reset, p => (none, p.reset)

/-- `Allocate` gives a fid that is new and not the sentinel, and adds nothing else; `Release`
takes out the given fid and nothing else. -/
def PoolCallSound : PoolInput → FidPool → Prop
  | .allocate, p => ∃ fid, (poolMachine.step .allocate p).1 = some fid ∧
      fid ∉ p.allocated ∧ fid ≠ noFid ∧
        (poolMachine.step .allocate p).2.allocated = insert fid p.allocated
  | .release fid, p =>
      (poolMachine.step (.release fid) p).2.allocated = p.allocated.erase fid
  | .reset, _ => True

/-! ### What the calls say about the pool -/

def countCall (n : Nat) : PoolInput → Nat
  | .allocate => n + 1
  | .release _ => n
  | .reset => 0

/-- The calls of `Allocate` behind the last `Reset`. -/
def allocationsSinceReset (calls : List PoolInput) : Nat := calls.foldl countCall 0

/-- The number that an `Allocate` behind these calls gets. -/
def nextNumber (calls : List PoolInput) : UInt32 := UInt32.ofNat (allocationsSinceReset calls)

/-- A call of `Allocate` got this number, and neither its `Release` nor a `Reset` followed. -/
def Outstanding (calls : List PoolInput) (fid : UInt32) : Prop :=
  ∃ before after, calls = before ++ .allocate :: after ∧ nextNumber before = fid ∧
    .release fid ∉ after ∧ .reset ∉ after

theorem allocationsSinceReset_concat (calls : List PoolInput) (call : PoolInput) :
    allocationsSinceReset (calls ++ [call]) = countCall (allocationsSinceReset calls) call := by
  simp [allocationsSinceReset]

/-- The calls end with an `Allocate` that is outstanding, or the last one leaves what was. -/
theorem outstanding_concat {calls : List PoolInput} {call : PoolInput} {fid : UInt32} :
    Outstanding (calls ++ [call]) fid ↔
      (call = .allocate ∧ nextNumber calls = fid) ∨
        (Outstanding calls fid ∧ call ≠ .release fid ∧ call ≠ .reset) := by
  constructor
  · rintro ⟨before, after, split, number, kept, going⟩
    rcases List.eq_nil_or_concat after with rfl | ⟨after, last, rfl⟩
    · obtain ⟨rfl, same⟩ := List.append_inj' split rfl
      exact .inl ⟨List.singleton_inj.mp same, number⟩
    · rw [List.concat_eq_append, ← List.cons_append, ← List.append_assoc] at split
      obtain ⟨rfl, same⟩ := List.append_inj' split rfl
      cases List.singleton_inj.mp same
      rw [List.concat_eq_append] at kept going
      simp only [List.mem_append, List.mem_singleton, not_or] at kept going
      exact .inr ⟨⟨before, after, rfl, number, kept.1, going.1⟩, Ne.symm kept.2, Ne.symm going.2⟩
  · rintro (⟨rfl, number⟩ | ⟨⟨before, after, rfl, number, kept, going⟩, notReleased, notReset⟩)
    · exact ⟨calls, [], rfl, number, by simp, by simp⟩
    · refine ⟨before, after ++ [call], by simp, number, ?_, ?_⟩
      · simp only [List.mem_append, List.mem_singleton, not_or]
        exact ⟨kept, Ne.symm notReleased⟩
      · simp only [List.mem_append, List.mem_singleton, not_or]
        exact ⟨going, Ne.symm notReset⟩

/-- The pool of a run, told from its calls. -/
theorem pool_after (calls : List PoolInput) :
    (poolMachine.run calls FidPool.new).2.nextFid = nextNumber calls ∧
      ∀ fid, fid ∈ (poolMachine.run calls FidPool.new).2.allocated ↔ Outstanding calls fid := by
  induction calls using List.reverseRecOn with
  | nil =>
    refine ⟨rfl, fun fid => iff_of_false (Finset.notMem_empty fid) ?_⟩
    rintro ⟨before, after, split, -⟩
    exact absurd split.symm (by simp)
  | append_singleton calls call ih =>
    obtain ⟨next, held⟩ := ih
    let p := (poolMachine.run calls FidPool.new).2
    have last : (poolMachine.run (calls ++ [call]) FidPool.new).2 =
        (poolMachine.step call p).2 := by
      rw [Machine.run_append]
      rfl
    rw [last]
    have counted := allocationsSinceReset_concat calls call
    cases call with
    | allocate =>
      constructor
      · change p.nextFid + 1 = UInt32.ofNat _
        rw [counted, countCall, UInt32.ofNat_add, next]
        rfl
      · intro fid
        rw [outstanding_concat, ← held fid, ← next]
        change fid ∈ insert p.nextFid p.allocated ↔ _
        simp [p, eq_comm]
    | release released =>
      constructor
      · change p.nextFid = UInt32.ofNat _
        rw [counted]
        exact next
      · intro fid
        rw [outstanding_concat, ← held fid]
        change fid ∈ p.allocated.erase released ↔ _
        simp [p, and_comm, eq_comm]
    | reset =>
      constructor
      · change (0 : UInt32) = UInt32.ofNat _
        rw [counted]
        rfl
      · intro fid
        rw [outstanding_concat]
        change fid ∈ (∅ : Finset UInt32) ↔ _
        simp

/-! ### When the numbers are new -/

/-- The number that comes next is not the sentinel, and its last owner has returned it. -/
def NumberFree (calls : List PoolInput) : Prop :=
  allocationsSinceReset calls % 2 ^ 32 ≠ 2 ^ 32 - 1 ∧ ¬ Outstanding calls (nextNumber calls)

theorem nextNumber_eq_noFid (calls : List PoolInput) :
    nextNumber calls = noFid ↔ allocationsSinceReset calls % 2 ^ 32 = 2 ^ 32 - 1 := by
  rw [← UInt32.toNat_inj, nextNumber]
  exact Iff.rfl

/-- What one call does behind others. -/
theorem poolCallSound_iff (calls : List PoolInput) (call : PoolInput) :
    PoolCallSound call (poolMachine.run calls FidPool.new).2 ↔
      (call = .allocate → NumberFree calls) := by
  obtain ⟨next, held⟩ := pool_after calls
  cases call with
  | release fid => exact iff_of_true rfl nofun
  | reset => exact iff_of_true trivial nofun
  | allocate =>
    unfold NumberFree
    rw [ne_eq, ← nextNumber_eq_noFid, ← held, ← next]
    constructor
    · rintro ⟨fid, given, new, proper, -⟩ -
      cases Option.some.inj given
      exact ⟨proper, new⟩
    · intro free
      obtain ⟨proper, new⟩ := free rfl
      exact ⟨_, rfl, new, proper, rfl⟩

/-- In every run of the pool, all calls do what they are to do if and only if every `Allocate`
comes when the next number is free. -/
theorem fids_unique_iff (calls : List PoolInput) :
    poolMachine.Meets PoolCallSound calls FidPool.new ↔
      ∀ before after, calls = before ++ .allocate :: after → NumberFree before := by
  rw [Machine.meets_iff_splits]
  constructor
  · intro sound before after split
    exact (poolCallSound_iff before .allocate).mp (sound before .allocate after split) rfl
  · intro free before call after split
    apply (poolCallSound_iff before call).mpr
    rintro rfl
    exact free before after split

/-- Without a `Reset` every call of `Allocate` counts. -/
theorem allocationsSinceReset_append {calls later : List PoolInput} (going : .reset ∉ later) :
    allocationsSinceReset (calls ++ later) =
      allocationsSinceReset calls + later.count .allocate := by
  induction later using List.reverseRecOn with
  | nil => simp
  | append_singleton later call ih =>
    rw [List.mem_append, not_or] at going
    rw [← List.append_assoc, allocationsSinceReset_concat, ih going.1, List.count_append]
    cases call with
    | allocate => simp [countCall, Nat.add_assoc]
    | release fid => simp [countCall]
    | reset => simp at going

theorem allocationsSinceReset_le (calls : List PoolInput) :
    allocationsSinceReset calls ≤ calls.count .allocate := by
  induction calls using List.reverseRecOn with
  | nil => exact Nat.le_refl 0
  | append_singleton calls call ih =>
    rw [allocationsSinceReset_concat, List.count_append]
    cases call with
    | allocate => simpa [countCall] using ih
    | release fid => simpa [countCall] using ih
    | reset => exact Nat.zero_le _

/-- The numbers are new in every run with fewer than `2 ^ 32` calls of `Allocate`. -/
theorem fids_unique_of_few {calls : List PoolInput} (few : calls.count .allocate < 2 ^ 32) :
    poolMachine.Meets PoolCallSound calls FidPool.new := by
  rw [fids_unique_iff]
  rintro before after rfl
  rw [List.count_append, List.count_cons_self] at few
  have counted := allocationsSinceReset_le before
  refine ⟨by omega, ?_⟩
  -- an earlier `Allocate` with the same number would have been counted
  rintro ⟨first, later, rfl, number, -, going⟩
  have between : allocationsSinceReset (first ++ [.allocate] ++ later) = _ :=
    allocationsSinceReset_append going
  rw [allocationsSinceReset_concat, countCall, List.append_assoc, List.singleton_append] at between
  have same : allocationsSinceReset first % 2 ^ 32 =
      allocationsSinceReset (first ++ .allocate :: later) % 2 ^ 32 := congrArg UInt32.toNat number
  omega

/-! ### A run that comes round -/

/-- Walks that each return their fid: `Allocate`, and `Release` of the number it gave. -/
def rounds : Nat → UInt32 → List PoolInput
  | 0, _ => []
  | n + 1, fid => .allocate :: .release fid :: rounds n (fid + 1)

/-- A root fid that is held, and `n` walks. -/
def walks (n : Nat) : List PoolInput := .allocate :: rounds n 1

/-- The pool with the root fid, before the number `fid` is given out. -/
def rootHeld (p : FidPool) (fid : UInt32) : Prop := p.allocated = {0} ∧ p.nextFid = fid

theorem rounds_rootHeld (n : Nat) {fid : UInt32} {p : FidPool} (held : rootHeld p fid)
    (positive : 0 < fid.toNat) (below : fid.toNat + n < 2 ^ 32) :
    rootHeld (poolMachine.run (rounds n fid) p).2 (fid + UInt32.ofNat n) ∧
      poolMachine.Meets (fun call p => (poolMachine.step call p).2.allocated.card ≤ 2)
        (rounds n fid) p := by
  obtain ⟨root, next⟩ := held
  induction n generalizing fid p with
  | zero => exact ⟨⟨root, by simpa [rounds, Machine.run] using next⟩, trivial⟩
  | succ n ih =>
    have other : fid ≠ 0 := by
      rintro rfl
      exact absurd positive (Nat.lt_irrefl 0)
    -- the number is given out and comes back
    let given := (poolMachine.step .allocate p).2
    let returned := (poolMachine.step (.release fid) given).2
    have pair : given.allocated = {fid, 0} := by
      change insert p.nextFid p.allocated = _
      rw [root, next]
    have alone : returned.allocated = {0} := by
      change given.allocated.erase fid = _
      rw [pair, Finset.erase_insert (by simpa using other)]
    have one : (1 : UInt32).toNat = 1 := rfl
    have succ : (fid + 1).toNat = fid.toNat + 1 := by
      rw [UInt32.toNat_add, one]
      omega
    have follows : returned.nextFid = fid + 1 := congrArg (· + 1) next
    obtain ⟨held, few⟩ := ih (by omega) (by omega) alone follows
    refine ⟨?_, ?_, ?_, few⟩
    · have moved : fid + 1 + UInt32.ofNat n = fid + UInt32.ofNat (n + 1) := by
        rw [UInt32.ofNat_add, UInt32.add_assoc, UInt32.add_comm 1]
        rfl
      rw [← moved]
      exact held
    · change given.allocated.card ≤ 2
      rw [pair]
      exact Finset.card_le_two
    · change returned.allocated.card ≤ 2
      rw [alone]
      decide

/-- If the walks have used up the numbers, the sentinel and the root fid come next. -/
theorem walks_come_round {n : Nat} (last : 1 + UInt32.ofNat n = noFid) (below : 1 + n < 2 ^ 32) :
    poolMachine.Meets (fun call p => (poolMachine.step call p).2.allocated.card ≤ 2)
        (walks n ++ [.allocate, .allocate]) FidPool.new ∧
      ∃ p, (poolMachine.run (walks n) FidPool.new).2 = p ∧ p.allocate.1 = noFid ∧
        p.allocate.2.allocate.1 = 0 ∧ 0 ∈ p.allocate.2.allocated := by
  have start : rootHeld (poolMachine.step .allocate FidPool.new).2 1 := ⟨rfl, rfl⟩
  obtain ⟨⟨root, next⟩, few⟩ := rounds_rootHeld n start (by decide) below
  let p := (poolMachine.run (walks n) FidPool.new).2
  have root : p.allocated = {0} := root
  have next : p.nextFid = noFid := next.trans last
  have again : p.allocate.2.nextFid = 0 := by
    change p.nextFid + 1 = 0
    rw [next]
    rfl
  have pair : p.allocate.2.allocated = {noFid, 0} := by
    change insert p.nextFid p.allocated = _
    rw [root, next]
  have same : p.allocate.2.allocate.2.allocated = {noFid, 0} := by
    change insert p.allocate.2.nextFid p.allocate.2.allocated = _
    rw [again, pair]
    decide
  refine ⟨?_, p, rfl, next, again, by rw [pair]; decide⟩
  rw [Machine.meets_append]
  refine ⟨⟨by decide, few⟩, ?_, ?_, trivial⟩
  · change p.allocate.2.allocated.card ≤ 2
    rw [pair]
    exact Finset.card_le_two
  · change p.allocate.2.allocate.2.allocated.card ≤ 2
    rw [same]
    exact Finset.card_le_two

/-- With no more than two fids allocated at any time, the `Allocate` behind `2 ^ 32 - 1` others
returns `kNoFid`, and the one behind it the root fid, which is still held. -/
theorem root_fid_given_again :
    poolMachine.Meets (fun call p => (poolMachine.step call p).2.allocated.card ≤ 2)
        (walks (2 ^ 32 - 2) ++ [.allocate, .allocate]) FidPool.new ∧
      (∃ p, (poolMachine.run (walks (2 ^ 32 - 2)) FidPool.new).2 = p ∧ p.allocate.1 = noFid ∧
        p.allocate.2.allocate.1 = 0 ∧ 0 ∈ p.allocate.2.allocated) ∧
      ¬ poolMachine.Meets PoolCallSound (walks (2 ^ 32 - 2) ++ [.allocate, .allocate])
        FidPool.new := by
  obtain ⟨few, p, reached, next, again⟩ :=
    walks_come_round (n := 2 ^ 32 - 2) (by decide) (by decide)
  refine ⟨few, ⟨p, reached, next, again⟩, ?_⟩
  rw [Machine.meets_append, reached]
  rintro ⟨-, ⟨fid, given, -, proper, -⟩, -⟩
  cases Option.some.inj given
  exact proper next

end Virtio9p
