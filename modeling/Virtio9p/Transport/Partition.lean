import Mathlib.Data.List.Pairwise
import Mathlib.Data.List.Perm.Basic
import Virtio9p.Transport.Chains

/-!
# The partition of the descriptors

Every descriptor is either free or in one of the chains in flight. The theorems of this
module say that each operation keeps it so, as long as the device completes only chains
that are in flight, and each once.
-/
namespace Virtio9p

open Virtqueue

/-- All but the elements with the key of `c` remain. -/
theorem perm_cons_filter {α β : Type*} [DecidableEq β] (key : α → β) {l : List α} {c : α}
    (member : c ∈ l) (distinct : (l.map key).Nodup) :
    l.Perm (c :: l.filter fun x => key x ≠ key c) := by
  induction l with
  | nil => cases member
  | cons a l ih =>
    rw [List.map_cons, List.nodup_cons] at distinct
    obtain ⟨fresh, distinct⟩ := distinct
    rcases List.mem_cons.mp member with rfl | later
    · have others : l.filter (fun x => key x ≠ key c) = l := by
        apply List.filter_eq_self.mpr
        intro x inside
        apply decide_eq_true
        intro same
        exact fresh (same ▸ List.mem_map_of_mem inside)
      rw [List.filter_cons_of_neg (by simp), others]
    · have differ : key a ≠ key c := by
        intro same
        exact fresh (same ▸ List.mem_map_of_mem later)
      rw [List.filter_cons_of_pos (by simpa using differ)]
      exact ((ih later distinct).cons a).trans (List.Perm.swap c a _)

/-! ### Heads as return codes -/

theorem toInt_head (head : UInt16) : head.toUInt32.toInt32.toInt = head.toNat := by
  have bound := head.toNat_lt
  change head.toUInt32.toBitVec.toInt = head.toNat
  rw [BitVec.toInt_eq_toNat_cond]
  simp
  omega

theorem head_not_neg (head : UInt16) : ¬ head.toUInt32.toInt32 < 0 := by
  rw [Int32.lt_iff_toInt_lt, toInt_head]
  simp

theorem head_inj {head head' : UInt16} :
    head.toUInt32.toInt32 = head'.toUInt32.toInt32 ↔ head = head' := by
  constructor
  · intro same
    have equal := congrArg Int32.toInt same
    rw [toInt_head, toInt_head] at equal
    exact UInt16.toNat_inj.mp (Int.ofNat.inj equal)
  · rintro rfl
    rfl

/-! ### The invariant -/

/-- The indices of the descriptor table. -/
def descriptors (queueSize : UInt16) : List UInt16 := (List.range queueSize.toNat).map UInt16.ofNat

theorem descriptors_nodup (queueSize : UInt16) : (descriptors queueSize).Nodup := by
  apply List.Nodup.map_on ?_ List.nodup_range
  intro i left j right same
  have size := queueSize.toNat_lt
  rw [List.mem_range] at left right
  have equal := congrArg UInt16.toNat same
  rw [UInt16.toNat_ofNat_of_lt' (left.trans size), UInt16.toNat_ofNat_of_lt' (right.trans size)]
    at equal
  exact equal

@[simp] theorem descriptors_length (queueSize : UInt16) :
    (descriptors queueSize).length = queueSize.toNat := by
  simp [descriptors]

/-- The used elements that are not read yet name chains in flight, each once. -/
structure Completes (s : LiveQueue) : Prop where
  named : ∀ e ∈ s.queue.unread, ∃ c ∈ s.inFlight, e.id = c.head.toUInt32
  once : (s.queue.unread.map VringUsedElem.id).Nodup

structure Sound (queueSize : UInt16) (s : LiveQueue) : Prop where
  size : s.queue.queueSize = queueSize
  parts : (s.queue.freeList ++ s.inFlight.flatMap Chain.descs).Perm (descriptors queueSize)
  holds : ∀ c ∈ s.inFlight, s.queue.Holds c
  completes : Completes s

section Invariant

variable {queueSize : UInt16} {s : LiveQueue} {outPhys inPhys : UInt64} {outLen inLen : UInt32}

theorem chains_length (chains : List Chain) :
    (chains.flatMap Chain.descs).length = 2 * chains.length := by
  induction chains with
  | nil => rfl
  | cons c chains ih =>
    rw [List.flatMap_cons, List.length_append, ih]
    simp only [Chain.descs, List.length_cons, List.length_nil]
    omega

/-- `num_free_` counts what the chains leave. -/
theorem Sound.count (sound : Sound queueSize s) :
    s.queue.numFree.toNat + 2 * s.inFlight.length = queueSize.toNat := by
  have total := sound.parts.length_eq
  rw [List.length_append, freeList_length, chains_length, descriptors_length] at total
  exact total

theorem Sound.nodup (sound : Sound queueSize s) :
    (s.queue.freeList ++ s.inFlight.flatMap Chain.descs).Nodup :=
  sound.parts.nodup_iff.mpr (descriptors_nodup queueSize)

/-- A free descriptor is in no chain. -/
theorem Sound.apart (sound : Sound queueSize s) {i : UInt16} (free : i ∈ s.queue.freeList)
    {c : Chain} (member : c ∈ s.inFlight) : i ≠ c.head ∧ i ≠ c.tail := by
  have disjoint := (List.nodup_append.mp sound.nodup).2.2
  have differ (j : UInt16) (inside : j ∈ c.descs) : i ≠ j :=
    disjoint i free j (List.mem_flatMap.mpr ⟨c, member, inside⟩)
  exact ⟨differ c.head (by simp [Chain.descs]), differ c.tail (by simp [Chain.descs])⟩

theorem Sound.chains_nodup (sound : Sound queueSize s) :
    (s.inFlight.flatMap Chain.descs).Nodup := (List.nodup_append.mp sound.nodup).2.1

theorem Sound.tail_ne_head (sound : Sound queueSize s) {c : Chain} (member : c ∈ s.inFlight) :
    c.tail ≠ c.head := by
  have distinct := (List.nodup_flatMap.mp sound.chains_nodup).1 c member
  simp only [Chain.descs, List.nodup_cons, List.mem_singleton] at distinct
  exact fun same => distinct.1 same.symm

/-- Different chains use different descriptors. -/
theorem Sound.chains_apart (sound : Sound queueSize s) {c d : Chain} (left : c ∈ s.inFlight)
    (right : d ∈ s.inFlight) (differ : c ≠ d) : ∀ i ∈ c.descs, i ∉ d.descs := by
  have pairwise := (List.nodup_flatMap.mp sound.chains_nodup).2
  have symm : Std.Symm (Function.onFun List.Disjoint Chain.descs) :=
    ⟨fun c d disjoint => List.Disjoint.symm disjoint⟩
  have disjoint := pairwise.forall left right differ
  intro i inside outside
  exact disjoint inside outside

theorem Sound.heads_nodup (sound : Sound queueSize s) :
    (s.inFlight.map fun c => c.head.toUInt32.toInt32).Nodup := by
  have pairwise := (List.nodup_flatMap.mp sound.chains_nodup).2
  rw [List.Nodup, List.pairwise_map]
  apply pairwise.imp
  intro c d disjoint same
  apply disjoint (a := c.head)
  · simp [Chain.descs]
  · simp [Chain.descs, head_inj.mp same]

/-! ### AddBuf -/

theorem addBuf_full (full : s.queue.numFree < 2) :
    s.addBuf outPhys outLen inPhys inLen = (-enospc, s) := by
  rw [LiveQueue.addBuf, Virtqueue.addBuf_full full]
  rfl

section Next

variable {c : Chain} (next : s.queue.Next c)

include next

/-- With two free descriptors or more the free list starts with those of the next chain. -/
theorem freeList_next (room : ¬ s.queue.numFree < 2) :
    s.queue.freeList =
      c.head :: c.tail :: List.iterate s.queue.next c.link (s.queue.numFree - 1 - 1).toNat := by
  have two : (2 : UInt16).toNat = 2 := rfl
  have one : (1 : UInt16).toNat = 1 := rfl
  have bound := s.queue.numFree.toNat_lt
  have count : s.queue.numFree.toNat = (s.queue.numFree - 1 - 1).toNat + 2 := by
    rw [UInt16.lt_iff_toNat_lt, two] at room
    rw [UInt16.toNat_sub, UInt16.toNat_sub, one]
    omega
  rw [freeList, count, next.link, next.tail, next.head]
  rfl

/-- The descriptors of the next chain are free, and they are two. -/
theorem Sound.next_free (sound : Sound queueSize s) (room : ¬ s.queue.numFree < 2) :
    (∀ i ∈ c.descs, i ∈ s.queue.freeList ∧
      i ∉ List.iterate s.queue.next c.link (s.queue.numFree - 1 - 1).toNat) ∧
      c.tail ≠ c.head := by
  have free := freeList_next next room
  have distinct := (List.nodup_append.mp sound.nodup).1
  rw [free, List.nodup_cons, List.nodup_cons, List.mem_cons, not_or] at distinct
  obtain ⟨⟨apart, headFresh⟩, tailFresh, _⟩ := distinct
  constructor
  · intro i inside
    rw [free]
    simp only [Chain.descs, List.mem_cons, List.not_mem_nil, or_false] at inside
    rcases inside with rfl | rfl
    · exact ⟨List.mem_cons_self, headFresh⟩
    · exact ⟨List.mem_cons_of_mem _ List.mem_cons_self, tailFresh⟩
  · exact Ne.symm apart

/-- What is left of the free list keeps its links. -/
theorem Sound.added_freeList (sound : Sound queueSize s) (room : ¬ s.queue.numFree < 2) :
    (s.queue.added c).freeList =
      List.iterate s.queue.next c.link (s.queue.numFree - 1 - 1).toNat := by
  have free := (sound.next_free next room).1
  apply Linked.iterate_congr
  intro i member
  have notHead : i ≠ c.head := by
    rintro rfl
    exact (free c.head (by simp [Chain.descs])).2 member
  have notTail : i ≠ c.tail := by
    rintro rfl
    exact (free c.tail (by simp [Chain.descs])).2 member
  change (Function.update (Function.update s.queue.desc c.tail _) c.head _ i).next = _
  rw [Function.update_of_ne notHead, Function.update_of_ne notTail]
  rfl

/-- The new chain is in the table, and the others stay there. -/
theorem Sound.added_holds (sound : Sound queueSize s) (room : ¬ s.queue.numFree < 2) {d : Chain}
    (member : d ∈ s.inFlight ++ [c]) : (s.queue.added c).Holds d := by
  obtain ⟨free, apart⟩ := sound.next_free next room
  rcases List.mem_append.mp member with old | new
  · -- the two descriptors were free, so no chain in flight uses them
    obtain ⟨request, response⟩ := sound.holds d old
    have headApart := sound.apart (free c.head (by simp [Chain.descs])).1 old
    have tailApart := sound.apart (free c.tail (by simp [Chain.descs])).1 old
    constructor
    · change Function.update (Function.update _ c.tail _) c.head _ d.head = _
      rw [Function.update_of_ne headApart.1.symm, Function.update_of_ne tailApart.1.symm]
      exact request
    · change Function.update (Function.update _ c.tail _) c.head _ d.tail = _
      rw [Function.update_of_ne headApart.2.symm, Function.update_of_ne tailApart.2.symm]
      exact response
  · rw [List.mem_singleton.mp new]
    constructor
    · exact Function.update_self c.head _ _
    · change Function.update (Function.update _ c.tail _) c.head _ c.tail = _
      rw [Function.update_of_ne apart, Function.update_self]

/-- The state after `AddBuf` made the chain. -/
theorem Sound.added (sound : Sound queueSize s) (room : ¬ s.queue.numFree < 2) :
    Sound queueSize ⟨s.queue.added c, s.inFlight ++ [c]⟩ := by
  constructor
  · exact sound.size
  · -- the two descriptors move from the front of the free list to the last chain
    have parts := sound.parts
    rw [freeList_next next room] at parts
    refine List.Perm.trans ?_ parts
    rw [sound.added_freeList next room, List.flatMap_append, ← List.append_assoc]
    change (_ ++ [c.head, c.tail]).Perm ([c.head, c.tail] ++ _)
    exact List.perm_append_comm
  · exact fun d member => sound.added_holds next room member
  · -- the device has not heard of the new chain yet
    constructor
    · intro e unread
      obtain ⟨d, member, names⟩ := sound.completes.named e unread
      exact ⟨d, List.mem_append_left _ member, names⟩
    · exact sound.completes.once

end Next

theorem Sound.addBuf_eq (sound : Sound queueSize s) (room : ¬ s.queue.numFree < 2) :
    let c := s.queue.nextChain outPhys outLen inPhys inLen
    s.addBuf outPhys outLen inPhys inLen =
      (c.head.toUInt32.toInt32, ⟨s.queue.added c, s.inFlight ++ [c]⟩) := by
  intro c
  have apart : c.tail ≠ c.head := (sound.next_free ⟨rfl, rfl, rfl⟩ room).2
  rw [LiveQueue.addBuf, Virtqueue.addBuf_eq room apart]
  simp only [if_neg (head_not_neg _)]
  rfl

theorem Sound.addBuf (sound : Sound queueSize s) :
    Sound queueSize (s.addBuf outPhys outLen inPhys inLen).2 := by
  by_cases full : s.queue.numFree < 2
  · rw [addBuf_full full]
    exact sound
  · rw [sound.addBuf_eq full]
    exact sound.added ⟨rfl, rfl, rfl⟩ full

/-! ### GetBuf -/

theorem Sound.getBuf_eq {e : VringUsedElem} {rest : List VringUsedElem}
    (sound : Sound queueSize s) (unread : s.queue.unread = e :: rest) {c : Chain}
    (member : c ∈ s.inFlight) (names : e.id = c.head.toUInt32) (fuel : Nat) (outLen : UInt32) :
    s.getBuf (fuel + 2) outLen = some ((c.head.toUInt32.toInt32, e.len),
      ⟨s.queue.returned c, s.inFlight.filter fun d => d.head.toUInt32.toInt32 ≠
        c.head.toUInt32.toInt32⟩) := by
  have got := (Virtqueue.getBuf_eq unread names (sound.holds c member)
    (sound.tail_ne_head member) fuel outLen).1
  rw [LiveQueue.getBuf, got]
  rfl

/-- The request goes to the front of the free list, then the response in front of it. -/
theorem Sound.returned_freeList (sound : Sound queueSize s) {c : Chain}
    (member : c ∈ s.inFlight) :
    (s.queue.returned c).freeList = c.tail :: c.head :: s.queue.freeList := by
  have apart := sound.tail_ne_head member
  have inTable (i : UInt16) (free : i ∈ s.queue.freeList) := sound.apart free member
  have first : List.iterate (fun i => (Function.update s.queue.desc c.head
      { c.request with next := s.queue.freeHead } i).next) c.head (s.queue.numFree.toNat + 1) =
      c.head :: s.queue.freeList := by
    apply Linked.iterate_push
    · intro free
      exact (inTable c.head free).1 rfl
    · rw [Function.update_self]
    · intro i differ
      rw [Function.update_of_ne differ]
      rfl
  have second : List.iterate (s.queue.returned c).next c.tail (s.queue.numFree.toNat + 1 + 1) =
      c.tail :: c.head :: s.queue.freeList := by
    rw [← first]
    apply Linked.iterate_push
    · rw [first, List.mem_cons, not_or]
      exact ⟨apart, fun free => (inTable c.tail free).2 rfl⟩
    · simp only [Virtqueue.next, Virtqueue.returned, Virtqueue.freed, Function.update_self]
    · intro i differ
      simp only [Virtqueue.next, Virtqueue.returned, Virtqueue.freed,
        Function.update_of_ne differ]
  -- the count does not wrap: the chain's descriptors were not among the free ones
  have count : (s.queue.returned c).numFree.toNat = s.queue.numFree.toNat + 1 + 1 := by
    have one : (1 : UInt16).toNat = 1 := rfl
    have size := queueSize.toNat_lt
    have total := sound.count
    have nonempty := List.length_pos_of_mem member
    change (s.queue.numFree + 1 + 1).toNat = _
    rw [UInt16.toNat_add, UInt16.toNat_add, one]
    omega
  rw [freeList, count]
  exact second

/-- The other chains stay in the table. -/
theorem Sound.returned_holds (sound : Sound queueSize s) {c d : Chain} (member : c ∈ s.inFlight)
    (old : d ∈ s.inFlight) (other : d ≠ c) : (s.queue.returned c).Holds d := by
  have fresh := sound.chains_apart old member other
  have headFresh : d.head ≠ c.head ∧ d.head ≠ c.tail := by
    simpa [Chain.descs] using fresh d.head (by simp [Chain.descs])
  have tailFresh : d.tail ≠ c.head ∧ d.tail ≠ c.tail := by
    simpa [Chain.descs] using fresh d.tail (by simp [Chain.descs])
  obtain ⟨request, response⟩ := sound.holds d old
  constructor
  · change Function.update (Function.update _ c.head _) c.tail _ d.head = _
    rw [Function.update_of_ne headFresh.2, Function.update_of_ne headFresh.1]
    exact request
  · change Function.update (Function.update _ c.head _) c.tail _ d.tail = _
    rw [Function.update_of_ne tailFresh.2, Function.update_of_ne tailFresh.1]
    exact response

/-- The state after `GetBuf` returned a chain. -/
theorem Sound.returned {e : VringUsedElem} {rest : List VringUsedElem}
    (sound : Sound queueSize s) (unread : s.queue.unread = e :: rest) {c : Chain}
    (member : c ∈ s.inFlight) (names : e.id = c.head.toUInt32) :
    Sound queueSize ⟨s.queue.returned c, s.inFlight.filter fun d => d.head.toUInt32.toInt32 ≠
      c.head.toUInt32.toInt32⟩ := by
  have apart := sound.tail_ne_head member
  constructor
  · exact sound.size
  · -- the two descriptors move from the chain to the front of the free list
    have split := perm_cons_filter (fun d : Chain => d.head.toUInt32.toInt32) member
      sound.heads_nodup
    have chains := ((split.flatMap_right Chain.descs).append_left s.queue.freeList).symm
    rw [List.flatMap_cons] at chains
    have front : ([c.head, c.tail] ++ s.queue.freeList).Perm (s.queue.freeList ++ c.descs) :=
      List.perm_append_comm
    refine List.Perm.trans ?_ sound.parts
    rw [sound.returned_freeList member]
    refine List.Perm.trans ?_ chains
    rw [Chain.descs, ← List.append_assoc]
    refine List.Perm.append_right _ ?_
    exact (List.Perm.swap c.head c.tail _).trans front
  · intro d remains
    obtain ⟨old, differ⟩ := List.mem_filter.mp remains
    refine sound.returned_holds member old ?_
    rintro rfl
    simp at differ
  · have later := (Virtqueue.getBuf_eq unread names (sound.holds c member) apart 0 0).2
    have once := sound.completes.once
    rw [unread, List.map_cons, List.nodup_cons] at once
    constructor
    · intro e' member'
      change e' ∈ (s.queue.returned c).unread at member'
      rw [later] at member'
      obtain ⟨d, old, names'⟩ := sound.completes.named e'
        (unread ▸ List.mem_cons_of_mem e member')
      refine ⟨d, List.mem_filter.mpr ⟨old, ?_⟩, names'⟩
      -- the element of this chain was another one
      apply decide_eq_true
      intro same
      apply once.1
      rw [names, ← head_inj.mp same, ← names']
      exact List.mem_map_of_mem member'
    · change ((s.queue.returned c).unread.map VringUsedElem.id).Nodup
      rw [later]
      exact once.2

/-- Without a used element `GetBuf` changes nothing. -/
theorem getBuf_nil (unread : s.queue.unread = []) (fuel : Nat) (outLen : UInt32) :
    s.getBuf fuel outLen = some ((-1, outLen), s) := by
  have all : (s.inFlight.filter fun c => c.head.toUInt32.toInt32 ≠ -1) = s.inFlight := by
    apply List.filter_eq_self.mpr
    intro c member
    apply decide_eq_true
    intro same
    exact head_not_neg c.head (same ▸ by decide)
  rw [LiveQueue.getBuf, getBuf_empty unread]
  simp only [Option.map_some, all]

theorem Sound.getBuf (sound : Sound queueSize s) (fuel : Nat) (outLen : UInt32) :
    ∃ reply s', s.getBuf (fuel + 2) outLen = some (reply, s') ∧ Sound queueSize s' := by
  cases unread : s.queue.unread with
  | nil => exact ⟨(-1, outLen), s, getBuf_nil unread (fuel + 2) outLen, sound⟩
  | cons e rest =>
    obtain ⟨c, member, names⟩ := sound.completes.named e (unread ▸ List.mem_cons_self)
    exact ⟨_, _, sound.getBuf_eq unread member names fuel outLen,
      sound.returned unread member names⟩

/-! ### The device -/

theorem Sound.writeUsed (sound : Sound queueSize s) {usedIdx : UInt16}
    {usedRing : UInt16 → VringUsedElem} (completes : Completes (s.writeUsed usedIdx usedRing)) :
    Sound queueSize (s.writeUsed usedIdx usedRing) :=
  ⟨sound.size, sound.parts, sound.holds, completes⟩

end Invariant

/-! ### Runs -/

/-- What `Initialize` leaves: all descriptors are free, none is used. -/
theorem sound_start (queueSize : UInt16) : Sound queueSize (LiveQueue.start queueSize) := by
  have chain (i : Nat) (bound : i < queueSize.toNat) :
      (LiveQueue.start queueSize).queue.next^[i] 0 = UInt16.ofNat i := by
    induction i with
    | zero => rfl
    | succ i ih =>
      have inside : UInt16.ofNat i < queueSize := by
        have size := queueSize.toNat_lt
        rw [UInt16.lt_iff_toNat_lt, UInt16.toNat_ofNat_of_lt' (lt_of_lt_of_le (by omega) size.le)]
        omega
      rw [Function.iterate_succ_apply', ih (Nat.lt_of_succ_lt bound)]
      change (if UInt16.ofNat i < queueSize then _ else _ : VringDesc).next = _
      rw [if_pos inside]
      simp
  have free : (LiveQueue.start queueSize).queue.freeList = descriptors queueSize := by
    rw [freeList, ← List.range_map_iterate]
    apply List.map_congr_left
    intro i member
    exact chain i (List.mem_range.mp member)
  constructor
  · rfl
  · rw [free]
    simp [LiveQueue.start]
  · rintro c ⟨⟩
  · have unread : (LiveQueue.start queueSize).queue.unread = [] := Ring.pending_eq_nil.mpr rfl
    constructor
    · intro e member
      rw [unread] at member
      cases member
    · rw [unread]
      exact List.nodup_nil

/-- A conforming device publishes only completions of chains in flight, each once. -/
def Conforming : QueueInput → LiveQueue → Prop
  | .device usedIdx usedRing, s => Completes (s.writeUsed usedIdx usedRing)
  | _, _ => True

theorem sound_step {queueSize : UInt16} (fuel : Nat) (input : QueueInput) (s : LiveQueue)
    (sound : Sound queueSize s) (conforming : Conforming input s) :
    Sound queueSize ((liveQueue (fuel + 2)).step input s).2 := by
  cases input with
  | addBuf outPhys outLen inPhys inLen => exact sound.addBuf
  | getBuf =>
    obtain ⟨reply, s', got, kept⟩ := sound.getBuf fuel 0
    simp only [liveQueue, got]
    exact kept
  | device usedIdx usedRing => exact sound.writeUsed conforming

end Virtio9p
