import Virtio9p.Protocol.Bounds

/-!
# The loop of ParseRreaddir

The loop counts what it has read in 32 bits. It ends within a round for every 24 bytes of the
count, with the true sum in its counter, exactly if no entry that begins below the count ends at
`2 ^ 32` or above.
-/
namespace Virtio9p

open NinePMessage

/-- What the loop adds for an entry: its fixed fields and its name. -/
def entrySize (entry : DirEntry) : Nat := 24 + entry.name.length

/-- The sizes of the next entries, whatever is left to read them from. -/
def sizesRead : Nat → NinePMessage → Nat
  | 0, _ => 0
  | rounds + 1, m => entrySize (getDirEntry m).1 + sizesRead rounds (getDirEntry m).2

/-- In the next rounds of the loop the 32-bit sum does not wrap. -/
def SumsExactly (count : UInt32) : Nat → UInt32 → NinePMessage → Prop
  | 0, _, _ => True
  | rounds + 1, bytesConsumed, m =>
    bytesConsumed < count →
      bytesConsumed.toNat + entrySize (getDirEntry m).1 < 2 ^ 32 ∧
        SumsExactly count rounds
          (bytesConsumed + (13 + 8 + 1 + 2 + UInt32.ofNat (getDirEntry m).1.name.length))
          (getDirEntry m).2

/-- The loop ends within the given rounds. -/
def LoopEnds (count : UInt32) (rounds : Nat) (bytesConsumed : UInt32) (entries : List DirEntry)
    (m : NinePMessage) : Prop :=
  ((readdirLoop count rounds bytesConsumed entries m).1).isSome

/-- No entry that begins below the count ends beyond 32 bits. -/
def SizesFit (count : UInt32) (bytesConsumed : Nat) (m : NinePMessage) : Prop :=
  ∀ k, bytesConsumed + sizesRead k m < count.toNat → bytesConsumed + sizesRead (k + 1) m < 2 ^ 32

/-! ### One round -/

private theorem getBytes_length (length : UInt32) (m : NinePMessage) :
    (getBytes length m).1.length ≤ length.toNat := by
  unfold getBytes
  split
  · exact Nat.zero_le _
  · exact List.length_take_le _ _

/-- The length of a name has 16 bits. -/
theorem name_short (m : NinePMessage) : (getDirEntry m).1.name.length < 2 ^ 16 := by
  let m' := (getU8 (getU64 (getQid m).2).2).2
  have name : (getDirEntry m).1.name = (getBytes (getU16 m').1.toUInt32 (getU16 m').2).1 := by
    unfold getDirEntry getString
    simp only [bind_run, pure_run]
    rfl
  have bound := getBytes_length (getU16 m').1.toUInt32 (getU16 m').2
  have small := (getU16 m').1.toNat_lt
  rw [UInt16.toNat_toUInt32] at bound
  rw [name]
  omega

section Round

variable {count bytesConsumed : UInt32} {m : NinePMessage} {entries : List DirEntry} {rounds : Nat}

theorem loopEnds_done (done : ¬ bytesConsumed < count) (rounds : Nat) :
    LoopEnds count rounds bytesConsumed entries m := by
  unfold LoopEnds readdirLoop
  rw [if_neg done]
  rfl

theorem not_loopEnds_zero (more : bytesConsumed < count) :
    ¬ LoopEnds count 0 bytesConsumed entries m := by
  unfold LoopEnds readdirLoop
  rw [if_pos more]
  exact Bool.false_ne_true

theorem loopEnds_succ (more : bytesConsumed < count) :
    LoopEnds count (rounds + 1) bytesConsumed entries m ↔
      LoopEnds count rounds
        (bytesConsumed + (13 + 8 + 1 + 2 + UInt32.ofNat (getDirEntry m).1.name.length))
        (entries ++ [(getDirEntry m).1]) (getDirEntry m).2 := by
  unfold LoopEnds
  rw [readdirLoop, if_pos more, bind_run]

/-- The sum after one round, if it does not wrap. -/
theorem consumed_next
    (fits : bytesConsumed.toNat + entrySize (getDirEntry m).1 < 2 ^ 32) :
    (bytesConsumed + (13 + 8 + 1 + 2 + UInt32.ofNat (getDirEntry m).1.name.length)).toNat =
      bytesConsumed.toNat + entrySize (getDirEntry m).1 := by
  have short := name_short m
  have fixed : (13 + 8 + 1 + 2 : UInt32).toNat = 24 := rfl
  unfold entrySize at fits ⊢
  rw [UInt32.toNat_add, UInt32.toNat_add, fixed, UInt32.toNat_ofNat']
  omega

end Round

/-! ### The loop -/

section Loop

variable {count bytesConsumed : UInt32} {m : NinePMessage} {entries : List DirEntry} {rounds : Nat}

theorem sizesFit_of_ends (ends : LoopEnds count rounds bytesConsumed entries m)
    (exactly : SumsExactly count rounds bytesConsumed m) :
    SizesFit count bytesConsumed.toNat m := by
  -- on the rounds, each of which moves on by one entry
  induction rounds generalizing bytesConsumed entries m with
  | zero =>
    intro k begins
    by_cases more : bytesConsumed < count
    · exact absurd ends (not_loopEnds_zero more)
    · rw [UInt32.lt_iff_toNat_lt] at more
      omega
  | succ rounds ih =>
    intro k begins
    have more : bytesConsumed < count := by
      rw [UInt32.lt_iff_toNat_lt]
      omega
    obtain ⟨fits, later⟩ := exactly more
    have next := consumed_next fits
    cases k with
    | zero => simpa only [sizesRead, Nat.add_zero] using fits
    | succ k =>
      have rest := ih ((loopEnds_succ more).mp ends) later k
      rw [next] at rest
      simp only [sizesRead] at begins rest ⊢
      omega

theorem ends_of_sizesFit (fit : SizesFit count bytesConsumed.toNat m)
    (enough : count.toNat ≤ bytesConsumed.toNat + 24 * rounds) :
    LoopEnds count rounds bytesConsumed entries m ∧ SumsExactly count rounds bytesConsumed m := by
  induction rounds generalizing bytesConsumed entries m with
  | zero =>
    refine ⟨loopEnds_done ?_ 0, trivial⟩
    rw [UInt32.lt_iff_toNat_lt]
    omega
  | succ rounds ih =>
    by_cases more : bytesConsumed < count
    · have moreNat := UInt32.lt_iff_toNat_lt.mp more
      have fits : bytesConsumed.toNat + entrySize (getDirEntry m).1 < 2 ^ 32 := by
        simpa only [sizesRead, Nat.add_zero] using fit 0 moreNat
      have next := consumed_next fits
      have size : 24 ≤ entrySize (getDirEntry m).1 := Nat.le_add_right 24 _
      -- what is read from here on fits as well
      have rest : SizesFit count (bytesConsumed +
          (13 + 8 + 1 + 2 + UInt32.ofNat (getDirEntry m).1.name.length)).toNat
          (getDirEntry m).2 := by
        intro k begins
        have later := fit (k + 1)
        rw [next] at begins ⊢
        simp only [sizesRead] at begins later ⊢
        omega
      obtain ⟨ends, exactly⟩ := ih rest (by omega)
      exact ⟨(loopEnds_succ more).mpr ends, fun _ => ⟨fits, exactly⟩⟩
    · exact ⟨loopEnds_done more _, fun begins => absurd begins more⟩

end Loop

/-! ### ParseRreaddir -/

/-- The count field of a message of type Rreaddir. -/
def readdirCount (data : Bytes) : UInt32 := (getU32 (ofData data)).1

/-- The message with the read offset behind the count. -/
def behindCount (data : Bytes) : NinePMessage := (getU32 (ofData data)).2

/-- The loop of `ParseRreaddir` ends within a round for every 24 bytes of the count, and its sum
does not wrap. -/
def EndsInTime (data : Bytes) (entries : List DirEntry) : Prop :=
  let count := readdirCount data
  let rounds := (count.toNat + 23) / 24
  LoopEnds count rounds 0 entries (behindCount data) ∧
    SumsExactly count rounds 0 (behindCount data)

/-- On every byte string the loop ends in time exactly if no entry that begins below the count
ends beyond 32 bits. -/
theorem readdir_ends_in_time_iff (data : Bytes) (entries : List DirEntry) :
    EndsInTime data entries ↔ SizesFit (readdirCount data) 0 (behindCount data) := by
  constructor
  · rintro ⟨ends, exactly⟩
    exact sizesFit_of_ends ends exactly
  · intro fit
    apply ends_of_sizesFit fit
    have zero : (0 : UInt32).toNat = 0 := rfl
    omega

theorem sizesRead_succ_le (k : Nat) (m : NinePMessage) :
    sizesRead (k + 1) m < sizesRead k m + (24 + 2 ^ 16) := by
  induction k generalizing m with
  | zero =>
    have short := name_short m
    simp only [sizesRead, entrySize]
    omega
  | succ k ih =>
    have rest := ih (getDirEntry m).2
    simp only [sizesRead] at rest ⊢
    omega

/-- A count that leaves room for one more entry is always read in time. -/
theorem small_count_ends_in_time (data : Bytes) (entries : List DirEntry)
    (small : (readdirCount data).toNat + (24 + 2 ^ 16) ≤ 2 ^ 32 + 1) : EndsInTime data entries := by
  have fit : SizesFit (readdirCount data) 0 (behindCount data) := by
    intro k begins
    have size := sizesRead_succ_le k (behindCount data)
    omega
  have zero : (0 : UInt32).toNat = 0 := rfl
  exact ends_of_sizesFit fit (by omega)

/-! ### Past the end of the payload -/

/-- The message behind its next entries. -/
def behindEntries : Nat → NinePMessage → NinePMessage
  | 0, m => m
  | k + 1, m => behindEntries k (getDirEntry m).2

/-- There is nothing left to read, so that an entry is empty and leaves the message as it is. -/
def Exhausted (m : NinePMessage) : Prop := getDirEntry m = (⟨⟨0, 0, 0⟩, 0, 0, []⟩, m)

theorem sizesRead_add (k j : Nat) (m : NinePMessage) :
    sizesRead (k + j) m = sizesRead k m + sizesRead j (behindEntries k m) := by
  induction k generalizing m with
  | zero => rw [Nat.zero_add, behindEntries, sizesRead, Nat.zero_add]
  | succ k ih => rw [Nat.succ_add, sizesRead, sizesRead, behindEntries, ih, Nat.add_assoc]

theorem sizesRead_exhausted {m : NinePMessage} (exhausted : Exhausted m) (j : Nat) :
    sizesRead j m = 24 * j := by
  induction j with
  | zero => rfl
  | succ j ih =>
    rw [sizesRead, exhausted, ih, Nat.mul_succ, Nat.add_comm]
    rfl

/-- Once the payload is read, the sum goes on in steps of 24 until it comes to the count. -/
theorem sizesFit_iff_steps {m : NinePMessage} {k : Nat} (count : UInt32) (bytesConsumed : Nat)
    (exhausted : Exhausted (behindEntries k m)) (short : bytesConsumed + sizesRead k m < 2 ^ 32) :
    let payload := bytesConsumed + sizesRead k m
    SizesFit count bytesConsumed m ↔ (payload < count.toNat →
      payload + 24 * ((count.toNat - payload + 23) / 24) < 2 ^ 32) := by
  intro payload
  have steps (j : Nat) : sizesRead (k + j) m = sizesRead k m + 24 * j := by
    rw [sizesRead_add, sizesRead_exhausted exhausted]
  constructor
  · intro fit more
    have last := fit (k + ((count.toNat - payload + 23) / 24 - 1))
    rw [Nat.add_assoc k, steps, steps] at last
    omega
  · intro fits i begins
    by_cases early : i + 1 ≤ k
    · -- an entry of the payload
      obtain ⟨rest, rfl⟩ := Nat.exists_eq_add_of_le early
      rw [sizesRead_add] at short
      omega
    · obtain ⟨j, rfl⟩ := Nat.exists_eq_add_of_le (show k ≤ i by omega)
      rw [steps] at begins
      rw [Nat.add_assoc k, steps]
      omega

/-! ### How far an entry reads -/

/-- Far from the end of 32 bits, so that no read of an entry wraps. -/
def Low (m : NinePMessage) : Prop :=
  m.data.length + 2 ^ 16 ≤ 2 ^ 32 ∧ m.readOffset.toNat + 2 ^ 16 ≤ 2 ^ 32

/-- Reads that move on, but not beyond the end. -/
structure Advances (m m' : NinePMessage) : Prop where
  data : m'.data = m.data
  forth : m.readOffset.toNat ≤ m'.readOffset.toNat
  inside : m'.readOffset.toNat ≤ max m.readOffset.toNat m.data.length

namespace Advances

variable {m m' m'' : NinePMessage} {widths : List Nat}

theorem low (advances : Advances m m') (low : Low m) : Low m' := by
  obtain ⟨data, forth, inside⟩ := advances
  unfold Low at low ⊢
  rw [data]
  omega

theorem trans (first : Advances m m') (next : Advances m' m'') : Advances m m'' := by
  obtain ⟨data, forth, inside⟩ := first
  obtain ⟨data', forth', inside'⟩ := next
  rw [data] at inside'
  exact ⟨data'.trans data, by omega, by omega⟩

private theorem offsets {size offset : Nat} (fits : size + 2 ^ 16 ≤ 2 ^ 32)
    (placed : offset + 2 ^ 16 ≤ 2 ^ 32) (short : ∀ width ∈ widths, width < 2 ^ 16) :
    UnwrappedAll size offset widths ∧ offset ≤ widths.foldl (offsetAfter size) offset ∧
      widths.foldl (offsetAfter size) offset ≤ max offset size := by
  induction widths generalizing offset with
  | nil => exact ⟨trivial, Nat.le_refl _, Nat.le_max_left _ _⟩
  | cons width widths ih =>
    have small := short width List.mem_cons_self
    have moved : offset ≤ offsetAfter size offset width ∧
        offsetAfter size offset width ≤ max offset size := by
      unfold offsetAfter
      split <;> omega
    obtain ⟨unwrapped, forth, inside⟩ := @ih (offsetAfter size offset width) (by omega)
      fun width member => short width (List.mem_cons_of_mem _ member)
    refine ⟨⟨.inl (by omega), unwrapped⟩, ?_, ?_⟩
    · exact moved.1.trans forth
    · rw [List.foldl_cons]
      omega

theorem of_reads (reads : Reads m widths m') (low : Low m)
    (short : ∀ width ∈ widths, width < 2 ^ 16) : Advances m m' := by
  obtain ⟨unwrapped, forth, inside⟩ := offsets low.1 low.2 short
  have offset := (reads.clean unwrapped).2
  rw [← offset] at forth inside
  exact ⟨reads.data, forth, inside⟩

end Advances

section Entry

variable {m : NinePMessage} (low : Low m)

include low

private theorem getU8_advances : Advances m (getU8 m).2 := by
  obtain ⟨data, -, offset⟩ := getU8_state (m := m) (by unfold Low at low; omega)
  unfold offsetAfter at offset
  exact ⟨data, by split at offset <;> omega, by split at offset <;> omega⟩

private theorem getU32_advances : Advances m (getU32 m).2 :=
  .of_reads (reads_getU32 (by unfold Low at low; omega)) low (by decide)

private theorem getU64_advances : Advances m (getU64 m).2 :=
  .of_reads (reads_getU64 (by unfold Low at low; omega)) low (by decide)

/-- A byte string is not longer than what is read for it. -/
private theorem getBytes_advances (length : UInt32) (short : length.toNat < 2 ^ 16) :
    Advances m (getBytes length m).2 ∧
      m.readOffset.toNat + (getBytes length m).1.length ≤
        (getBytes length m).2.readOffset.toNat := by
  have advances : Advances m (getBytes length m).2 :=
    .of_reads (reads_getBytes (by unfold Low at low; omega) length) low
      fun width member => List.mem_singleton.mp member ▸ short
  refine ⟨advances, ?_⟩
  by_cases stays : m.data.length < (m.readOffset + length).toNat
  · have run : getBytes length m = ([], m) := if_pos stays
    rw [run]
    exact Nat.le_refl _
  · have run : getBytes length m = ((m.data.drop m.readOffset.toNat).take length.toNat,
        m.advance length (m.data.length < m.readOffset.toNat + length.toNat)) := if_neg stays
    have taken := List.length_take_le length.toNat (m.data.drop m.readOffset.toNat)
    have offset : (m.readOffset + length).toNat = m.readOffset.toNat + length.toNat := by
      unfold Low at low
      rw [UInt32.toNat_add]
      omega
    rw [run]
    simp only [advance, offset]
    omega

/-- An entry moves on by the bytes of its name at least, and at all unless the end is reached. -/
theorem getDirEntry_advances : Advances m (getDirEntry m).2 ∧
    m.readOffset.toNat + (getDirEntry m).1.name.length ≤ (getDirEntry m).2.readOffset.toNat ∧
    (m.readOffset.toNat < m.data.length →
      m.readOffset.toNat < (getDirEntry m).2.readOffset.toNat) := by
  let kind := (getU8 m).2
  let version := (getU32 kind).2
  let path := (getU64 version).2
  let offset := (getU64 path).2
  let type := (getU8 offset).2
  let name := (getU16 type).2
  have first : Advances m kind := getU8_advances low
  have second : Advances kind version := getU32_advances (first.low low)
  have third : Advances version path := getU64_advances (second.low (first.low low))
  have qid := second.trans third
  have fourth : Advances path offset := getU64_advances (qid.low (first.low low))
  have fields := qid.trans fourth
  have fifth : Advances offset type := getU8_advances (fields.low (first.low low))
  have fields := fields.trans fifth
  have lowType := fields.low (first.low low)
  have sixth : Advances type name :=
    .of_reads (reads_getU16 (by unfold Low at lowType; omega)) lowType (by decide)
  have fields := fields.trans sixth
  obtain ⟨last, bytes⟩ := getBytes_advances (fields.low (first.low low))
    (getU16 type).1.toUInt32 (by rw [UInt16.toNat_toUInt32]; exact (getU16 type).1.toNat_lt)
  have run : (getDirEntry m).2 = (getBytes (getU16 type).1.toUInt32 name).2 ∧
      (getDirEntry m).1.name = (getBytes (getU16 type).1.toUInt32 name).1 := by
    unfold getDirEntry getString getQid
    simp only [bind_run, pure_run]
    exact ⟨rfl, rfl⟩
  have forth := (fields.trans last).forth
  rw [run.1, run.2]
  refine ⟨first.trans (fields.trans last), ?_, ?_⟩
  · have before := (first.trans fields).forth
    omega
  · -- the first byte is read in any case
    intro more
    have moved := (getU8_state (m := m) (by unfold Low at low; omega)).2.2
    rw [offsetAfter, if_pos (by omega)] at moved
    have start : kind.readOffset.toNat = m.readOffset.toNat + 1 := moved
    omega

/-- At the end of the payload every getter returns 0 and stays where it is. -/
theorem exhausted_of_ended (ended : m.data.length ≤ m.readOffset.toNat) : Exhausted m := by
  have u8 : getU8 m = (0, m) := if_pos ended
  have stays {width : UInt32} (some : 0 < width.toNat) (small : width.toNat < 2 ^ 16) :
      m.data.length < (m.readOffset + width).toNat := by
    unfold Low at low
    rw [UInt32.toNat_add]
    omega
  have u16 : getU16 m = (0, m) := if_pos (stays (by decide) (by decide))
  have u32 : getU32 m = (0, m) := if_pos (stays (by decide) (by decide))
  have bytes : getBytes (0 : UInt16).toUInt32 m = ([], m) := by
    have same : m.readOffset + (0 : UInt16).toUInt32 = m.readOffset := UInt32.add_zero _
    unfold getBytes
    rw [same]
    split
    · rfl
    · have fault : decide (m.data.length < m.readOffset.toNat + 0) = false :=
        decide_eq_false (by omega)
      have stands : m.advance (0 : UInt16).toUInt32
          (decide (m.data.length < m.readOffset.toNat + 0)) = m := by
        unfold advance
        rw [same, fault, Bool.or_false]
      exact congrArg (Prod.mk _) stands
  unfold Exhausted getDirEntry getString getQid getU64
  simp only [bind_run, pure_run, u8, u16, u32, bytes]
  rfl

end Entry

/-- Every entry of a payload has a byte of it at least, so it is read after so many of them. -/
theorem exists_exhausted {m : NinePMessage} (low : Low m) (left : Nat)
    (ends : m.data.length ≤ m.readOffset.toNat + left) :
    ∃ k ≤ left, Exhausted (behindEntries k m) ∧
      m.readOffset.toNat + sizesRead k m ≤ 24 * k + max m.readOffset.toNat m.data.length := by
  induction left generalizing m with
  | zero => exact ⟨0, Nat.le_refl 0, exhausted_of_ended low ends, by rw [sizesRead]; omega⟩
  | succ left ih =>
    obtain ⟨advances, name, moves⟩ := getDirEntry_advances low
    by_cases ended : m.data.length ≤ m.readOffset.toNat
    · exact ⟨0, Nat.zero_le _, exhausted_of_ended low ended, by rw [sizesRead]; omega⟩
    · have forth := moves (Nat.not_le.mp ended)
      have data := advances.data
      have inside := advances.inside
      obtain ⟨k, few, exhausted, sizes⟩ := ih (advances.low low)
        (by rw [data]; omega)
      rw [data] at sizes
      refine ⟨k + 1, Nat.succ_le_succ few, exhausted, ?_⟩
      rw [sizesRead, entrySize]
      omega

/-- The condition for a message of at most `2 ^ 27` bytes: the entries in its payload are summed
exactly, and the steps of 24 that follow them up to the count stay within 32 bits. -/
theorem sizesFit_of_moderate_iff {data : Bytes} (moderate : data.length ≤ 2 ^ 27) :
    ∃ k, Exhausted (behindEntries k (behindCount data)) ∧
      (SizesFit (readdirCount data) 0 (behindCount data) ↔
        (sizesRead k (behindCount data) < (readdirCount data).toNat →
          sizesRead k (behindCount data) +
            24 * (((readdirCount data).toNat - sizesRead k (behindCount data) + 23) / 24) <
              2 ^ 32)) := by
  have offset : (ofData data).readOffset.toNat = 7 := rfl
  have start : Low (ofData data) := by
    have size : (ofData data).data.length = data.length := rfl
    unfold Low
    omega
  have counted : Advances (ofData data) (behindCount data) := getU32_advances start
  have same : (behindCount data).data = data := counted.data
  have inside : (behindCount data).readOffset.toNat ≤ max 7 data.length := counted.inside
  obtain ⟨k, few, exhausted, sizes⟩ := exists_exhausted (counted.low start) (2 ^ 27)
    (by rw [same]; omega)
  rw [same] at sizes
  have steps := sizesFit_iff_steps (readdirCount data) 0 exhausted
    (by omega)
  rw [Nat.zero_add] at steps
  exact ⟨k, exhausted, steps⟩

/-! ### A count without entries -/

/-- An Rreaddir that announces `2 ^ 32 - 1` bytes of entries and has none. -/
def hugeRreaddir : Bytes := [11, 0, 0, 0, 41, 1, 0, 255, 255, 255, 255]

/-- From an exhausted buffer every round reads an empty entry and stays where it is. -/
private theorem hugeRreaddir_entry :
    getDirEntry (behindCount hugeRreaddir) = (⟨⟨0, 0, 0⟩, 0, 0, []⟩, behindCount hugeRreaddir) :=
  rfl

private theorem below_odd_count {bytesConsumed : UInt32} (aligned : bytesConsumed.toNat % 8 = 0) :
    bytesConsumed < 0xFFFFFFFF := by
  have bound := bytesConsumed.toNat_lt
  have count : (0xFFFFFFFF : UInt32).toNat = 2 ^ 32 - 1 := rfl
  rw [UInt32.lt_iff_toNat_lt, count]
  omega

/-- A sum of multiples of 24 stays a multiple of 8, also where it wraps, and never reaches the
count. -/
private theorem hugeRreaddir_goes_on (rounds : Nat) (bytesConsumed : UInt32)
    (aligned : bytesConsumed.toNat % 8 = 0) (entries : List DirEntry) :
    ¬ LoopEnds 0xFFFFFFFF rounds bytesConsumed entries (behindCount hugeRreaddir) := by
  induction rounds generalizing bytesConsumed entries with
  | zero => exact not_loopEnds_zero (below_odd_count aligned)
  | succ rounds ih =>
    rw [loopEnds_succ (below_odd_count aligned), hugeRreaddir_entry]
    apply ih
    have fixed : (13 + 8 + 1 + 2 + UInt32.ofNat 0 : UInt32).toNat = 24 := rfl
    change (bytesConsumed + (13 + 8 + 1 + 2 + UInt32.ofNat 0)).toNat % 8 = 0
    rw [UInt32.toNat_add, fixed]
    omega

/-- However long it runs, the loop does not end. -/
theorem hugeRreaddir_never_ends :
    (ofData hugeRreaddir).getType = MessageType.rreaddir.code ∧
      (∀ rounds, ¬ LoopEnds (readdirCount hugeRreaddir) rounds 0 [] (behindCount hugeRreaddir)) ∧
      ¬ EndsInTime hugeRreaddir [] := by
  have count : readdirCount hugeRreaddir = 0xFFFFFFFF := by decide
  have goesOn (rounds : Nat) :
      ¬ LoopEnds (readdirCount hugeRreaddir) rounds 0 [] (behindCount hugeRreaddir) := by
    rw [count]
    exact hugeRreaddir_goes_on rounds 0 rfl []
  exact ⟨by decide, goesOn, fun inTime => goesOn _ inTime.1⟩

end Virtio9p
