import Virtio9p.Foundation.Machine
import Virtio9p.Properties.Truncation
import Virtio9p.Protocol.Bounds

/-!
# The decoder helpers stay inside the buffer

In every sequence of decoder calls, nothing outside the buffer is read, the read offset stays
inside and byte strings come whole or not at all, exactly as long as no sum of read offset and
length wraps to a value inside the buffer.
-/
namespace Virtio9p

open NinePMessage

inductive DecoderCall where
  | getU8
  | getU16
  | getU32
  | getU64
  | getString
  | getBytes (length : UInt32)
  | getQid
  | resetReadOffset
  deriving DecidableEq, Repr

/-- What a decoder call returns. -/
inductive Decoded where
  | nothing
  | u8 (v : UInt8)
  | u16 (v : UInt16)
  | u32 (v : UInt32)
  | u64 (v : UInt64)
  | bytes (v : Bytes)
  | qid (q : Qid)
  deriving DecidableEq, Repr

def DecoderCall.perform : DecoderCall → Decoder Decoded
  | getU8 => Decoded.u8 <$> Virtio9p.getU8
  | getU16 => Decoded.u16 <$> Virtio9p.getU16
  | getU32 => Decoded.u32 <$> Virtio9p.getU32
  | getU64 => Decoded.u64 <$> Virtio9p.getU64
  | getString => Decoded.bytes <$> Virtio9p.getString
  | getBytes length => Decoded.bytes <$> Virtio9p.getBytes length
  | getQid => Decoded.qid <$> Virtio9p.getQid
  | resetReadOffset => (fun _ => .nothing) <$> Virtio9p.resetReadOffset

/-- Calls on one message. -/
def decoder : Machine DecoderCall Decoded NinePMessage where
  step call m := call.perform m

/-- Start and length of the bytes that a call asks for; those of a string stand behind its
16-bit length. -/
def DecoderCall.asks (m : NinePMessage) : DecoderCall → Option (Nat × Nat)
  | getBytes length => some (m.readOffset.toNat, length.toNat)
  | getString => some (m.readOffset.toNat + 2, word 2 (m.data.drop m.readOffset.toNat))
  | _ => none

/-- A call that reads inside the buffer and returns what it asks for whole or not at all. -/
structure CallSafe (call : DecoderCall) (m : NinePMessage) : Prop where
  inside : (call.perform m).2.fault = false
  within : 7 ≤ m.data.length → (call.perform m).2.readOffset.toNat ≤ m.data.length
  whole : ∀ start length, call.asks m = some (start, length) →
    (call.perform m).1 = .bytes [] ∨ start + length ≤ m.data.length ∧
      (call.perform m).1 = .bytes ((m.data.drop start).take length)

/-- No sum of read offset and length wraps to a value inside the buffer. -/
def NoWrap (call : DecoderCall) (m : NinePMessage) : Prop :=
  let size := m.data.length
  let offset := m.readOffset.toNat
  match call with
  | .getU16 => Unwrapped size offset 2
  | .getU32 => Unwrapped size offset 4
  | .getU64 => UnwrappedAll size offset [4, 4]
  | .getString =>
    Unwrapped size offset 2 ∧
      (offset + 2 ≤ size → Unwrapped size (offset + 2) (word 2 (m.data.drop offset)))
  | .getBytes length => Unwrapped size offset length.toNat
  -- the type byte is read without a sum
  | .getQid => UnwrappedAll size (offsetAfter size offset 1) [4, 4, 4]
  | .getU8 | .resetReadOffset => True

/-- A message whose decoder calls were all safe so far. -/
structure Unharmed (m : NinePMessage) : Prop where
  small : m.data.length < 2 ^ 32
  clean : m.fault = false
  within : 7 ≤ m.data.length → m.readOffset.toNat ≤ m.data.length

section Calls

variable {m m' : NinePMessage} (unharmed : Unharmed m)

include unharmed

/-- A call that returns no bytes is safe exactly if its reads do not wrap. -/
private theorem reads_safe_iff {widths : List Nat} (reads : Reads m widths m') :
    m'.fault = false ∧ (7 ≤ m.data.length → m'.readOffset.toNat ≤ m.data.length) ↔
      UnwrappedAll m.data.length m.readOffset.toNat widths := by
  constructor
  · rintro ⟨clean, -⟩
    by_contra wrapped
    rw [reads.overrun wrapped] at clean
    cases clean
  · intro unwrapped
    obtain ⟨fault, offset⟩ := reads.clean unwrapped
    rw [fault, offset]
    exact ⟨unharmed.clean, fun long => offsetAfter_all_le (unharmed.within long) widths⟩

omit unharmed in
private theorem callSafe_plain {call : DecoderCall} (plain : call.asks m = none) :
    CallSafe call m ↔ (call.perform m).2.fault = false ∧
      (7 ≤ m.data.length → (call.perform m).2.readOffset.toNat ≤ m.data.length) := by
  constructor
  · intro safe
    exact ⟨safe.inside, safe.within⟩
  · rintro ⟨inside, within⟩
    refine ⟨inside, within, ?_⟩
    rw [plain]
    rintro start length ⟨⟩

omit unharmed in
private theorem unwrappedAll_one {size offset width : Nat} :
    UnwrappedAll size offset [width] ↔ Unwrapped size offset width := and_iff_left trivial

omit unharmed in
private theorem getBytes_value {length : UInt32}
    (unwrapped : Unwrapped m.data.length m.readOffset.toNat length.toNat) :
    (getBytes length m).1 = [] ∨ m.readOffset.toNat + length.toNat ≤ m.data.length ∧
      (getBytes length m).1 = (m.data.drop m.readOffset.toNat).take length.toNat := by
  have offset := m.readOffset.toNat_lt
  have bound := length.toNat_lt
  unfold getBytes
  by_cases stays : m.data.length < (m.readOffset + length).toNat
  · rw [if_pos stays]
    exact .inl rfl
  · rw [if_neg stays]
    refine .inr ⟨?_, rfl⟩
    -- without a wrap the check compares the true sum
    unfold Unwrapped at unwrapped
    rw [UInt32.toNat_add] at stays
    omega

private theorem getBytes_safe_iff (length : UInt32) :
    CallSafe (.getBytes length) m ↔ NoWrap (.getBytes length) m := by
  have reads := reads_safe_iff unharmed (reads_getBytes unharmed.small length)
  rw [unwrappedAll_one] at reads
  constructor
  · intro safe
    exact reads.mp ⟨safe.inside, safe.within⟩
  · intro unwrapped
    obtain ⟨inside, within⟩ := reads.mpr unwrapped
    refine ⟨inside, within, ?_⟩
    rintro start size ⟨⟩
    have value : (DecoderCall.perform (.getBytes length) m).1 = .bytes (getBytes length m).1 := rfl
    rw [value]
    exact (getBytes_value unwrapped).imp (congrArg Decoded.bytes)
      (And.imp_right (congrArg Decoded.bytes))

private theorem getU16_value (enough : m.readOffset.toNat + 2 ≤ m.data.length) :
    (getU16 m).1.toNat = word 2 (m.data.drop m.readOffset.toNat) := by
  obtain ⟨v, rest, unread, value⟩ := split_u16 (p := m.data.drop m.readOffset.toNat) (by
    rw [List.length_drop]
    omega)
  obtain ⟨m', run, -⟩ := consumes_getU16 v m rest ⟨unharmed.small, by omega, unharmed.clean⟩ unread
  rw [run, value]

omit unharmed in
private theorem getU16_short (unwrapped : Unwrapped m.data.length m.readOffset.toNat 2)
    (short : ¬ m.readOffset.toNat + 2 ≤ m.data.length) : getU16 m = (0, m) := by
  have two : (2 : UInt32).toNat = 2 := rfl
  have offset := m.readOffset.toNat_lt
  have stays : m.data.length < (m.readOffset + 2).toNat := by
    unfold Unwrapped at unwrapped
    rw [UInt32.toNat_add, two]
    omega
  rw [getU16, if_pos stays]

private theorem getString_safe_iff : CallSafe .getString m ↔ NoWrap .getString m := by
  have length := reads_getU16 unharmed.small
  have behind : (getU16 m).2.data.length < 2 ^ 32 := by
    rw [length.data]
    exact unharmed.small
  have reads := reads_safe_iff unharmed
    (length.append (reads_getBytes behind (getU16 m).1.toUInt32))
  have value : (DecoderCall.perform .getString m).1 =
      .bytes (getBytes (getU16 m).1.toUInt32 (getU16 m).2).1 := rfl
  have announced (enough : m.readOffset.toNat + 2 ≤ m.data.length) :
      (getU16 m).1.toUInt32.toNat = word 2 (m.data.drop m.readOffset.toNat) := by
    rw [UInt16.toNat_toUInt32, getU16_value unharmed enough]
  constructor
  · intro safe
    obtain ⟨first, second, -⟩ := reads.mp ⟨safe.inside, safe.within⟩
    refine ⟨first, fun enough => ?_⟩
    rw [offsetAfter, if_pos enough, announced enough] at second
    exact second
  · rintro ⟨first, second⟩
    by_cases enough : m.readOffset.toNat + 2 ≤ m.data.length
    · have moved := (length.clean ⟨first, trivial⟩).2
      rw [List.foldl_cons, List.foldl_nil, offsetAfter, if_pos enough] at moved
      have unwrapped : Unwrapped (getU16 m).2.data.length (getU16 m).2.readOffset.toNat
          (getU16 m).1.toUInt32.toNat := by
        rw [length.data, moved, announced enough]
        exact second enough
      obtain ⟨inside, within⟩ := reads.mpr (by
        rw [length.data, moved] at unwrapped
        refine ⟨first, ?_, trivial⟩
        rw [offsetAfter, if_pos enough]
        exact unwrapped)
      refine ⟨inside, within, ?_⟩
      rintro start size ⟨⟩
      have bytes := getBytes_value unwrapped
      rw [length.data, moved, announced enough] at bytes
      rw [value]
      exact bytes.imp (congrArg Decoded.bytes) (And.imp_right (congrArg Decoded.bytes))
    · -- without its length a string is empty
      have short := getU16_short first enough
      have offset := m.readOffset.toNat_lt
      have nothing : Unwrapped m.data.length m.readOffset.toNat (0 : UInt16).toUInt32.toNat :=
        .inl (by simpa using offset)
      obtain ⟨inside, within⟩ := reads.mpr (by
        refine ⟨first, ?_, trivial⟩
        rw [offsetAfter, if_neg enough, short]
        exact nothing)
      refine ⟨inside, within, fun start size asks => .inl ?_⟩
      rw [value, short]
      rcases getBytes_value nothing with empty | ⟨-, bytes⟩
      · rw [empty]
      · rw [bytes]
        rfl

/-- A call is safe exactly if nothing wraps. -/
theorem callSafe_iff (call : DecoderCall) : CallSafe call m ↔ NoWrap call m := by
  have small := unharmed.small
  obtain ⟨data, fault, offset⟩ := getU8_state small
  have within : 7 ≤ m.data.length → (getU8 m).2.readOffset.toNat ≤ m.data.length := by
    intro long
    rw [offset]
    exact offsetAfter_le (unharmed.within long) 1
  cases call with
  | getU8 =>
    refine iff_of_true ((callSafe_plain rfl).mpr ⟨?_, within⟩) trivial
    exact fault.trans unharmed.clean
  | getU16 =>
    exact (callSafe_plain rfl).trans
      ((reads_safe_iff unharmed (reads_getU16 small)).trans unwrappedAll_one)
  | getU32 =>
    exact (callSafe_plain rfl).trans
      ((reads_safe_iff unharmed (reads_getU32 small)).trans unwrappedAll_one)
  | getU64 =>
    exact (callSafe_plain rfl).trans (reads_safe_iff unharmed (reads_getU64 small))
  | getString => exact getString_safe_iff unharmed
  | getBytes length => exact getBytes_safe_iff unharmed length
  | getQid =>
    -- the type byte first, then version and path
    have typed : Unharmed (getU8 m).2 :=
      ⟨by rw [data]; exact small, fault.trans unharmed.clean, by rw [data]; exact within⟩
    have version := reads_getU32 typed.small
    have path := version.append (reads_getU64 (by rw [version.data]; exact typed.small))
    have safe := reads_safe_iff typed path
    rw [data, offset] at safe
    have state : (DecoderCall.perform .getQid m).2 = (getU64 (getU32 (getU8 m).2).2).2 := by
      rw [DecoderCall.perform, map_run, getQid_state]
    rw [callSafe_plain rfl, state]
    exact safe
  | resetReadOffset =>
    refine iff_of_true ((callSafe_plain rfl).mpr ⟨unharmed.clean, ?_⟩) trivial
    intro long
    have start : (DecoderCall.perform .resetReadOffset m).2.readOffset.toNat = 7 := rfl
    rw [start]
    exact long

omit unharmed in
private theorem perform_data (small : m.data.length < 2 ^ 32) (call : DecoderCall) :
    (call.perform m).2.data = m.data := by
  obtain ⟨typed, -⟩ := getU8_state small
  cases call with
  | getU8 => exact typed
  | getU16 => exact (reads_getU16 small).data
  | getU32 => exact (reads_getU32 small).data
  | getU64 => exact (reads_getU64 small).data
  | getString =>
    have length := reads_getU16 small
    have behind : (getU16 m).2.data.length < 2 ^ 32 := by
      rw [length.data]
      exact small
    exact (reads_getBytes behind _).data.trans length.data
  | getBytes length => exact (reads_getBytes small length).data
  | getQid =>
    rw [DecoderCall.perform, map_run, getQid_state]
    have version := reads_getU32 (m := (getU8 m).2) (by rw [typed]; exact small)
    have path := reads_getU64 (m := (getU32 (getU8 m).2).2)
      (by rw [version.data, typed]; exact small)
    exact path.data.trans (version.data.trans typed)
  | resetReadOffset => rfl

/-- After a safe call the next one starts inside the buffer again. -/
theorem unharmed_step {call : DecoderCall} (safe : CallSafe call m) :
    Unharmed (call.perform m).2 := by
  have data := perform_data unharmed.small call
  refine ⟨by rw [data]; exact unharmed.small, safe.inside, ?_⟩
  rw [data]
  exact safe.within

end Calls

/-- Every call of a sequence is safe exactly if in none of them the sum of read offset and
length wraps to a value inside the buffer. -/
theorem decoderCalls_safe_iff (data : Bytes) (small : data.length < 2 ^ 32)
    (calls : List DecoderCall) :
    decoder.Meets CallSafe calls (ofData data) ↔ decoder.Meets NoWrap calls (ofData data) :=
  Machine.meets_congr (fun call _ unharmed => callSafe_iff unharmed call)
    (fun _ _ unharmed safe => unharmed_step unharmed safe) calls
    (Unharmed.mk small rfl fun long => long)

/-- The header, a length of 4 and four bytes. -/
def fourBytes : Bytes := [15, 0, 0, 0, 117, 1, 0, 4, 0, 0, 0, 1, 2, 3, 4]

/-- Four bytes are asked for twice, and are there once. -/
theorem decoderCalls_safe_iff_fourBytes :
    decoder.Meets CallSafe [.getU32, .getBytes 4, .getBytes 4] (ofData fourBytes) ↔
      decoder.Meets NoWrap [.getU32, .getBytes 4, .getBytes 4] (ofData fourBytes) :=
  decoderCalls_safe_iff fourBytes (by decide) _

/-- An Rread that announces `2 ^ 32 - 1` bytes and has none. -/
def hugeRread : Bytes := [11, 0, 0, 0, 117, 1, 0, 255, 255, 255, 255]

/-- The calls of `ParseRread`: 11 and the count add up to 10, and the copy starts. -/
theorem hugeRread_overruns : hugeRread.length < 2 ^ 32 ∧
    ¬ decoder.Meets CallSafe [.resetReadOffset, .getU32, .getBytes 0xFFFFFFFF]
      (ofData hugeRread) := by
  refine ⟨by decide, ?_⟩
  rintro ⟨-, -, copied, -⟩
  exact absurd copied.inside (by decide)

end Virtio9p
