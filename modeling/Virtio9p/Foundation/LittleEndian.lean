import Mathlib.Data.Nat.Bitwise
import Mathlib.Tactic.Ring

/-!
# Little-endian words

Numbers as byte strings of a fixed width, least significant byte first. `encode`
and `decode` are mutually inverse on values that fit the width. The last section
ties the shift-and-mask code that programs use for 16-, 32- and 64-bit words to
these two functions.
-/
namespace LittleEndian

/-- The `width` low-order bytes of `n`. -/
def encode : Nat → Nat → List UInt8
  | 0, _ => []
  | width + 1, n => UInt8.ofNat n :: encode width (n / 256)

/-- The number a byte string stands for. -/
def decode : List UInt8 → Nat
  | [] => 0
  | b :: bs => b.toNat + 256 * decode bs

@[simp] theorem encode_length (width n : Nat) : (encode width n).length = width := by
  induction width generalizing n with
  | zero => rfl
  | succ width ih => simp [encode, ih]

theorem decode_lt (bs : List UInt8) : decode bs < 256 ^ bs.length := by
  induction bs with
  | nil => simp [decode]
  | cons b bs ih =>
    have hb := b.toNat_lt
    simp only [decode, List.length_cons, Nat.pow_succ]
    omega

theorem decode_encode (width n : Nat) : decode (encode width n) = n % 256 ^ width := by
  induction width generalizing n with
  | zero => simp [encode, decode, Nat.mod_one]
  | succ width ih =>
    rw [encode, decode, ih, UInt8.toNat_ofNat', Nat.pow_succ 256 width,
      Nat.mul_comm (256 ^ width) 256, Nat.mod_mul]

theorem decode_encode_of_lt {width n : Nat} (h : n < 256 ^ width) :
    decode (encode width n) = n := by
  rw [decode_encode, Nat.mod_eq_of_lt h]

theorem encode_decode (bs : List UInt8) : encode bs.length (decode bs) = bs := by
  induction bs with
  | nil => rfl
  | cons b bs ih =>
    have hb := b.toNat_lt
    have low : UInt8.ofNat (b.toNat + 256 * decode bs) = b := by
      apply UInt8.toNat_inj.mp
      rw [UInt8.toNat_ofNat']
      omega
    have high : (b.toNat + 256 * decode bs) / 256 = decode bs := by omega
    simp only [List.length_cons, encode, decode, low, high, ih]

/-- A byte string of the right width encodes exactly one number. -/
theorem eq_encode_iff {width n : Nat} (h : n < 256 ^ width) (bs : List UInt8) :
    bs = encode width n ↔ bs.length = width ∧ decode bs = n := by
  constructor
  · rintro rfl
    exact ⟨encode_length width n, decode_encode_of_lt h⟩
  · rintro ⟨rfl, rfl⟩
    exact (encode_decode bs).symm

/-! ### Shift-and-mask code -/

private theorem or_shiftLeft_add {low : Nat} {s : Nat} (h : low < 2 ^ s) (high : Nat) :
    low ||| high <<< s = low + 2 ^ s * high := by
  rw [Nat.or_comm, ← Nat.shiftLeft_add_eq_or_of_lt h, Nat.shiftLeft_eq]
  ring

private theorem and_byte (n : Nat) : n &&& 255 = n % 256 := by
  have mask := Nat.and_two_pow_sub_one_eq_mod n 8
  norm_num at mask
  exact mask

private theorem and_word (n : Nat) : n &&& 4294967295 = n % 4294967296 := by
  have mask := Nat.and_two_pow_sub_one_eq_mod n 32
  norm_num at mask
  exact mask

/-- The two bytes that `v & 0xFF, (v >> 8) & 0xFF` leaves. -/
theorem encode_uint16 (v : UInt16) :
    [(v &&& 0xFF).toUInt8, ((v >>> 8) &&& 0xFF).toUInt8] = encode 2 v.toNat := by
  simp only [encode, List.cons.injEq, and_true]
  refine ⟨?_, ?_⟩ <;> apply UInt8.toNat_inj.mp <;>
    simp [and_byte, Nat.shiftRight_eq_div_pow]

/-- The four bytes that masking `v` after shifts by 0, 8, 16 and 24 leaves. -/
theorem encode_uint32 (v : UInt32) :
    [(v &&& 0xFF).toUInt8, ((v >>> 8) &&& 0xFF).toUInt8,
      ((v >>> 16) &&& 0xFF).toUInt8, ((v >>> 24) &&& 0xFF).toUInt8] = encode 4 v.toNat := by
  simp only [encode, List.cons.injEq, and_true]
  refine ⟨?_, ?_, ?_, ?_⟩ <;> apply UInt8.toNat_inj.mp <;>
    simp [and_byte, Nat.shiftRight_eq_div_pow, Nat.div_div_eq_div_mul]

/-- A 64-bit word is its two 32-bit halves, the low half first. -/
theorem encode_uint64 (v : UInt64) :
    encode 4 (v &&& 0xFFFFFFFF).toUInt32.toNat ++
      encode 4 ((v >>> 32) &&& 0xFFFFFFFF).toUInt32.toNat = encode 8 v.toNat := by
  have bound : v.toNat < 18446744073709551616 := v.toNat_lt
  have low : (v &&& 0xFFFFFFFF).toUInt32.toNat = v.toNat % 4294967296 := by
    simp [and_word]
  have high : ((v >>> 32) &&& 0xFFFFFFFF).toUInt32.toNat = v.toNat / 4294967296 := by
    simp [Nat.shiftRight_eq_div_pow, and_word]
    omega
  rw [low, high]
  refine (eq_encode_iff (by norm_num; exact bound) _).mpr ⟨by simp, ?_⟩
  simp only [encode, decode, List.cons_append, List.nil_append, UInt8.toNat_ofNat']
  omega

theorem decode_uint16 (b₀ b₁ : UInt8) :
    (b₀.toUInt16 ||| (b₁.toUInt16 <<< 8)).toNat = decode [b₀, b₁] := by
  have h₀ := b₀.toNat_lt
  have h₁ := b₁.toNat_lt
  have s₁ : b₁.toNat <<< 8 % 65536 = b₁.toNat <<< 8 := by rw [Nat.shiftLeft_eq]; omega
  simp [decode, s₁, or_shiftLeft_add h₀]

theorem decode_uint32 (b₀ b₁ b₂ b₃ : UInt8) :
    (b₀.toUInt32 ||| (b₁.toUInt32 <<< 8) ||| (b₂.toUInt32 <<< 16) |||
      (b₃.toUInt32 <<< 24)).toNat = decode [b₀, b₁, b₂, b₃] := by
  have h₀ := b₀.toNat_lt
  have h₁ := b₁.toNat_lt
  have h₂ := b₂.toNat_lt
  have h₃ := b₃.toNat_lt
  have s₁ : b₁.toNat <<< 8 % 4294967296 = b₁.toNat <<< 8 := by rw [Nat.shiftLeft_eq]; omega
  have s₂ : b₂.toNat <<< 16 % 4294967296 = b₂.toNat <<< 16 := by rw [Nat.shiftLeft_eq]; omega
  have s₃ : b₃.toNat <<< 24 % 4294967296 = b₃.toNat <<< 24 := by rw [Nat.shiftLeft_eq]; omega
  simp only [UInt32.toNat_or, UInt32.toNat_shiftLeft, UInt8.toNat_toUInt32, decode,
    UInt32.reduceToNat, Nat.reduceMod, Nat.reducePow, s₁, s₂, s₃]
  rw [or_shiftLeft_add h₀, or_shiftLeft_add (s := 16) (by omega),
    or_shiftLeft_add (s := 24) (by omega)]
  omega

theorem decode_uint64 (low high : UInt32) :
    (low.toUInt64 ||| (high.toUInt64 <<< 32)).toNat = low.toNat + 256 ^ 4 * high.toNat := by
  have hl := low.toNat_lt
  have hh := high.toNat_lt
  have s₁ : high.toNat <<< 32 % 18446744073709551616 = high.toNat <<< 32 := by
    rw [Nat.shiftLeft_eq]
    omega
  simp [s₁, or_shiftLeft_add hl]

theorem decode_append (xs ys : List UInt8) :
    decode (xs ++ ys) = decode xs + 256 ^ xs.length * decode ys := by
  induction xs with
  | nil => simp [decode]
  | cons b xs ih =>
    simp only [List.cons_append, decode, ih, List.length_cons, Nat.pow_succ]
    ring

end LittleEndian
