import Mathlib.Data.List.Basic

/-!
# Decimal numerals

A number as a row of digits, and the number that a row of digits stands for. A numeral that is cut
short stands for a smaller number, but for 0 only if the whole did.
-/
namespace Decimal

def digit (d : Nat) : UInt8 := UInt8.ofNat (48 + d)

def isDigit (c : UInt8) : Bool := 48 ≤ c && c ≤ 57

def numeral (n : Nat) : List UInt8 := (Nat.toDigits 10 n).map fun c => UInt8.ofNat c.toNat

/-- Read on, behind digits that stand for `v`. -/
def valueFrom (v : Nat) (text : List UInt8) : Nat :=
  text.foldl (fun v c => 10 * v + (c.toNat - 48)) v

def value (text : List UInt8) : Nat := valueFrom 0 text

theorem digitChar_toNat {d : Nat} (small : d < 10) : UInt8.ofNat d.digitChar.toNat = digit d := by
  revert d
  decide

theorem numeral_small {n : Nat} (small : n < 10) : numeral n = [digit n] := by
  rw [numeral, Nat.toDigits_of_lt_base small, List.map_singleton, digitChar_toNat small]

theorem numeral_step {n : Nat} (large : 10 ≤ n) :
    numeral n = numeral (n / 10) ++ [digit (n % 10)] := by
  rw [numeral, Nat.toDigits_of_base_le (by decide) large, List.map_append, List.map_singleton,
    digitChar_toNat (Nat.mod_lt n (by decide))]
  rfl

theorem digit_isDigit {d : Nat} (small : d < 10) : isDigit (digit d) = true := by
  revert d
  decide

theorem digit_value {d : Nat} (small : d < 10) : (digit d).toNat - 48 = d := by
  revert d
  decide

theorem isDigit_numeral {n : Nat} : ∀ c ∈ numeral n, isDigit c = true := by
  induction n using Nat.strongRecOn with
  | ind n ih =>
    intro c member
    by_cases small : n < 10
    · rw [numeral_small small, List.mem_singleton] at member
      rw [member]
      exact digit_isDigit small
    · rw [numeral_step (Nat.le_of_not_lt small), List.mem_append, List.mem_singleton] at member
      rcases member with front | last
      · exact ih (n / 10) (by omega) c front
      · rw [last]
        exact digit_isDigit (Nat.mod_lt n (by decide))

theorem valueFrom_append (v : Nat) (text later : List UInt8) :
    valueFrom v (text ++ later) = valueFrom (valueFrom v text) later := List.foldl_append

theorem value_numeral (n : Nat) : value (numeral n) = n := by
  induction n using Nat.strongRecOn with
  | ind n ih =>
    by_cases small : n < 10
    · rw [numeral_small small]
      change 10 * 0 + ((digit n).toNat - 48) = n
      rw [digit_value small, Nat.mul_zero, Nat.zero_add]
    · have front : value (numeral (n / 10)) = n / 10 := ih (n / 10) (by omega)
      rw [numeral_step (Nat.le_of_not_lt small), value, valueFrom_append]
      change 10 * value (numeral (n / 10)) + ((digit (n % 10)).toNat - 48) = n
      rw [front, digit_value (Nat.mod_lt n (by decide))]
      exact Nat.div_add_mod n 10

/-! ### Numerals that are cut short -/

theorem le_valueFrom (v : Nat) (text : List UInt8) : v ≤ valueFrom v text := by
  induction text generalizing v with
  | nil => exact Nat.le_refl v
  | cons c text ih =>
    have longer := ih (10 * v + (c.toNat - 48))
    change v ≤ valueFrom (10 * v + (c.toNat - 48)) text
    omega

theorem value_le_of_cut {n : Nat} {text : List UInt8} (cut : text <+: numeral n) :
    value text ≤ n := by
  obtain ⟨later, whole⟩ := cut
  calc value text
      ≤ valueFrom (value text) later := le_valueFrom _ _
    _ = value (text ++ later) := (valueFrom_append 0 text later).symm
    _ = n := by rw [whole, value_numeral]

/-- A numeral begins with the digit 0 only if it stands for 0. -/
theorem numeral_head {n : Nat} (positive : 0 < n) :
    ∃ d rest, 0 < d ∧ d < 10 ∧ numeral n = digit d :: rest := by
  induction n using Nat.strongRecOn with
  | ind n ih =>
    by_cases small : n < 10
    · exact ⟨n, [], positive, small, numeral_small small⟩
    · obtain ⟨d, rest, first, lt, shape⟩ := ih (n / 10) (by omega) (by omega)
      refine ⟨d, rest ++ [digit (n % 10)], first, lt, ?_⟩
      rw [numeral_step (Nat.le_of_not_lt small), shape, List.cons_append]

theorem value_pos_of_cut {n : Nat} {text : List UInt8} (positive : 0 < n)
    (cut : text <+: numeral n) (some : text ≠ []) : 0 < value text := by
  obtain ⟨d, rest, first, lt, shape⟩ := numeral_head positive
  cases text with
  | nil => exact absurd rfl some
  | cons c text =>
    rw [shape] at cut
    obtain ⟨rfl, -⟩ := List.cons_prefix_cons.mp cut
    have begun : 10 * 0 + ((digit d).toNat - 48) = d := by
      rw [digit_value lt, Nat.mul_zero, Nat.zero_add]
    calc 0 < d := first
      _ = 10 * 0 + ((digit d).toNat - 48) := begun.symm
      _ ≤ value (digit d :: text) := le_valueFrom _ _

end Decimal
