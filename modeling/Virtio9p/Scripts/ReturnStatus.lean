import Mathlib.Data.List.DropRight
import Virtio9p.Scripts.Launch

/-!
# The status in returncode.log

What `exit` makes of the digits that the guest wrote, all of them or only the first ones.
-/
namespace Virtio9p

open Decimal

theorem digit_bounds {c : UInt8} (digit : isDigit c = true) : 48 ≤ c.toNat ∧ c.toNat ≤ 57 := by
  simp only [isDigit, Bool.and_eq_true, decide_eq_true_eq, UInt8.le_iff_toNat_le] at digit
  exact digit

theorem digit_not_space {c : UInt8} (digit : isDigit c = true) : isSpace c = false := by
  have bounds := digit_bounds digit
  simp only [isSpace, decide_eq_false_iff_not, ← UInt8.toNat_inj, UInt8.le_iff_toNat_le]
  simp only [UInt8.toNat_ofNat]
  omega

theorem digit_ne {c d : UInt8} (digit : isDigit c = true) (below : d.toNat < 48) : c ≠ d := by
  rintro rfl
  have bounds := digit_bounds digit
  omega

/-- Nothing is cut off behind digits. -/
theorem rdropWhile_digits {p : UInt8 → Bool} {text : Bytes} (digits : ∀ c ∈ text, isDigit c = true)
    (others : ∀ c, isDigit c = true → p c = false) : text.rdropWhile p = text := by
  rw [List.rdropWhile_eq_self_iff]
  intro some
  rw [others _ (digits _ (List.getLast_mem some))]
  exact Bool.false_ne_true

theorem commandOutput_digits {text : Bytes} (digits : ∀ c ∈ text, isDigit c = true) :
    commandOutput text = text :=
  rdropWhile_digits digits fun _ digit => decide_eq_false (digit_ne digit (by decide))

theorem signed_digits {text : Bytes} (digits : ∀ c ∈ text, isDigit c = true) :
    signed text = (false, text) := by
  cases text with
  | nil => rfl
  | cons c text =>
    have minus : c ≠ 45 := digit_ne (digits c List.mem_cons_self) (by decide)
    have plus : c ≠ 43 := digit_ne (digits c List.mem_cons_self) (by decide)
    unfold signed
    split <;> simp_all

theorem legalNumber_digits {text : Bytes} (digits : ∀ c ∈ text, isDigit c = true)
    (proper : text ≠ []) (small : value text < 256) :
    legalNumber text = some (value text : Int) := by
  have blanks : text.dropWhile isSpace = text := by
    cases text with
    | nil => rfl
    | cons c text =>
      exact List.dropWhile_cons_of_neg (by simp [digit_not_space (digits c List.mem_cons_self)])
  have behind : text.rdropWhile (fun c => c = 32 ∨ c = 9) = text := by
    refine rdropWhile_digits digits fun c digit => decide_eq_false ?_
    rintro (blank | tab)
    · exact digit_ne digit (by decide) blank
    · exact digit_ne digit (by decide) tab
  unfold legalNumber
  simp only [blanks, behind, signed_digits digits]
  rw [if_neg Bool.false_ne_true, if_pos]
  refine ⟨proper, List.all_eq_true.mpr digits, ?_, ?_⟩
  · omega
  · omega

theorem exitWord_digits {text : Bytes} (digits : ∀ c ∈ text, isDigit c = true) (proper : text ≠ [])
    (small : value text < 256) : (exitWord text).toNat = value text := by
  rw [exitWord, legalNumber_digits digits proper small]
  simp only
  have status : ((value text : Int) % 256).toNat = value text := by omega
  rw [status, UInt8.toNat_ofNat_of_lt' small]

/-- The whole text stands for the status that was written. -/
theorem returnStatus_numeral (status : UInt8) :
    returnStatus (numeral status.toNat ++ [10]) = status := by
  have digits : ∀ c ∈ numeral status.toNat, isDigit c = true := isDigit_numeral
  have output : commandOutput (numeral status.toNat ++ [10]) = numeral status.toNat := by
    rw [commandOutput, List.rdropWhile_concat_pos _ _ _ (by decide)]
    exact commandOutput_digits digits
  have proper : numeral status.toNat ≠ [] := by
    simp [numeral, Nat.toDigits_ne_nil]
  rw [returnStatus]
  simp only [output]
  rw [if_neg proper, ← UInt8.toNat_inj, exitWord_digits digits proper]
  · exact value_numeral status.toNat
  · rw [value_numeral]
    exact status.toNat_lt

/-- A text that was cut short stands for 0 only if the whole does. -/
theorem status_zero_of_cut {status : UInt8} {text : Bytes}
    (cut : text <+: numeral status.toNat ++ [10]) (zero : returnStatus text = 0) : status = 0 := by
  rcases List.prefix_concat_iff.mp cut with whole | cut
  · rw [whole, returnStatus_numeral] at zero
    exact zero
  · have digits : ∀ c ∈ text, isDigit c = true :=
      fun c member => isDigit_numeral c (cut.subset member)
    have small : value text < 256 := Nat.lt_of_le_of_lt (value_le_of_cut cut) status.toNat_lt
    rw [returnStatus] at zero
    simp only [commandOutput_digits digits] at zero
    split_ifs at zero with empty
    · exact absurd zero (by decide)
    · by_contra failed
      have positive : 0 < status.toNat := Nat.pos_of_ne_zero fun same =>
        failed (UInt8.toNat_inj.mp same)
      have nonzero := value_pos_of_cut positive cut empty
      have exits := exitWord_digits digits empty small
      rw [zero] at exits
      exact absurd exits.symm (Nat.pos_iff_ne_zero.mp nonzero)

end Virtio9p
