import Mathlib.Algebra.GroupWithZero.Nat
import Gamebook.Text.Numeral

/-!
Numbers as they are written are read back.
-/

namespace Gamebook.Text

variable {c : Char} {digits : Text}

theorem digit?_of_isDigit (decimal : c.isDigit = true) :
    digit? c = some (c.toNat - '0'.toNat) := by
  have bounds := Char.isDigit_iff_toNat.mp decimal
  have first : (48 ≤ c.toNat && c.toNat < 48 + 10) = true := by
    simp only [Bool.and_eq_true, decide_eq_true_eq]
    simp at bounds
    omega
  have found : digitZeros.find? (fun first => first ≤ c.toNat && c.toNat < first + 10) = some 48 :=
    List.find?_cons_of_pos first
  rw [digit?, found]
  rfl

theorem digitsValue_eq (decimal : ∀ c ∈ digits, c.isDigit = true) (value : Nat) :
    digits.foldl (fun value c => 10 * value + (digit? c).getD 0) value =
      Nat.ofDigitChars 10 digits value := by
  induction digits generalizing value with
  | nil => simp
  | cons c digits ih =>
      rw [List.foldl_cons, Nat.ofDigitChars_cons, digit?_of_isDigit (decimal c (by simp)),
        Option.getD_some]
      exact ih (fun other member => decimal other (.tail _ member)) _

theorem isDigit_of_mem_ofNat {n : Nat} (member : c ∈ ofNat n) : c.isDigit = true :=
  Nat.isDigit_of_mem_toDigits (by decide) (by decide) member

theorem digitsValue_ofNat (n : Nat) : digitsValue (ofNat n) = n := by
  rw [digitsValue, digitsValue_eq fun c member => isDigit_of_mem_ofNat member, ofNat,
    Nat.ofDigitChars_ten_toDigits]

theorem length_ofNat_le {n : Nat} (small : n < 10 ^ maxDigits) : (ofNat n).length ≤ maxDigits :=
  (Nat.length_toDigits_le_iff (by decide) (by decide)).mpr small

end Gamebook.Text
