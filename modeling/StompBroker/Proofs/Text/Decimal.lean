import StompBroker.Text.Blank
import StompBroker.Text.Decimal

/-!
# Numbers that are written and read

A natural number is written in digits (`isDigit_of_mem_toString`), so trimming leaves it alone
(`trim_toString`), and it is read back as long as it respects the bound (`natural?_trim_toString`).
-/

set_option autoImplicit false

namespace StompBroker.Text

theorem isDigit_of_mem_toString {n : Nat} {c : Char} (h : c ∈ (toString n).toList) :
    c.isDigit = true := by
  rw [Nat.toString_eq_ofList_toDigits, String.toList_ofList] at h
  exact Nat.isDigit_of_mem_toDigits (by decide) (by decide) h

/-- The place of a digit among the characters. -/
theorem toNat_of_isDigit {c : Char} (h : c.isDigit = true) : 48 ≤ c.toNat ∧ c.toNat ≤ 57 := by
  simp only [Char.isDigit, Bool.and_eq_true, decide_eq_true_eq] at h
  exact h

theorem isBlank_of_isDigit {c : Char} (h : c.isDigit = true) : isBlank c = false := by
  have hplace := toNat_of_isDigit h
  unfold isBlank
  simp only [Bool.or_eq_false_iff, Bool.and_eq_false_iff, decide_eq_false_iff_not,
    beq_eq_false_iff_ne, ne_eq]
  omega

theorem dropWhile_isBlank_eq_self {chars : List Char} (h : ∀ c ∈ chars, isBlank c = false) :
    chars.dropWhile isBlank = chars := by
  cases chars with
  | nil => rfl
  | cons c rest => rw [List.dropWhile_cons_of_neg (by simp [h c List.mem_cons_self])]

theorem trim_toString (n : Nat) : trim (toString n) = toString n := by
  have hplain : ∀ c ∈ (toString n).toList, isBlank c = false := fun _ hmem ↦
    isBlank_of_isDigit (isDigit_of_mem_toString hmem)
  unfold trim trimChars
  rw [dropWhile_isBlank_eq_self hplain, dropWhile_isBlank_eq_self, List.reverse_reverse,
    String.ofList_toList]
  exact fun c hmem ↦ hplain c (List.mem_reverse.mp hmem)

/-- Digits are read as the number that they stand for, if it respects the bound. -/
theorem readDigits_eq_ok {bound value : Nat} {crossed : IntegerError} {chars : List Char}
    (h : ∀ c ∈ chars, c.isDigit = true) (hbound : Nat.ofDigitChars 10 chars value ≤ bound) :
    readDigits bound crossed value chars = .ok (Nat.ofDigitChars 10 chars value) := by
  induction chars generalizing value with
  | nil => simp [readDigits]
  | cons c rest ih =>
    have hdigit : digitValue? c = some (c.toNat - 48) := by
      have hplace := toNat_of_isDigit (h c List.mem_cons_self)
      unfold digitValue?
      rw [if_pos]
      exact hplace
    have hzero : '0'.toNat = 48 := rfl
    rw [Nat.ofDigitChars_cons, hzero, Nat.mul_comm 10 value] at hbound ⊢
    have hmono : value * 10 + (c.toNat - 48) ≤
        Nat.ofDigitChars 10 rest (value * 10 + (c.toNat - 48)) := by
      rw [Nat.ofDigitChars_eq_ofDigitChars_zero]
      exact Nat.le_add_right_of_le (Nat.le_mul_of_pos_left _ (Nat.pow_pos (by decide)))
    rw [readDigits, hdigit]
    simp only
    rw [if_neg (by omega)]
    exact ih (fun d hmem ↦ h d (List.mem_cons_of_mem _ hmem)) hbound

theorem ofDigitChars_toString (n : Nat) : Nat.ofDigitChars 10 (toString n).toList 0 = n := by
  rw [Nat.toString_eq_ofList_toDigits, String.toList_ofList, Nat.ofDigitChars_ten_toDigits]

theorem toString_inj {n m : Nat} : toString n = toString m ↔ n = m := by
  refine ⟨fun h ↦ ?_, congrArg toString⟩
  rw [← ofDigitChars_toString n, h, ofDigitChars_toString]

theorem natural?_toString {bound n : Nat} (h : n ≤ bound) :
    natural? bound (toString n) = .ok n := by
  have hread : readDigits bound .tooLarge 0 (toString n).toList = .ok n := by
    have hnumber := ofDigitChars_toString n
    rw [readDigits_eq_ok (fun c hmem ↦ isDigit_of_mem_toString hmem) (by rw [hnumber]; exact h),
      hnumber]
  unfold natural?
  split
  · rename_i hnil
    rw [Nat.toString_eq_ofList_toDigits, String.toList_ofList] at hnil
    exact absurd hnil Nat.toDigits_ne_nil
  · rename_i hplus
    have hdigit := @isDigit_of_mem_toString n '+' (by rw [hplus]; simp)
    cases hdigit
  · rename_i hplus
    have hdigit := @isDigit_of_mem_toString n '+' (by rw [hplus]; simp)
    cases hdigit
  · exact hread

/-- A number in a header is read back as the number it is. -/
theorem natural?_trim_toString {bound n : Nat} (h : n ≤ bound) :
    natural? bound (trim (toString n)) = .ok n := by
  rw [trim_toString, natural?_toString h]

end StompBroker.Text
