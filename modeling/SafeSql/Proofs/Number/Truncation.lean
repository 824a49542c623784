import Mathlib.Algebra.Order.Field.Power
import Mathlib.Data.Rat.Floor
import Mathlib.Tactic.Positivity
import SafeSql.Number.Decimal

/-!
# Whole parts of decimal numbers

The number that a decimal number stands for, its size, and the whole number toward zero. Whether the
whole part has too many digits is known from the power of ten of the first digit.

## Main definitions

* `Whole.Canonical` — the one text of a whole number.
* `Decimal.rational` — the number that a decimal number stands for.
* `towardZero` — the whole number that is left of a number without its fraction.

## Main statements

* `Whole.canonical_text` — whole numbers are written in canonical form.
* `Decimal.le_adjusted_iff` — the first digit tells how large a number is.
* `Decimal.towardZero_rational` — a decimal number without its fraction.
-/

namespace SafeSql

namespace Whole

/-- A text is that of a whole number: ASCII digits that count for its size, without leading zeros
and without a plus, with a minus where the number is negative. -/
def Canonical (n : Int) (text : List Char) : Prop :=
  ∃ digits, text = (if n < 0 then '-' :: digits else digits) ∧ digits ≠ [] ∧
    (∀ c ∈ digits, c.isDigit) ∧ Nat.ofDigitChars 10 digits 0 = n.natAbs ∧
    (digits.head? = some '0' → n = 0 ∧ digits = ['0'])

theorem head?_digits {n : Nat} (pos : 0 < n) : (digits n).head? ≠ some '0' := by
  induction n using Nat.base_induction 10 (by decide) with
  | single n small =>
    rw [digits, Nat.toDigits_of_lt_base small]
    simp
    omega
  | digit n d small more ih =>
    have first := List.exists_cons_of_ne_nil (Nat.toDigits_ne_nil : Nat.toDigits 10 n ≠ [])
    obtain ⟨c, rest, first⟩ := first
    rw [digits, ← Nat.toDigits_append_toDigits (by decide) more small]
    simpa [digits, first] using ih more

theorem canonical_text (n : Int) : Canonical n (text n) := by
  refine ⟨digits n.natAbs, rfl, Nat.toDigits_ne_nil, fun c mem => ?_,
    Nat.ofDigitChars_ten_toDigits, fun zero => ?_⟩
  · exact Nat.isDigit_of_mem_toDigits (by decide) (by decide) mem
  · rcases Nat.eq_zero_or_pos n.natAbs with none | pos
    · rw [none]
      exact ⟨Int.natAbs_eq_zero.mp none, rfl⟩
    · exact absurd zero (head?_digits pos)

theorem length_digits_le_iff {n limit : Nat} (pos : 0 < limit) :
    (digits n).length ≤ limit ↔ n < 10 ^ limit :=
  Nat.length_toDigits_le_iff (by decide) pos

end Whole

/-- The whole number that is left of a number without its fraction. -/
def towardZero (x : ℚ) : ℤ :=
  if x < 0 then ⌈x⌉ else ⌊x⌋

theorem towardZero_of_nonneg {x : ℚ} (nonneg : 0 ≤ x) : towardZero x = ⌊x⌋ := by
  rw [towardZero, if_neg (not_lt.mpr nonneg)]

theorem towardZero_neg (x : ℚ) : towardZero (-x) = -towardZero x := by
  unfold towardZero
  rcases lt_trichotomy x 0 with neg | rfl | pos
  · rw [if_neg (by linarith), if_pos neg, Int.floor_neg]
  · simp
  · rw [if_pos (by linarith), if_neg (by linarith), Int.ceil_neg]

theorem towardZero_intCast (n : ℤ) : towardZero n = n := by
  unfold towardZero
  split <;> simp

/-- Nothing is left of a number inside one. -/
theorem towardZero_of_abs_lt_one {x : ℚ} (inside : |x| < 1) : towardZero x = 0 := by
  obtain ⟨above, below⟩ := abs_lt.mp inside
  unfold towardZero
  split
  · exact Int.ceil_eq_zero_iff.mpr ⟨above, by linarith⟩
  · exact Int.floor_eq_zero_iff.mpr ⟨by linarith, below⟩

namespace Decimal

/-- The number `± coefficient · 10 ^ exponent`. -/
def rational (negative : Bool) (coefficient : Nat) (exponent : Int) : ℚ :=
  let size : ℚ := coefficient * 10 ^ exponent
  if negative then -size else size

theorem abs_rational (negative : Bool) (coefficient : Nat) (exponent : Int) :
    |rational negative coefficient exponent| = coefficient * 10 ^ exponent := by
  have size : (0 : ℚ) ≤ coefficient * 10 ^ exponent := by positivity
  cases negative <;> simp [rational, abs_of_nonneg size]

/-- A number is as large as a power of ten when its first digit stands there or before. -/
theorem le_adjusted_iff {coefficient : Nat} (some : coefficient ≠ 0) (exponent power : Int) :
    power ≤ adjusted coefficient exponent ↔ (10 : ℚ) ^ power ≤ coefficient * 10 ^ exponent := by
  have count : 0 < digitCount coefficient := Nat.length_toDigits_pos
  have least : (10 : ℚ) ^ ((digitCount coefficient : Int) - 1) ≤ coefficient := by
    rcases Nat.lt_or_ge 1 (digitCount coefficient) with many | one
    · have reach : ¬ coefficient < 10 ^ (digitCount coefficient - 1) := by
        rw [← Whole.length_digits_le_iff (by omega)]
        exact fun few => absurd (show digitCount coefficient ≤ _ from few) (by omega)
      have cast : ((10 ^ (digitCount coefficient - 1) : Nat) : ℚ) ≤ coefficient := by
        exact_mod_cast Nat.not_lt.mp reach
      rw [← Nat.cast_one, ← Nat.cast_sub count, zpow_natCast]
      simpa using cast
    · have single : digitCount coefficient = 1 := by omega
      rw [single]
      simpa using Nat.one_le_iff_ne_zero.mpr some
  have most : (coefficient : ℚ) < 10 ^ (digitCount coefficient : Int) := by
    have reach : coefficient < 10 ^ digitCount coefficient :=
      (Whole.length_digits_le_iff count).mp le_rfl
    rw [zpow_natCast]
    exact_mod_cast reach
  have scale : (0 : ℚ) < 10 ^ exponent := by positivity
  unfold adjusted
  constructor
  · intro below
    calc (10 : ℚ) ^ power
        ≤ 10 ^ ((digitCount coefficient : Int) - 1 + exponent) :=
          zpow_le_zpow_right₀ (by norm_num) (by omega)
      _ = 10 ^ ((digitCount coefficient : Int) - 1) * 10 ^ exponent := zpow_add₀ (by norm_num) _ _
      _ ≤ coefficient * 10 ^ exponent := by gcongr
  · intro reaches
    by_contra above
    have under : (coefficient : ℚ) * 10 ^ exponent < 10 ^ power :=
      calc (coefficient : ℚ) * 10 ^ exponent
          < 10 ^ (digitCount coefficient : Int) * 10 ^ exponent := by gcongr
        _ = 10 ^ ((digitCount coefficient : Int) + exponent) := (zpow_add₀ (by norm_num) _ _).symm
        _ ≤ 10 ^ power := zpow_le_zpow_right₀ (by norm_num) (by omega)
    exact absurd reaches (not_le.mpr under)

/-- The size of a decimal number without its fraction. -/
theorem floor_size (coefficient : Nat) (exponent : Int) :
    ⌊(coefficient * 10 ^ exponent : ℚ)⌋ =
      ((if exponent < 0 then coefficient / Nat.pow 10 exponent.natAbs
        else coefficient * Nat.pow 10 exponent.natAbs : Nat) : Int) := by
  split
  next behind =>
    have power : (10 : ℚ) ^ exponent = 1 / ((10 ^ exponent.natAbs : Nat) : ℚ) := by
      nth_rewrite 1 [show exponent = -(exponent.natAbs : Int) by omega]
      rw [zpow_neg, zpow_natCast]
      simp
    rw [power, mul_one_div, Rat.floor_natCast_div_natCast]
    rfl
  next before =>
    have power : (10 : ℚ) ^ exponent = ((10 ^ exponent.natAbs : Nat) : ℚ) := by
      nth_rewrite 1 [show exponent = (exponent.natAbs : Int) by omega]
      rw [zpow_natCast]
      simp
    rw [power, ← Nat.cast_mul, Int.floor_natCast]
    rfl

/-- A decimal number without its fraction. -/
theorem towardZero_rational (negative : Bool) (coefficient : Nat) (exponent : Int) :
    let size :=
      if exponent < 0 then coefficient / Nat.pow 10 exponent.natAbs
      else coefficient * Nat.pow 10 exponent.natAbs
    towardZero (rational negative coefficient exponent) =
      if negative then -(size : Int) else size := by
  intro size
  have nonneg : (0 : ℚ) ≤ coefficient * 10 ^ exponent := by positivity
  have whole : towardZero (coefficient * 10 ^ exponent) = (size : Int) :=
    (towardZero_of_nonneg nonneg).trans (floor_size coefficient exponent)
  cases negative
  · simpa [rational] using whole
  · simpa [rational, towardZero_neg] using whole

end Decimal

end SafeSql
