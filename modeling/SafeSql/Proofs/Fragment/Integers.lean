import SafeSql.Proofs.Fragment.Failures
import SafeSql.Proofs.Number.Spelling

/-!
# Whole numbers in fragments

Where a whole number is asked for, a number without its fraction is written, up to a size that is
the same for all numbers, whether they come as whole numbers, as decimal numbers or as text.

## Main definitions

* `Fragment.Denotes` — the number that a value stands for.
* `Fragment.TooLong` — the failure of writing a number that is too large.
* `Fragment.WritesWhole` — what is to be written for a number.

## Main statements

* `Fragment.decimalText_writes` — what is written for a decimal number.
* `Fragment.integer_exact` — what is written for a value, and what is refused.
-/

namespace SafeSql

theorem Whole.text?_eq (n : Int) :
    text? n = if |(n : ℚ)| < 10 ^ maxDigits then some (text n) else none := by
  have size (limit : Nat) : n.natAbs < Nat.pow 10 limit ↔ |(n : ℚ)| < 10 ^ limit := by
    rw [← Int.cast_abs, Int.abs_eq_natAbs]
    norm_cast
  simp only [text?, size]

/-- Whether the power of ten of a spelled number is one that a decimal number can have. -/
def Spelling.InRange (w : Spelling) : Prop :=
  Decimal.adjusted w.numeral.coefficient w.numeral.exponent ≤ Decimal.maxAdjusted ∧
    Decimal.minExponent ≤ w.numeral.exponent

theorem Spelling.ofNumeral?_of_inRange {w : Spelling} (range : w.InRange) :
    Decimal.ofNumeral? w.numeral =
      some (.finite w.numeral.negative w.numeral.coefficient w.numeral.exponent) := by
  simp [Decimal.ofNumeral?, range.1, range.2]

theorem Spelling.inRange_of_ofNumeral? {w : Spelling} {number : Decimal}
    (held : Decimal.ofNumeral? w.numeral = some number) : w.InRange := by
  unfold Decimal.ofNumeral? at held
  split at held
  next range => simpa [InRange] using range
  · cases held

namespace Fragment

open Template (Kind)

/-- The number that a value stands for where a whole number is asked for. -/
inductive Denotes : Value → ℚ → Prop
  | int (n : Int) : Denotes (.int n) n
  | bool (b : Bool) : Denotes (.bool b) (if b then 1 else 0)
  | decimal (negative : Bool) (coefficient : Nat) (exponent : Int) :
    Denotes (.decimal (.finite negative coefficient exponent))
      (Decimal.rational negative coefficient exponent)
  | text (w : Spelling) (range : w.InRange) : Denotes (.text (String.ofList w.text)) w.value
  | raw (w : Spelling) (range : w.InRange) : Denotes (.raw (String.ofList w.text)) w.value

/-- The failure of writing a number that is too large. -/
def TooLong (failure : Failure) : Prop :=
  ∃ given, failure = refuse .integer given .tooLong

/-- A number without its fraction is written, unless it is too large. -/
def WritesWhole (x : ℚ) (result : Except Failure (List Char)) : Prop :=
  (|x| < 10 ^ Whole.maxDigits → result = .ok (Whole.text (towardZero x))) ∧
    (10 ^ Whole.maxDigits ≤ |x| → ∃ failure, result = .error failure ∧ TooLong failure)

theorem wholeText_writes (value : Value) (n : Int) :
    WritesWhole n (wholeText .integer value n) := by
  unfold WritesWhole wholeText
  rw [Whole.text?_eq, towardZero_intCast]
  constructor
  · intro small
    rw [if_pos small]
  · intro large
    rw [if_neg (not_lt.mpr large)]
    exact ⟨_, rfl, value, rfl⟩

/-- What is written for a decimal number. -/
theorem decimalText_writes (negative : Bool) (coefficient : Nat) (exponent : Int) :
    WritesWhole (Decimal.rational negative coefficient exponent)
      (decimalText (.finite negative coefficient exponent)) := by
  set x := Decimal.rational negative coefficient exponent with number
  have size : |x| = coefficient * 10 ^ exponent := Decimal.abs_rational ..
  by_cases zero : coefficient = 0
  · have none : x = 0 := by simp [← abs_eq_zero, size, zero]
    have written : decimalText (.finite negative coefficient exponent) = .ok ['0'] := by
      simp only [decimalText, if_pos zero]
    rw [none, written]
    refine ⟨fun _ => rfl, fun large => absurd large (not_le.mpr ?_)⟩
    rw [abs_zero]
    positivity
  have long : (Whole.maxDigits : Int) ≤ Decimal.adjusted coefficient exponent ↔
      10 ^ Whole.maxDigits ≤ |x| := by
    rw [Decimal.le_adjusted_iff zero, zpow_natCast, size]
  have short : Decimal.adjusted coefficient exponent < 0 ↔ |x| < 1 := by
    rw [← not_le, Decimal.le_adjusted_iff zero, zpow_zero, ← size, not_le]
  simp only [decimalText, if_neg zero]
  constructor
  · intro small
    rw [if_neg (mt long.mp (not_le.mpr small))]
    split
    next inside =>
      rw [towardZero_of_abs_lt_one (short.mp inside)]
      rfl
    next outside => rw [number, Decimal.towardZero_rational]
  · intro large
    rw [if_pos (long.mpr large)]
    exact ⟨_, rfl, _, rfl⟩

theorem numeralText_writes (value : Value) {w : Spelling} (range : w.InRange) :
    WritesWhole w.value (numeralText value w.text) := by
  have read : (Numeral.read? (Text.strip w.text) >>= Decimal.ofNumeral?) =
      some (.finite w.numeral.negative w.numeral.coefficient w.numeral.exponent) := by
    rw [Spelling.read_strip_iff.mpr ⟨w, rfl, rfl⟩]
    exact Spelling.ofNumeral?_of_inRange range
  rw [numeralText, read, ← w.rational_numeral]
  exact decimalText_writes _ _ _

theorem integer_int (n : Int) : integer (.int n) = wholeText .integer (.int n) n := by
  simp only [integer, shapeFor, Value.shape?, Except.ok_bind]

theorem integer_decimal (x : Decimal) : integer (.decimal x) = decimalText x := rfl

theorem integer_text (s : String) : integer (.text s) = numeralText (.text s) s.toList := rfl

theorem integer_raw (s : String) : integer (.raw s) = numeralText (.raw s) s.toList := rfl

/-- What is written for a value depends on nothing but the number that it stands for. -/
theorem integer_writes {value : Value} {x : ℚ} (denotes : Denotes value x) :
    WritesWhole x (integer value) := by
  cases denotes with
  | int n =>
    rw [integer_int]
    exact wholeText_writes _ n
  | bool b =>
    have one : |if b then (1 : ℚ) else 0| ≤ 1 := by cases b <;> simp
    have more : (1 : ℚ) < 10 ^ Whole.maxDigits := one_lt_pow₀ (by norm_num) (by decide)
    refine ⟨fun _ => ?_, fun large => absurd (large.trans one) (not_le.mpr more)⟩
    cases b
    · simp only [Bool.false_eq_true, if_false]
      rw [← Int.cast_zero, towardZero_intCast]
      rfl
    · simp only [if_true]
      rw [← Int.cast_one, towardZero_intCast]
      rfl
  | decimal negative coefficient exponent =>
    rw [integer_decimal]
    exact decimalText_writes _ _ _
  | text w range =>
    rw [integer_text, String.toList_ofList]
    exact numeralText_writes _ range
  | raw w range =>
    rw [integer_raw, String.toList_ofList]
    exact numeralText_writes _ range

/-- A text that stands for no number is refused. -/
theorem numeralText_of_foreign {value : Value} {source : List Char}
    (foreign : ∀ w : Spelling, w.text = source → ¬ w.InRange) :
    numeralText value source = .error (notNumeric value) := by
  have unread : (Numeral.read? (Text.strip source) >>= Decimal.ofNumeral?) = none := by
    cases read : Numeral.read? (Text.strip source) with
    | none => rfl
    | some numeral =>
      obtain ⟨w, same, rfl⟩ := Spelling.read_strip_iff.mp read
      refine Option.eq_none_iff_forall_ne_some.mpr fun number held => ?_
      exact foreign w same (Spelling.inRange_of_ofNumeral? held)
  rw [numeralText, unread]

/-- What stands for no number is refused, apart from what has no value and from finite floating
point numbers, which are cut off as well. -/
theorem integer_of_foreign {value : Value} (foreign : ∀ x, ¬ Denotes value x)
    (given : value ≠ .null) (infinite : ∀ x, value = .float x → x.truncate? = none) :
    ∃ error, integer value = .error (.query error) ∧ error.family = .invalidFormat := by
  have refused (fault : Fault) (failed : integer value = .error (refuse .integer value fault))
      (plain : (SqlError.Cause.format .integer value fault).family = .invalidFormat) :
      ∃ error, integer value = .error (.query error) ∧ error.family = .invalidFormat :=
    ⟨_, failed, plain⟩
  cases value with
  | null => exact absurd rfl given
  | bool b => exact absurd (.bool b) (foreign _)
  | int n => exact absurd (.int n) (foreign _)
  | decimal x =>
    cases x with
    | finite negative coefficient exponent => exact absurd (.decimal ..) (foreign _)
    | nan | infinity => exact refused _ rfl rfl
  | float x =>
    cases x with
    | finite negative mantissa exponent => exact absurd (infinite _ rfl) nofun
    | nan | infinite => exact refused _ rfl rfl
  | text s =>
    refine refused (.notNumeric (Value.text s).shapeName) ?_ rfl
    rw [integer_text]
    refine numeralText_of_foreign fun w same range => foreign w.value ?_
    rw [← String.ofList_toList (s := s), ← same]
    exact .text w range
  | raw s =>
    refine refused (.notNumeric (Value.raw s).shapeName) ?_ rfl
    rw [integer_raw]
    refine numeralText_of_foreign fun w same range => foreign w.value ?_
    rw [← String.ofList_toList (s := s), ← same]
    exact .raw w range
  | bytes | byteArray | byteView | date | moment | time | list | tuple | set | frozenSet | range
  | map | foreign | result => exact refused _ rfl rfl

/-! ## The size of what is written -/

theorem TooLong.family_reason {failure : Failure} (long : TooLong failure) : ∃ error,
    failure = .query error ∧ error.family = .invalidFormat ∧
      error.reason = "Integer (?i) placeholder value exceeds 4300 digits" := by
  obtain ⟨given, rfl⟩ := long
  exact ⟨_, rfl, rfl, rfl⟩

theorem TooLong.message_eq {failure failure' : Failure} (long : TooLong failure)
    (long' : TooLong failure') : failure.message = failure'.message := by
  obtain ⟨given, rfl⟩ := long
  obtain ⟨given', rfl⟩ := long'
  rfl

theorem abs_towardZero_le (x : ℚ) : |((towardZero x : ℤ) : ℚ)| ≤ |x| := by
  have nonneg {y : ℚ} (h : 0 ≤ y) : |((towardZero y : ℤ) : ℚ)| ≤ |y| := by
    have floor : (0 : ℚ) ≤ (⌊y⌋ : ℤ) := by exact_mod_cast Int.floor_nonneg.mpr h
    rw [towardZero_of_nonneg h, abs_of_nonneg h, abs_of_nonneg floor]
    exact Int.floor_le y
  rcases le_total 0 x with h | h
  · exact nonneg h
  · have opposite := nonneg (neg_nonneg.mpr h)
    rwa [towardZero_neg, Int.cast_neg, abs_neg, abs_neg] at opposite

/-- A number under the limit has no more digits than the limit. -/
theorem countP_text_le {x : ℚ} (small : |x| < 10 ^ Whole.maxDigits) :
    (Whole.text (towardZero x)).countP Char.isDigit ≤ Whole.maxDigits := by
  have size : |((towardZero x : ℤ) : ℚ)| < 10 ^ Whole.maxDigits :=
    (abs_towardZero_le x).trans_lt small
  have under (limit : Nat) (h : |((towardZero x : ℤ) : ℚ)| < 10 ^ limit) :
      (towardZero x).natAbs < 10 ^ limit := by
    rw [← Int.cast_abs, Int.abs_eq_natAbs] at h
    exact_mod_cast h
  have digits : (Whole.digits (towardZero x).natAbs).length ≤ Whole.maxDigits :=
    (Whole.length_digits_le_iff (by decide)).mpr (under _ size)
  have count : (Whole.digits (towardZero x).natAbs).countP Char.isDigit ≤ Whole.maxDigits :=
    List.countP_le_length.trans digits
  unfold Whole.text
  split
  · simpa using count
  · exact count

theorem wholeText_eq_ok {kind : Kind} {value : Value} {n : Int} {text : List Char} :
    wholeText kind value n = .ok text ↔ Whole.text? n = some text := by
  unfold wholeText
  cases Whole.text? n <;> simp

theorem wholeText_eq_error {kind : Kind} {value : Value} {n : Int} {failure : Failure} :
    wholeText kind value n = .error failure ↔
      Whole.text? n = none ∧ failure = refuse kind value .tooLong := by
  unfold wholeText
  cases Whole.text? n <;> simp [eq_comm]

theorem literal_int (d : Dialect) (n : Int) :
    literal d (.int n) = (wholeText .string (.int n) n).map d.quoteLiteral := by
  simp only [literal, shapeFor, Value.shape?, Except.ok_bind, scalarText]
  cases wholeText .string (.int n) n <;> rfl

/-- A number without its fraction is written in canonical form where a whole number is asked for,
as long as it has at most `Whole.maxDigits` digits; the number decides, not its spelling. What
stands for no number is refused, and literals hold the same whole numbers as text. -/
theorem integer_exact :
    (∀ value x, Denotes value x → |x| < 10 ^ Whole.maxDigits → ∃ text,
      integer value = .ok text ∧ Whole.Canonical (towardZero x) text ∧
        text.countP Char.isDigit ≤ Whole.maxDigits) ∧
    (∀ value x, Denotes value x → 10 ^ Whole.maxDigits ≤ |x| → ∃ error,
      integer value = .error (.query error) ∧ error.family = .invalidFormat ∧
        error.reason = "Integer (?i) placeholder value exceeds 4300 digits") ∧
    (∀ value, (∀ x, ¬ Denotes value x) → value ≠ .null →
      (∀ x, value = .float x → x.truncate? = none) → ∃ error,
        integer value = .error (.query error) ∧ error.family = .invalidFormat) ∧
    (∀ value value' x, Denotes value x → Denotes value' x →
      (integer value).mapError Failure.message = (integer value').mapError Failure.message) ∧
    (∀ d n text, integer (.int n) = .ok text → literal d (.int n) = .ok (d.quoteLiteral text)) ∧
    (∀ d n failure, integer (.int n) = .error failure → ∃ error,
      literal d (.int n) = .error (.query error) ∧ error.family = .invalidFormat) := by
  refine ⟨fun value x denotes small => ?_, fun value x denotes large => ?_,
    fun value foreign given infinite => integer_of_foreign foreign given infinite,
    fun value value' x denotes denotes' => ?_, fun d n text written => ?_,
    fun d n failure refused => ?_⟩
  · exact ⟨_, (integer_writes denotes).1 small, Whole.canonical_text _, countP_text_le small⟩
  · obtain ⟨failure, refused, long⟩ := (integer_writes denotes).2 large
    obtain ⟨error, rfl, named⟩ := long.family_reason
    exact ⟨error, refused, named⟩
  · rcases lt_or_ge |x| (10 ^ Whole.maxDigits) with small | large
    · rw [(integer_writes denotes).1 small, (integer_writes denotes').1 small]
    · obtain ⟨failure, refused, long⟩ := (integer_writes denotes).2 large
      obtain ⟨failure', refused', long'⟩ := (integer_writes denotes').2 large
      rw [refused, refused', Except.mapError, Except.mapError, long.message_eq long']
  · have known := wholeText_eq_ok.mp ((integer_int n).symm.trans written)
    rw [literal_int, wholeText_eq_ok.mpr known]
    rfl
  · have known := wholeText_eq_error.mp ((integer_int n).symm.trans refused)
    rw [literal_int, wholeText_eq_error.mpr ⟨known.1, rfl⟩]
    exact ⟨_, rfl, rfl⟩

/-- Twelve and a half below zero, with a blank behind. -/
def belowZero : Spelling where
  leading := []
  sign := .minus
  whole := ['1', '2']
  fraction := some ['5']
  power := none
  trailing := [' ']
  leading_blank := List.all_eq_true.mp rfl
  whole_digits := List.all_eq_true.mp rfl
  fraction_digits := List.all_eq_true.mp rfl
  some_digit := .inl (by simp)
  trailing_blank := List.all_eq_true.mp rfl

theorem denotes_belowZero : Denotes (.text "-12.5 ") (-25 / 2) := by
  have value : belowZero.value = -25 / 2 := by
    rw [← belowZero.rational_numeral, show belowZero.numeral = ⟨true, 125, -1⟩ by decide]
    norm_num [Decimal.rational]
  exact value ▸ .text belowZero ⟨by decide, by decide⟩

theorem integer_exact_belowZero :
    Denotes (.text "-12.5 ") (-25 / 2) ∧ |(-25 / 2 : ℚ)| < 10 ^ Whole.maxDigits ∧
    (∃ text, integer (.text "-12.5 ") = .ok text ∧ Whole.Canonical (towardZero (-25 / 2)) text ∧
      text.countP Char.isDigit ≤ Whole.maxDigits) ∧
    (∃ error, integer (.decimal (.finite false 1 Whole.maxDigits)) = .error (.query error) ∧
      error.family = .invalidFormat ∧
        error.reason = "Integer (?i) placeholder value exceeds 4300 digits") ∧
    (∃ error, integer (.text "-12.5a") = .error (.query error) ∧
      error.family = .invalidFormat) ∧
    (integer (.text "-12.5 ")).mapError Failure.message =
      (integer (.decimal (.finite true 125 (-1)))).mapError Failure.message ∧
    (∃ text, integer (.int (-12)) = .ok text ∧
      literal .sqlite (.int (-12)) = .ok (Dialect.sqlite.quoteLiteral text)) ∧
    (∃ error, literal .sqlite (.int (10 ^ Whole.maxDigits)) = .error (.query error) ∧
      error.family = .invalidFormat) := by
  obtain ⟨writes, tooLong, foreign, same, quotes, refuses⟩ := integer_exact
  have small : |(-25 / 2 : ℚ)| < 10 ^ Whole.maxDigits :=
    calc |(-25 / 2 : ℚ)| < 10 ^ 2 := by norm_num [abs_of_neg]
      _ ≤ 10 ^ Whole.maxDigits := pow_le_pow_right₀ (by norm_num) (by decide)
  have large : (10 : ℚ) ^ Whole.maxDigits ≤ |Decimal.rational false 1 Whole.maxDigits| := by
    rw [Decimal.abs_rational, Nat.cast_one, one_mul, zpow_natCast]
  have half : Denotes (.decimal (.finite true 125 (-1))) (-25 / 2) := by
    have value : Decimal.rational true 125 (-1) = -25 / 2 := by norm_num [Decimal.rational]
    exact value ▸ .decimal true 125 (-1)
  have twelve : |((-12 : Int) : ℚ)| < 10 ^ Whole.maxDigits :=
    calc |((-12 : Int) : ℚ)| < 10 ^ 2 := by norm_num [abs_of_neg]
      _ ≤ 10 ^ Whole.maxDigits := pow_le_pow_right₀ (by norm_num) (by decide)
  have power : (10 : ℚ) ^ Whole.maxDigits ≤ |((10 ^ Whole.maxDigits : Int) : ℚ)| := by
    rw [Int.cast_pow]
    exact le_abs_self _
  obtain ⟨text, written, -⟩ := writes _ _ (.int (-12)) twelve
  obtain ⟨error, refused, -⟩ := tooLong _ _ (.int (10 ^ Whole.maxDigits)) power
  refine ⟨denotes_belowZero, small, writes _ _ denotes_belowZero small,
    tooLong _ _ (.decimal ..) large, foreign _ (fun x denotes => ?_) (by simp) (by simp),
    same _ _ _ denotes_belowZero half, ⟨text, written, quotes _ _ _ written⟩,
    refuses _ _ _ refused⟩
  generalize given : Value.text "-12.5a" = value at denotes
  cases denotes with
  | text w range =>
    have spelled : w.text = "-12.5a".toList := by
      rw [Value.text.inj given, String.toList_ofList]
    have read := Spelling.read_strip_iff.mpr ⟨w, spelled, rfl⟩
    rw [show Numeral.read? (Text.strip "-12.5a".toList) = none by decide] at read
    cases read
  | _ => cases given

end Fragment

end SafeSql
