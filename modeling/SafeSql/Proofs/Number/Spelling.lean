import Mathlib.Data.List.DropRight
import Mathlib.Data.Nat.Digits.Defs
import Mathlib.Tactic.FieldSimp
import SafeSql.Proofs.Number.Truncation

/-!
# Spelled numbers

The grammar of decimal numbers in text: blanks, a sign, digits with an optional point before, among
or behind them, an optional power of ten, blanks. A text is read as a numeral exactly when it is
such a spelling, and the numeral stands for the number that is spelled.

## Main definitions

* `Spelling`, `Spelling.text` — a number as it is written, and its text.
* `Spelling.value` — the number that is meant.

## Main statements

* `Spelling.read_strip_iff` — what is read as a numeral.
* `Spelling.rational_numeral` — the number that is read is the one that is meant.
-/

namespace SafeSql

/-! ## Digits and blanks -/

theorem Text.isBlank_of_isDigit {c : Char} (digit : isDigit c) : isBlank c = false := by
  obtain ⟨n, known⟩ := Option.isSome_iff_exists.mp digit
  have places : ∀ start ∈ Digit.zeros, ∀ i < 10, isBlank (Char.ofNat (start + i)) = false := by
    decide +kernel
  have place : ∃ start ∈ Digit.zeros, ∃ i < 10, c.toNat = start + i := by
    unfold Digit.value? at known
    split at known
    · split at known
      next plain =>
        simp only [Char.isDigit, Bool.and_eq_true, decide_eq_true_eq] at plain
        have low : 48 ≤ c.toNat := UInt32.le_iff_toNat_le.mp plain.1
        have high : c.toNat ≤ 57 := UInt32.le_iff_toNat_le.mp plain.2
        exact ⟨0x30, by decide, c.toNat - 0x30, by omega, by omega⟩
      · cases known
    · obtain ⟨start, found, -⟩ := Option.map_eq_some_iff.mp known
      have inside := List.find?_some found
      simp only [Bool.and_eq_true, decide_eq_true_eq] at inside
      exact ⟨start, List.mem_of_find?_eq_some found, c.toNat - start, by omega, by omega⟩
  obtain ⟨start, mem, i, small, code⟩ := place
  rw [← Char.ofNat_toNat c, code]
  exact places start mem i small

/-- What the digits in a text count for, one by one. -/
def Text.digitValues (text : List Char) : List Nat :=
  text.filterMap Text.Digit.value?

theorem Text.length_digitValues {text : List Char} (digits : ∀ c ∈ text, isDigit c) :
    (digitValues text).length = text.length := by
  induction text with
  | nil => rfl
  | cons c rest ih =>
    obtain ⟨n, known⟩ := Option.isSome_iff_exists.mp (digits c List.mem_cons_self)
    have later := ih fun c mem => digits c (List.mem_cons_of_mem _ mem)
    simpa [digitValues, List.filterMap_cons, known] using later

theorem Text.digitValues_ne_nil {text : List Char} (digits : ∀ c ∈ text, isDigit c) :
    digitValues text ≠ [] ↔ text ≠ [] := by
  rw [← List.length_pos_iff, ← List.length_pos_iff, length_digitValues digits]

theorem Whole.ofDigits_eq (values : List Nat) :
    ofDigits values = Nat.ofDigits 10 values.reverse := by
  induction values using List.reverseRecOn with
  | nil => rfl
  | append_singleton values d ih =>
    rw [List.reverse_concat, Nat.ofDigits_cons, ← ih]
    simp only [ofDigits, List.foldl_append, List.foldl_cons, List.foldl_nil]
    ring

namespace Numeral

theorem spanDigits_eq (text : List Char) : spanDigits text =
    (Text.digitValues (text.takeWhile Text.isDigit), text.dropWhile Text.isDigit) := by
  induction text with
  | nil => rfl
  | cons c rest ih =>
    cases known : Text.Digit.value? c with
    | none => simp [spanDigits, known, Text.isDigit, Text.digitValues]
    | some n => simp [spanDigits, known, ih, Text.isDigit, Text.digitValues]

/-- Digits are read up to the first character that is none. -/
theorem spanDigits_append {digits rest : List Char} (all : ∀ c ∈ digits, Text.isDigit c)
    (ends : ∀ c ∈ rest.head?, Text.isDigit c = false) :
    spanDigits (digits ++ rest) = (Text.digitValues digits, rest) := by
  have stops : rest.takeWhile Text.isDigit = [] ∧ rest.dropWhile Text.isDigit = rest := by
    cases rest with
    | nil => exact ⟨rfl, rfl⟩
    | cons c rest => simp [ends c rfl]
  rw [spanDigits_eq, List.takeWhile_append_of_pos all, List.dropWhile_append_of_pos all, stops.1,
    stops.2, List.append_nil]

theorem exists_of_spanDigits {text rest : List Char} {values : List Nat}
    (read : spanDigits text = (values, rest)) : ∃ digits, text = digits ++ rest ∧
      (∀ c ∈ digits, Text.isDigit c) ∧ values = Text.digitValues digits := by
  rw [spanDigits_eq] at read
  cases read
  exact ⟨_, List.takeWhile_append_dropWhile.symm, fun c mem => List.mem_takeWhile_imp mem, rfl⟩

end Numeral

/-! ## Spellings -/

inductive Sign
  | none
  | plus
  | minus

namespace Sign

def text : Sign → List Char
  | none => []
  | plus => ['+']
  | minus => ['-']

def negative : Sign → Bool
  | minus => true
  | _ => false

theorem splitSign_text (sign : Sign) {rest : List Char}
    (unsigned : ∀ c ∈ rest.head?, c ≠ '+' ∧ c ≠ '-') :
    Whole.splitSign (sign.text ++ rest) = (sign.negative, rest) := by
  cases sign with
  | none =>
    rcases rest with _ | ⟨c, rest⟩
    · rfl
    · obtain ⟨plus, minus⟩ := unsigned c rfl
      simp only [text, List.nil_append, negative, Whole.splitSign]
      split <;> simp_all
  | plus | minus => rfl

theorem exists_of_splitSign (source : List Char) : ∃ sign : Sign,
    source = sign.text ++ (Whole.splitSign source).2 ∧
      sign.negative = (Whole.splitSign source).1 := by
  unfold Whole.splitSign
  split
  · exact ⟨.minus, rfl, rfl⟩
  · exact ⟨.plus, rfl, rfl⟩
  · exact ⟨.none, rfl, rfl⟩

end Sign

/-- A power of ten as it is written behind a number. -/
structure Spelling.Power where
  mark : Char
  sign : Sign
  digits : List Char
  mark_eq : mark = 'e' ∨ mark = 'E'
  nonempty : digits ≠ []
  all : ∀ c ∈ digits, Text.isDigit c

/-- A number as it is written: blanks around it, a sign, digits before and behind a point, and a
power of ten. There is a digit before or behind the point. -/
structure Spelling where
  leading : List Char
  sign : Sign
  whole : List Char
  /-- The digits behind the point, where there is a point. -/
  fraction : Option (List Char)
  power : Option Spelling.Power
  trailing : List Char
  leading_blank : ∀ c ∈ leading, Text.isBlank c
  whole_digits : ∀ c ∈ whole, Text.isDigit c
  fraction_digits : ∀ c ∈ fraction.getD [], Text.isDigit c
  some_digit : whole ≠ [] ∨ fraction.getD [] ≠ []
  trailing_blank : ∀ c ∈ trailing, Text.isBlank c

namespace Spelling

/-- The number that digits spell. -/
def number (digits : List Char) : Nat :=
  Nat.ofDigits 10 (Text.digitValues digits).reverse

namespace Power

variable (power : Power)

def text : List Char :=
  power.mark :: (power.sign.text ++ power.digits)

def value : Int :=
  if power.sign.negative then -(number power.digits : Int) else number power.digits

end Power

variable (w : Spelling)

def fractionText : List Char :=
  (w.fraction.map ('.' :: ·)).getD []

def powerText : List Char :=
  (w.power.map Power.text).getD []

/-- The text without the blanks around it. -/
def core : List Char :=
  w.sign.text ++ (w.whole ++ (w.fractionText ++ w.powerText))

def text : List Char :=
  w.leading ++ (w.core ++ w.trailing)

def exponent : Int :=
  (w.power.map Power.value).getD 0

/-- The number that is meant. -/
def value : ℚ :=
  let digits := w.fraction.getD []
  let size : ℚ := (number w.whole + number digits / 10 ^ digits.length) * 10 ^ w.exponent
  if w.sign.negative then -size else size

/-- The numeral: the number of all digits, with the power of ten that puts the point back. -/
def numeral : Numeral :=
  let digits := w.fraction.getD []
  ⟨w.sign.negative, number (w.whole ++ digits), w.exponent - digits.length⟩

theorem number_append (before : List Char) {behind : List Char}
    (digits : ∀ c ∈ behind, Text.isDigit c) :
    number (before ++ behind) = number before * 10 ^ behind.length + number behind := by
  rw [number, Text.digitValues, List.filterMap_append, List.reverse_append, Nat.ofDigits_append,
    List.length_reverse]
  have count := Text.length_digitValues digits
  unfold Text.digitValues at count
  rw [count]
  simp only [number, Text.digitValues]
  ring

/-- The number of the numeral is the one that is meant. -/
theorem rational_numeral :
    Decimal.rational w.numeral.negative w.numeral.coefficient w.numeral.exponent = w.value := by
  have split : (number (w.whole ++ w.fraction.getD []) : ℚ) *
        10 ^ (w.exponent - (w.fraction.getD []).length) =
      (number w.whole + number (w.fraction.getD []) / 10 ^ (w.fraction.getD []).length) *
        10 ^ w.exponent := by
    rw [number_append w.whole w.fraction_digits, zpow_sub₀ (by norm_num), zpow_natCast]
    push_cast
    field_simp
  simp only [Decimal.rational, numeral, value, split]

/-! ## Reading -/

/-- A power of ten begins with its mark. -/
theorem mark_of_head?_powerText {c : Char} (first : c ∈ w.powerText.head?) :
    c = 'e' ∨ c = 'E' := by
  unfold powerText at first
  cases given : w.power with
  | none => simp [given] at first
  | some power =>
    obtain rfl : power.mark = c := by simpa [given, Power.text] using first
    exact power.mark_eq

/-- Behind the digits before the point stand the point or the mark of a power of ten. -/
theorem mark_of_head?_fractionText {c : Char}
    (first : c ∈ (w.fractionText ++ w.powerText).head?) : c = '.' ∨ c = 'e' ∨ c = 'E' := by
  unfold fractionText at first
  cases given : w.fraction with
  | some digits => exact .inl (by simpa [given, eq_comm] using first)
  | none => exact .inr (w.mark_of_head?_powerText (by simpa [given] using first))

theorem unsigned_of_isDigit {c : Char} (digit : Text.isDigit c) : c ≠ '+' ∧ c ≠ '-' := by
  constructor <;> rintro rfl <;> exact absurd digit (by decide)

theorem unsigned_of_head? {digits rest : List Char} (all : ∀ c ∈ digits, Text.isDigit c)
    (unsigned : ∀ c ∈ rest.head?, c ≠ '+' ∧ c ≠ '-') :
    ∀ c ∈ (digits ++ rest).head?, c ≠ '+' ∧ c ≠ '-' := by
  cases digits with
  | nil => exact unsigned
  | cons d digits =>
    intro c first
    obtain rfl : d = c := by simpa using first
    exact unsigned_of_isDigit (all d List.mem_cons_self)

theorem readExponent_power (power : Power) :
    Numeral.readExponent? power.text = some power.value := by
  have unsigned := @unsigned_of_head? _ [] power.all (by simp)
  have read := @Numeral.spanDigits_append _ [] power.all (by simp)
  rw [List.append_nil] at unsigned read
  have marked : (power.mark = 'e' || power.mark = 'E') = true := by
    obtain mark | mark := power.mark_eq <;> simp [mark]
  obtain ⟨value, values, split⟩ := List.exists_cons_of_ne_nil
    ((Text.digitValues_ne_nil power.all).mpr power.nonempty)
  rw [Power.text, Numeral.readExponent?]
  simp only [marked, if_true, power.sign.splitSign_text unsigned, read, split, Power.value, number]
  rw [Whole.ofDigits_eq]

theorem readExponent_powerText : Numeral.readExponent? w.powerText = some w.exponent := by
  unfold powerText exponent
  cases w.power with
  | none => rfl
  | some power => exact readExponent_power power

theorem spanFraction_text : Numeral.spanFraction (w.fractionText ++ w.powerText) =
    (Text.digitValues (w.fraction.getD []), w.powerText) := by
  have all := w.fraction_digits
  unfold fractionText
  cases given : w.fraction with
  | some digits =>
    rw [given] at all
    refine Numeral.spanDigits_append all fun c first => ?_
    rcases w.mark_of_head?_powerText first with rfl | rfl <;> decide
  | none =>
    cases rest : w.powerText with
    | nil => rfl
    | cons c more =>
      have mark := w.mark_of_head?_powerText (show c ∈ w.powerText.head? by simp [rest])
      rcases mark with rfl | rfl <;> rfl

/-- A spelling is read as its numeral. -/
theorem read_core : Numeral.read? w.core = some w.numeral := by
  have unsigned := @unsigned_of_head? _ (w.fractionText ++ w.powerText) w.whole_digits
    fun c first => by rcases w.mark_of_head?_fractionText first with rfl | rfl | rfl <;> decide
  have read := @Numeral.spanDigits_append _ (w.fractionText ++ w.powerText) w.whole_digits
    fun c first => by rcases w.mark_of_head?_fractionText first with rfl | rfl | rfl <;> decide
  have digit : ((Text.digitValues w.whole).isEmpty &&
      (Text.digitValues (w.fraction.getD [])).isEmpty) = false := by
    rcases w.some_digit with some | some
    · simp [(Text.digitValues_ne_nil w.whole_digits).mpr some]
    · simp [(Text.digitValues_ne_nil w.fraction_digits).mpr some]
  have values : Text.digitValues w.whole ++ Text.digitValues (w.fraction.getD []) =
      Text.digitValues (w.whole ++ w.fraction.getD []) := List.filterMap_append.symm
  simp only [Numeral.read?, core, w.sign.splitSign_text unsigned, read, w.spanFraction_text, digit,
    w.readExponent_powerText]
  simp [numeral, number, values, Whole.ofDigits_eq, Text.length_digitValues w.fraction_digits]

/-- What is read as a power of ten is one. -/
theorem exists_of_readExponent {source : List Char} {exponent : Int}
    (read : Numeral.readExponent? source = some exponent) : ∃ power : Option Power,
      source = (power.map Power.text).getD [] ∧ exponent = (power.map Power.value).getD 0 := by
  unfold Numeral.readExponent? at read
  split at read
  · exact ⟨none, rfl, (Option.some.inj read).symm⟩
  next mark rest =>
    split at read
    next marked =>
      obtain ⟨sign, signed, negative⟩ := Sign.exists_of_splitSign rest
      cases span : Numeral.spanDigits (Whole.splitSign rest).2 with
      | mk values left =>
        obtain ⟨digits, unsigned, all, rfl⟩ := Numeral.exists_of_spanDigits span
        dsimp only at read
        rw [span] at read
        cases left with
        | cons c left => cases values : Text.digitValues digits <;> simp [values] at read
        | nil =>
          have nonempty : digits ≠ [] := by
            rintro rfl
            cases read
          obtain ⟨value, values, split⟩ := List.exists_cons_of_ne_nil
            ((Text.digitValues_ne_nil all).mpr nonempty)
          refine ⟨some ⟨mark, sign, digits, by simpa using marked, nonempty, all⟩, ?_, ?_⟩
          · rw [unsigned, List.append_nil] at signed
            simp [Power.text, ← signed]
          · rw [split] at read
            simp [Power.value, number, negative, split, ← Option.some.inj read, Whole.ofDigits_eq]
    · cases read

theorem exists_of_spanFraction {source rest : List Char} {values : List Nat}
    (read : Numeral.spanFraction source = (values, rest)) : ∃ fraction : Option (List Char),
      source = (fraction.map ('.' :: ·)).getD [] ++ rest ∧
      (∀ c ∈ fraction.getD [], Text.isDigit c) ∧ values = Text.digitValues (fraction.getD []) := by
  unfold Numeral.spanFraction at read
  split at read
  · obtain ⟨digits, split, all, rfl⟩ := Numeral.exists_of_spanDigits read
    exact ⟨some digits, by simp [split], all, rfl⟩
  · cases read
    exact ⟨none, rfl, by simp, rfl⟩

/-- What is read as a numeral is a spelling. -/
theorem exists_of_read {source : List Char} {numeral : Numeral}
    (read : Numeral.read? source = some numeral) :
    ∃ w : Spelling, w.leading = [] ∧ w.trailing = [] ∧ w.core = source ∧ w.numeral = numeral := by
  obtain ⟨sign, signed, negative⟩ := Sign.exists_of_splitSign source
  cases before : Numeral.spanDigits (Whole.splitSign source).2 with
  | mk values rest =>
  obtain ⟨whole, unsigned, whole_digits, rfl⟩ := Numeral.exists_of_spanDigits before
  cases behind : Numeral.spanFraction rest with
  | mk values rest' =>
  obtain ⟨fraction, pointed, fraction_digits, rfl⟩ := exists_of_spanFraction behind
  simp only [Numeral.read?, before, behind] at read
  split at read
  · cases read
  next digit =>
    obtain ⟨exponent, powered, rfl⟩ := Option.map_eq_some_iff.mp read
    obtain ⟨power, marked, rfl⟩ := exists_of_readExponent powered
    have some_digit : whole ≠ [] ∨ fraction.getD [] ≠ [] := by
      rw [← Text.digitValues_ne_nil whole_digits, ← Text.digitValues_ne_nil fraction_digits,
        ← not_and_or]
      simpa using digit
    refine ⟨⟨[], sign, whole, fraction, power, [], by simp, whole_digits, fraction_digits,
      some_digit, by simp⟩, rfl, rfl, ?_, ?_⟩
    · rw [signed, unsigned, pointed, marked]
      rfl
    · have values : Text.digitValues whole ++ Text.digitValues (fraction.getD []) =
        Text.digitValues (whole ++ fraction.getD []) := List.filterMap_append.symm
      simp [numeral, number, values, Whole.ofDigits_eq, Text.length_digitValues fraction_digits,
        negative, exponent]

/-! ## Blanks around a spelling -/

theorem not_blank_core {c : Char} (mem : c ∈ w.core) : Text.isBlank c = false := by
  have sign (sign : Sign) (mem : c ∈ sign.text) : Text.isBlank c = false := by
    cases sign with
    | none => cases mem
    | plus | minus =>
      rw [List.mem_singleton.mp mem]
      decide
  simp only [core, List.mem_append] at mem
  rcases mem with mem | mem | mem | mem
  · exact sign _ mem
  · exact Text.isBlank_of_isDigit (w.whole_digits c mem)
  · have all := w.fraction_digits
    unfold fractionText at mem
    cases given : w.fraction with
    | none => simp [given] at mem
    | some digits =>
      rw [given] at mem all
      rcases List.mem_cons.mp mem with rfl | mem
      · decide
      · exact Text.isBlank_of_isDigit (all c mem)
  · unfold powerText at mem
    cases given : w.power with
    | none => simp [given] at mem
    | some power =>
      rw [given] at mem
      rcases List.mem_cons.mp mem with rfl | mem
      · obtain mark | mark := power.mark_eq <;> rw [mark] <;> decide
      · rcases List.mem_append.mp mem with mem | mem
        · exact sign _ mem
        · exact Text.isBlank_of_isDigit (power.all c mem)

theorem core_ne_nil : w.core ≠ [] := by
  have nonempty : w.whole ++ (w.fractionText ++ w.powerText) ≠ [] := by
    rcases w.some_digit with some | some
    · exact List.append_ne_nil_of_left_ne_nil some _
    · have point : w.fractionText ≠ [] := by
        unfold fractionText
        cases given : w.fraction with
        | none => simp [given] at some
        | some digits => simp
      exact List.append_ne_nil_of_right_ne_nil _ (List.append_ne_nil_of_left_ne_nil point _)
  exact List.append_ne_nil_of_right_ne_nil _ nonempty

theorem strip_text : Text.strip w.text = w.core := by
  have first : ∀ rest, (w.core ++ rest).dropWhile Text.isBlank = w.core ++ rest := by
    obtain ⟨c, rest, core⟩ := List.exists_cons_of_ne_nil w.core_ne_nil
    intro more
    simp [core, w.not_blank_core (core ▸ List.mem_cons_self : c ∈ w.core)]
  have last : w.core.rdropWhile Text.isBlank = w.core := by
    rw [List.rdropWhile_eq_self_iff]
    intro nonempty
    simp [w.not_blank_core (List.getLast_mem nonempty)]
  calc Text.strip w.text
      = (w.core ++ w.trailing).rdropWhile Text.isBlank := by
        rw [← first, ← List.dropWhile_append_of_pos w.leading_blank]
        rfl
    _ = w.core.rdropWhile Text.isBlank := by
        rw [List.rdropWhile, List.reverse_append, List.dropWhile_append_of_pos (by
          simpa using w.trailing_blank)]
        rfl
    _ = w.core := last

/-- A text is read as a numeral, apart from the blanks around it, exactly when it is a spelling. -/
theorem read_strip_iff {source : List Char} {numeral : Numeral} :
    Numeral.read? (Text.strip source) = some numeral ↔
      ∃ w : Spelling, w.text = source ∧ w.numeral = numeral := by
  constructor
  · intro read
    obtain ⟨w, -, -, core, rfl⟩ := exists_of_read read
    refine ⟨{ w with
      leading := source.takeWhile Text.isBlank
      trailing := (source.dropWhile Text.isBlank).rtakeWhile Text.isBlank
      leading_blank := fun c mem => List.mem_takeWhile_imp mem
      trailing_blank := fun c mem => List.mem_rtakeWhile_imp mem }, ?_, rfl⟩
    calc source.takeWhile Text.isBlank ++
          (w.core ++ (source.dropWhile Text.isBlank).rtakeWhile Text.isBlank)
        = source.takeWhile Text.isBlank ++ source.dropWhile Text.isBlank := by
          rw [core]
          exact congrArg _ (List.rdropWhile_append_rtakeWhile ..)
      _ = source := List.takeWhile_append_dropWhile
  · rintro ⟨w, rfl, rfl⟩
    rw [w.strip_text, w.read_core]

end Spelling

end SafeSql
