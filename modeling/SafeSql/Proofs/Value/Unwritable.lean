import Mathlib.Data.List.Basic
import SafeSql.Value.Display

/-!
# Values without a text

Whole numbers of too many digits are not written, and neither is a value whose text would show such
a number. Every other value has a text.

## Main definitions

* `Value.parts` — the values that the text of a value shows.
* `Value.Unwritable` — a whole number of too many digits, or a value that shows one.

## Main statements

* `Value.quoted?_eq_none`, `Value.plain?_eq_none` — these are the values without a text.
-/

namespace SafeSql

theorem Whole.text?_eq_none {n : Int} : text? n = none ↔ Nat.pow 10 maxDigits ≤ n.natAbs := by
  rw [text?, ite_eq_right_iff, ← Nat.not_lt]
  exact ⟨fun missing short => Option.some_ne_none _ (missing short),
    fun large short => absurd short large⟩

namespace Value

/-- The values that the text of a value shows. -/
def parts : Value → List Value
  | .list items | .tuple items | .set items | .frozenSet items => items
  | .map entries _ => entries.flatMap fun entry => [entry.1, entry.2]
  | .range start stop step => [.int start, .int stop, .int step]
  | _ => []

/-- A whole number of too many digits, or a value that shows one. -/
inductive Unwritable : Value → Prop
  | long {n : Int} (h : Nat.pow 10 Whole.maxDigits ≤ n.natAbs) : Unwritable (.int n)
  | shown {value part : Value} (mem : part ∈ value.parts) (h : Unwritable part) :
    Unwritable value

theorem unwritable_int {n : Int} :
    Unwritable (.int n) ↔ Nat.pow 10 Whole.maxDigits ≤ n.natAbs := by
  constructor
  · intro unwritable
    cases unwritable with
    | long h => exact h
    | shown mem => nomatch mem
  · exact .long

/-- A value that is no number has no text if one of those that it shows has none. -/
theorem unwritable_iff {value : Value} (other : ∀ n, value ≠ .int n) :
    Unwritable value ↔ ∃ part ∈ value.parts, Unwritable part := by
  constructor
  · rintro (h | ⟨mem, h⟩)
    · exact absurd rfl (other _)
    · exact ⟨_, mem, h⟩
  · rintro ⟨part, mem, h⟩
    exact .shown mem h

theorem not_unwritable {value : Value} (other : ∀ n, value ≠ .int n) (nothing : value.parts = []) :
    ¬ Unwritable value := by
  simp [unwritable_iff other, nothing]

mutual

/-- The quoted text of a value is missing exactly when it would show a number of too many digits. -/
theorem quoted?_eq_none : (value : Value) → (value.quoted? = none ↔ Unwritable value)
  | .list items => by
    rw [unwritable_iff (by simp), parts, ← quotedItems?_eq_none items]
    cases h : quotedItems? items <;> simp [quoted?, h]
  | .tuple items => by
    rw [unwritable_iff (by simp), parts, ← quotedItems?_eq_none items]
    cases h : quotedItems? items with
    | none => simp [quoted?, h]
    | some texts => rcases texts with _ | ⟨text, _ | _⟩ <;> simp [quoted?, h]
  | .set items => by
    rw [unwritable_iff (by simp), parts, ← quotedItems?_eq_none items]
    cases h : quotedItems? items with
    | none => simp [quoted?, h]
    | some texts => cases texts <;> simp [quoted?, h]
  | .frozenSet items => by
    rw [unwritable_iff (by simp), parts, ← quotedItems?_eq_none items]
    cases h : quotedItems? items with
    | none => simp [quoted?, h]
    | some texts => cases texts <;> simp [quoted?, h]
  | .map entries missing => by
    rw [unwritable_iff (by simp), parts, ← quotedEntries?_eq_none entries]
    cases h : quotedEntries? entries <;> cases missing <;> simp [quoted?, h]
  | .int n => by
    have written : (Value.int n).quoted? = Whole.text? n := by simp [quoted?, quotedAtom?]
    rw [unwritable_int, ← Whole.text?_eq_none, written]
  | .range start stop step => by
    have short (digits : Nat) (some : digits ≠ 0) : ¬ Nat.pow 10 digits ≤ (1 : Int).natAbs :=
      Nat.not_le.mpr (Nat.one_lt_pow some (by decide))
    have one := short Whole.maxDigits (by decide)
    rw [unwritable_iff (by simp)]
    simp only [parts, List.exists_mem_cons_iff, unwritable_int, ← Whole.text?_eq_none, quoted?,
      quotedAtom?] at one ⊢
    by_cases single : step = 1
    · subst single
      cases Whole.text? start <;> cases Whole.text? stop <;> simp [one]
    · cases Whole.text? start <;> cases Whole.text? stop <;> cases Whole.text? step <;>
        simp [single]
  | .null | .bool _ | .float _ | .decimal _ | .text _ | .raw _ | .bytes _ | .byteArray _
  | .byteView _ | .date _ | .moment _ | .time _ | .foreign _ | .result _ => by
    exact iff_of_false (by simp [quoted?, quotedAtom?]) (not_unwritable (by simp) rfl)

theorem quotedItems?_eq_none :
    (items : List Value) → (quotedItems? items = none ↔ ∃ item ∈ items, Unwritable item)
  | [] => by simp [quotedItems?]
  | item :: items => by
    rw [List.exists_mem_cons_iff, ← quoted?_eq_none item, ← quotedItems?_eq_none items]
    cases h : item.quoted? <;> cases h' : quotedItems? items <;> simp [quotedItems?, h, h']

theorem quotedEntries?_eq_none : (entries : List (Value × Value)) →
    (quotedEntries? entries = none ↔
      ∃ part ∈ entries.flatMap fun entry => [entry.1, entry.2], Unwritable part)
  | [] => by simp [quotedEntries?]
  | (key, value) :: entries => by
    rw [List.flatMap_cons, List.cons_append, List.cons_append, List.nil_append,
      List.exists_mem_cons_iff, List.exists_mem_cons_iff, ← quoted?_eq_none key,
      ← quoted?_eq_none value, ← quotedEntries?_eq_none entries]
    cases h : key.quoted? <;> cases h' : value.quoted? <;>
      cases h'' : quotedEntries? entries <;> simp [quotedEntries?, h, h', h'']

end

theorem plain?_eq_none (value : Value) : value.plain? = none ↔ Unwritable value := by
  cases value with
  | text | raw | decimal | date | moment | time =>
    exact iff_of_false (by simp [plain?]) (not_unwritable (by simp) rfl)
  | _ => exact quoted?_eq_none _

end Value

end SafeSql
