import SafeSql.Fragment.Collection
import SafeSql.Proofs.Value.Items

/-!
# Refused values

A value that cannot be written for a placeholder is refused, with one exception: records are put
into a list first, and a range can have more numbers than any list.

## Main definitions

* `Fragment.RefusesOnly` — what fails, fails by refusing a value.
* `Fragment.Unlistable` — more records than a list can hold.

## Main statements

* `Fragment.refused_of_format_error` — a value that cannot be written is refused.
* `Fragment.format_of_unlistable` — what becomes of them.
-/

namespace SafeSql.Fragment

open Template (Kind)

variable {α β : Type}

/-- Whatever fails here fails by refusing a value. -/
def RefusesOnly (result : Except Failure α) : Prop :=
  ∀ failure, result = .error failure → ∃ kind value fault, failure = refuse kind value fault

theorem refusesOnly_ok (a : α) : RefusesOnly (.ok a) := by
  rintro failure ⟨⟩

theorem refusesOnly_refuse (kind : Kind) (value : Value) (fault : Fault) :
    RefusesOnly (.error (refuse kind value fault) : Except Failure α) := by
  rintro failure ⟨⟩
  exact ⟨kind, value, fault, rfl⟩

theorem RefusesOnly.bind {x : Except Failure α} {f : α → Except Failure β} (hx : RefusesOnly x)
    (hf : ∀ a, x = .ok a → RefusesOnly (f a)) : RefusesOnly (x >>= f) := by
  intro failure h
  obtain h | ⟨a, ha, h⟩ := Except.bind_eq_error.1 h
  · exact hx failure h
  · exact hf a ha failure h

theorem RefusesOnly.mapM {f : α → Except Failure β} {as : List α}
    (hf : ∀ a ∈ as, RefusesOnly (f a)) : RefusesOnly (as.mapM f) := by
  intro failure h
  obtain ⟨before, a, after, rfl, -, failed⟩ := Except.mapM_eq_error.1 h
  exact hf a (by simp) failure failed

theorem shapeFor_refusesOnly (kind : Kind) (value : Value) : RefusesOnly (shapeFor kind value) := by
  unfold shapeFor
  cases value.shape? with
  | none => exact refusesOnly_refuse _ _ _
  | some shape => exact refusesOnly_ok shape

theorem shape?_of_shapeFor {kind : Kind} {value : Value} {shape : Value.Shape}
    (h : shapeFor kind value = .ok shape) : value.shape? = some shape := by
  unfold shapeFor at h
  split at h <;> simp_all

theorem wholeText_refusesOnly (kind : Kind) (value : Value) (n : Int) :
    RefusesOnly (wholeText kind value n) := by
  unfold wholeText
  cases Whole.text? n with
  | none => exact refusesOnly_refuse _ _ _
  | some text => exact refusesOnly_ok text

/-- Every scalar but a whole number has a text of its own. -/
theorem scalarText_refusesOnly {value : Value} {shape : Value.Shape}
    (h : value.shape? = some shape) (scalar : shape ≠ .list ∧ shape ≠ .mapping) :
    RefusesOnly (scalarText value) := by
  cases value with
  | bool b => exact refusesOnly_ok _
  | int n =>
    simp only [scalarText]
    exact wholeText_refusesOnly _ _ n
  | bytes data =>
    simp only [scalarText]
    cases Text.Utf8.decode data with
    | error fault => exact refusesOnly_refuse _ _ _
    | ok text => exact refusesOnly_ok text
  | null | float | decimal | text | raw | date | moment | time =>
    simp only [scalarText, Value.plain?, Value.quoted?, Value.quotedAtom?, writable]
    exact refusesOnly_ok _
  | list | tuple | set | frozenSet | range | byteArray | byteView | map | foreign | result =>
    simp_all [Value.shape?]

theorem literal_refusesOnly (d : Dialect) (value : Value) : RefusesOnly (literal d value) := by
  refine (shapeFor_refusesOnly _ _).bind fun shape h => ?_
  have known := shape?_of_shapeFor h
  cases shape with
  | null => exact refusesOnly_ok _
  | list | mapping => exact refusesOnly_refuse _ _ _
  | string | number | raw =>
    exact (scalarText_refusesOnly known (by simp)).bind fun text _ => refusesOnly_ok _

theorem decimalText_refusesOnly (x : Decimal) : RefusesOnly (decimalText x) := by
  cases x with
  | finite negative coefficient exponent =>
    simp only [decimalText]
    split_ifs <;> first | exact refusesOnly_ok _ | exact refusesOnly_refuse _ _ _
  | nan | infinity =>
    simp only [decimalText, Value.quoted?, Value.quotedAtom?, writable]
    exact refusesOnly_refuse _ _ _

theorem numeralText_refusesOnly (value : Value) (source : List Char) :
    RefusesOnly (numeralText value source) := by
  unfold numeralText
  split
  · exact decimalText_refusesOnly _
  · exact refusesOnly_refuse _ _ _

theorem integer_refusesOnly (value : Value) : RefusesOnly (integer value) := by
  refine (shapeFor_refusesOnly _ _).bind fun shape h => ?_
  split
  · exact refusesOnly_ok _
  · exact refusesOnly_ok _
  · exact wholeText_refusesOnly _ _ _
  · split
    · exact refusesOnly_ok _
    · exact refusesOnly_refuse _ _ _
  · exact decimalText_refusesOnly _
  · exact numeralText_refusesOnly _ _
  · exact numeralText_refusesOnly _ _
  · exact refusesOnly_refuse _ _ _

theorem identifier_refusesOnly (d : Dialect) (value : Value) :
    RefusesOnly (identifier d value) := by
  unfold identifier
  split
  · exact refusesOnly_refuse _ _ _
  · split
    · exact refusesOnly_refuse _ _ _
    · exact refusesOnly_ok _
  · split
    · exact refusesOnly_refuse _ _ _
    · exact refusesOnly_ok _
  · exact refusesOnly_refuse _ _ _

theorem raw_refusesOnly (value : Value) : RefusesOnly (raw value) := by
  unfold raw
  split
  · exact refusesOnly_ok _
  · exact refusesOnly_ok _
  · exact refusesOnly_refuse _ _ _

theorem inList_refusesOnly (d : Dialect) (value : Value) : RefusesOnly (inList d value) := by
  refine (shapeFor_refusesOnly _ _).bind fun shape h => ?_
  split
  · split
    · exact refusesOnly_ok _
    · exact (RefusesOnly.mapM fun item _ => literal_refusesOnly d item).bind
        fun _ _ => refusesOnly_ok _
  · exact refusesOnly_refuse _ _ _

theorem assignment_refusesOnly (d : Dialect) (entry : Value × Value) :
    RefusesOnly (assignment d entry) :=
  (identifier_refusesOnly d _).bind fun _ _ =>
    (literal_refusesOnly d _).bind fun _ _ => refusesOnly_ok _

theorem setClause_refusesOnly (d : Dialect) (value : Value) :
    RefusesOnly (setClause d value) := by
  refine (shapeFor_refusesOnly _ _).bind fun shape h => ?_
  split
  · exact refusesOnly_refuse _ _ _
  · exact (RefusesOnly.mapM fun entry _ => assignment_refusesOnly d entry).bind
      fun _ _ => refusesOnly_ok _
  · exact refusesOnly_refuse _ _ _

theorem row_refusesOnly (d : Dialect) (value : Value) : RefusesOnly (row d value) := by
  refine (shapeFor_refusesOnly _ _).bind fun shape h => ?_
  split
  · exact (inList_refusesOnly d value).bind fun _ _ => refusesOnly_ok _
  · exact refusesOnly_refuse _ _ _

theorem multiRow_refusesOnly (d : Dialect) (value : Value) : RefusesOnly (multiRow d value) := by
  refine (shapeFor_refusesOnly _ _).bind fun shape h => ?_
  split
  · rw [Value.mapItems_eq_mapM]
    have rows : RefusesOnly (value.items.mapM (row d)) :=
      .mapM fun item _ => row_refusesOnly d item
    split
    · exact refusesOnly_refuse _ _ _
    · exact rows.bind fun _ _ => refusesOnly_ok _
  · exact refusesOnly_refuse _ _ _

theorem record_refusesOnly (value : Value) : RefusesOnly (record value) := by
  refine (shapeFor_refusesOnly _ _).bind fun shape h => ?_
  split
  · exact refusesOnly_ok _
  · exact refusesOnly_refuse _ _ _

theorem cells_refusesOnly (columns : List Value) (record : Record) :
    RefusesOnly (cells columns record) := by
  unfold cells
  split
  · exact refusesOnly_refuse _ _ _
  · split
    · exact refusesOnly_ok _
    · exact refusesOnly_refuse _ _ _

theorem keyValueRows_refusesOnly (d : Dialect) {value : Value}
    (fits : value.checkSize = .ok ()) : RefusesOnly (keyValueRows d value) := by
  refine (shapeFor_refusesOnly _ _).bind fun shape h => ?_
  split
  · rw [fits, Value.mapItems_eq_mapM]
    refine (RefusesOnly.mapM fun item _ => record_refusesOnly item).bind fun records _ => ?_
    split
    · exact refusesOnly_refuse _ _ _
    · next first others _ =>
      dsimp only
      split
      · exact refusesOnly_refuse _ _ _
      · refine (RefusesOnly.mapM fun record _ => cells_refusesOnly _ record).bind fun _ _ => ?_
        refine (RefusesOnly.mapM fun column _ => identifier_refusesOnly d column).bind
          fun _ _ => ?_
        exact (multiRow_refusesOnly d _).bind fun _ _ => refusesOnly_ok _
  · exact refusesOnly_refuse _ _ _

/-- Records that are put into a list, and are more than a list can hold. -/
def Unlistable (kind : Kind) (value : Value) : Prop :=
  kind = .keyValueRows ∧ ∃ start stop step, value = .range start stop step ∧
    Value.countLimit < Value.rangeLength start stop step

theorem checkSize_eq_ok {value : Value} (h : ¬ Unlistable .keyValueRows value) :
    value.checkSize = .ok () := by
  cases value with
  | range start stop step =>
    have small : ¬ Value.countLimit < Value.rangeLength start stop step :=
      fun large => h ⟨rfl, start, stop, step, rfl, large⟩
    rw [Value.checkSize, if_neg small]
  | _ => rfl

/-- A value that cannot be written for a placeholder is refused, unless it is a range of more
records than a list can hold. -/
theorem refused_of_format_error {d : Dialect} {kind : Kind} {value : Value} {failure : Failure}
    (h : format d kind value = .error failure) (listable : ¬ Unlistable kind value) :
    ∃ kind value fault, failure = refuse kind value fault := by
  have refuses : RefusesOnly (format d kind value) := by
    cases kind with
    | string => exact literal_refusesOnly d value
    | integer => exact integer_refusesOnly value
    | identifier => exact identifier_refusesOnly d value
    | inList => exact inList_refusesOnly d value
    | setClause => exact setClause_refusesOnly d value
    | multiRow => exact multiRow_refusesOnly d value
    | keyValueRows => exact keyValueRows_refusesOnly d (checkSize_eq_ok listable)
    | raw => exact raw_refusesOnly value
  exact refuses failure h

/-- A range of more records than a list can hold is not refused: making the list fails. -/
theorem format_of_unlistable (d : Dialect) {kind : Kind} {value : Value}
    (h : Unlistable kind value) : format d kind value = .error .tooManyToCount := by
  obtain ⟨rfl, start, stop, step, rfl, large⟩ := h
  simp only [format, keyValueRows, shapeFor, Value.shape?, Except.ok_bind, Value.checkSize]
  rw [if_pos large]
  rfl

end SafeSql.Fragment
