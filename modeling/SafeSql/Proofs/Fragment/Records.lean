import SafeSql.Proofs.Dialect.Quoting
import SafeSql.Proofs.Fragment.Accepted
import SafeSql.Proofs.Value.Sameness

/-!
# Records as rows

Records that fit the first one are written as rows below its columns: every value stands under the
name of its key, in whatever order the later records hold their keys. A record that does not fit is
refused before anything is written.

A record fits when it has the keys of the first. A mapping that makes a value for a key that it does
not hold answers for every column, so that as many keys are enough: that its keys are other ones is
not noticed, and what it makes stands in the place of what it holds.

## Main definitions

* `Fragment.Fits` — a record that the columns of the first are asked of without complaint.
* `Fragment.mismatch` — how a record that does not fit differs from the first.
* `Fragment.Tabular` — what records have to be to be written as rows.
* `Fragment.Aligned` — values that stand under their columns.
* `Fragment.tableText` — the text of names and rows.
* `Fragment.Reordered` — a value that differs in the order of keys at most.

## Main statements

* `Fragment.cells_of_fits`, `Fragment.cells_of_misfit` — which records have cells for the columns
  of the first.
* `Fragment.fits_iff_sameKeys` — plain records fit exactly when they have the keys of the first.
* `Fragment.keyValueRows_of_records` — what becomes of a list of records.
* `Fragment.keyValueRows_tabular` — which records are written, and how.
-/

theorem List.Forall₂.exists_of_mem {α β : Type} {R : α → β → Prop} {as : List α} {bs : List β}
    (pairs : Forall₂ R as bs) {a : α} (member : a ∈ as) : ∃ b ∈ bs, R a b := by
  induction pairs with
  | nil => cases member
  | cons head _ ih =>
    obtain rfl | member := mem_cons.mp member
    · exact ⟨_, mem_cons_self, head⟩
    · obtain ⟨b, inside, related⟩ := ih member
      exact ⟨b, mem_cons_of_mem _ inside, related⟩

namespace Option

variable {α β : Type} {f : α → Option β} {as : List α}

theorem mapM_eq_some {bs : List β} :
    as.mapM f = some bs ↔ List.Forall₂ (fun a b => f a = some b) as bs := by
  induction as generalizing bs with
  | nil => cases bs <;> simp
  | cons a as ih => cases bs <;> simp [Option.bind_eq_some_iff, ih]

theorem mapM_congr {f' : α → Option β} (each : ∀ a ∈ as, f a = f' a) : as.mapM f = as.mapM f' := by
  induction as with
  | nil => rfl
  | cons a as ih =>
    rw [List.mapM_cons, List.mapM_cons, each a List.mem_cons_self,
      ih fun b member => each b (List.mem_cons_of_mem _ member)]

theorem isSome_mapM : (as.mapM f).isSome ↔ ∀ a ∈ as, (f a).isSome := by
  induction as with
  | nil => simp
  | cons a as ih =>
    rw [List.forall_mem_cons, ← ih, List.mapM_cons]
    cases f a with
    | none => simp
    | some b => cases as.mapM f <;> simp

end Option

namespace SafeSql

theorem Dialect.quoteIdentifier_injective (d : Dialect) : Function.Injective d.quoteIdentifier := by
  intro name name' same
  have written : double d.identifierQuote name ++ [d.identifierQuote] =
      double d.identifierQuote name' ++ [d.identifierQuote] := by
    simpa [quoteIdentifier] using same
  have read (name : List Char) : Template.Span.unquote d.identifierQuote false
      (double d.identifierQuote name ++ [d.identifierQuote]) = some (name, []) := by
    have closed : Template.Span.unquote d.identifierQuote false
        (double d.identifierQuote name ++ [d.identifierQuote] ++ []) = some (name, []) :=
      (spells_double d.identifierQuote name).unquote_closed rfl (by simp)
    rwa [List.append_nil] at closed
  have both := read name
  rw [written, read name'] at both
  simpa using both.symm

namespace Fragment

open Mapping (SameKeys Proper)

variable {d : Dialect} {value : Value} {first other : Record} {others : List Record}

/-! ## The cells of a record -/

/-- A record has as many keys as the first, and the same ones unless it makes values for keys that
it does not hold. -/
def Fits (first other : Record) : Prop :=
  other.entries.length = first.entries.length ∧
    (other.missing = none → SameKeys first.entries other.entries)

/-- How a record that does not fit differs from the first. -/
def mismatch (first other : Record) : Fault :=
  if other.entries.length = first.entries.length then .differentKeys else .differentSizes

theorem length_keys (entries : Mapping) : entries.keys.length = entries.length :=
  List.length_map _

section Plain

variable (plain : other.missing = none)
include plain

theorem answer?_of_plain (column : Value) : other.answer? column = other.entries.find? column := by
  rw [Record.answer?, Mapping.answer?, plain, Option.map_none, Option.or_none]

/-- A record that makes no values fits exactly when it has the keys of the first. -/
theorem fits_iff_sameKeys (proper : first.entries.Proper) (proper' : other.entries.Proper) :
    Fits first other ↔ SameKeys first.entries other.entries := by
  refine ⟨fun fits => fits.2 plain, fun same => ⟨?_, fun _ => same⟩⟩
  exact ((Mapping.sameKeys_iff proper proper').mp same).1

end Plain

/-- A record fits when it has as many keys as the first and an answer for each of its columns. -/
theorem fits_iff (proper : first.entries.Proper) (proper' : other.entries.Proper) :
    Fits first other ↔ other.entries.length = first.entries.length ∧
      ∀ column ∈ first.entries.keys, (other.answer? column).isSome := by
  cases made : other.missing with
  | none =>
    simp only [answer?_of_plain made]
    rw [fits_iff_sameKeys made proper proper', Mapping.sameKeys_iff proper proper']
  | some missing => simp [Fits, Record.answer?, Mapping.answer?, made]

theorem cells_of_fits (proper : first.entries.Proper) (proper' : other.entries.Proper)
    (fits : Fits first other) : ∃ found, cells first.entries.keys other = .ok found := by
  obtain ⟨size, all⟩ := (fits_iff proper proper').mp fits
  obtain ⟨found, held⟩ := Option.isSome_iff_exists.mp (Option.isSome_mapM.mpr all)
  exact ⟨found, by rw [cells, if_neg (by simp [length_keys, size]), held]⟩

/-- A record that does not fit is refused. -/
theorem cells_of_misfit (proper : first.entries.Proper) (proper' : other.entries.Proper)
    (misfit : ¬ Fits first other) :
    cells first.entries.keys other =
      .error (refuse .keyValueRows other.value (mismatch first other)) := by
  rw [fits_iff proper proper'] at misfit
  by_cases size : other.entries.length = first.entries.length
  · have missing : first.entries.keys.mapM other.answer? = none := by
      rw [← Option.not_isSome_iff_eq_none, Option.isSome_mapM]
      exact fun all => misfit ⟨size, all⟩
    rw [cells, if_neg (by simp [length_keys, size]), missing, mismatch, if_pos size]
  · rw [cells, if_pos (by simpa [length_keys] using size), mismatch, if_neg size]

theorem cells_eq_ok {columns found : List Value} : cells columns other = .ok found ↔
    other.entries.length = columns.length ∧
      List.Forall₂ (fun column cell => other.answer? column = some cell) columns found := by
  rw [← Option.mapM_eq_some]
  unfold cells
  by_cases size : other.entries.length = columns.length
  · cases columns.mapM other.answer? <;> simp [size]
  · simp [size]

/-- The cells of a record are what it answers for the columns. -/
theorem answered_of_cells {columns found : List Value} (cut : cells columns other = .ok found)
    {cell : Value} (member : cell ∈ found) :
    ∃ column ∈ columns, other.answer? column = some cell :=
  List.Forall₂.exists_of_mem (R := fun cell column => other.answer? column = some cell)
    (List.Forall₂.flip (cells_eq_ok.mp cut).2) member

/-! ## Rows -/

/-- The text of columns with their names, and of groups of values below them. -/
def tableText (names : List (List Char)) (groups : List (List (List Char))) : List Char :=
  ['('] ++ commaJoin names ++ [')'] ++ " VALUES ".toList ++
    commaJoin (groups.map fun group => ['('] ++ commaJoin group ++ [')'])

/-- The literals of the values in a row. -/
def literals (d : Dialect) (contents : List Value) : Except Failure (List (List Char)) :=
  contents.mapM (literal d)

theorem row_list {contents : List Value} (some_cells : contents ≠ []) :
    row d (.list contents) =
      (literals d contents).map fun group => ['('] ++ commaJoin group ++ [')'] := by
  obtain ⟨cell, more, rfl⟩ := List.exists_cons_of_ne_nil some_cells
  simp only [row, inList, shapeFor, Value.shape?, Except.ok_bind, Value.items,
    literals]
  cases List.mapM (literal d) (cell :: more) <;> rfl

theorem multiRow_lists {rows : List (List Value)} (some_rows : rows ≠ [])
    (some_cells : ∀ contents ∈ rows, contents ≠ []) :
    multiRow d (.list (rows.map .list)) = (rows.mapM (literals d)).map
      fun groups => commaJoin (groups.map fun group => ['('] ++ commaJoin group ++ [')']) := by
  have filled : (Value.list (rows.map .list)).hasItems = true :=
    (Value.hasItems_iff _).mpr (by simpa [Value.items] using some_rows)
  have each : (rows.map Value.list).mapM (row d) = rows.mapM fun contents =>
      (literals d contents).map fun group => ['('] ++ commaJoin group ++ [')'] := by
    rw [List.mapM_map]
    exact Except.mapM_congr fun contents member => row_list (some_cells contents member)
  simp only [multiRow, shapeFor, Value.shape?, Except.ok_bind, filled, Bool.not_true,
    Bool.false_eq_true, if_false, Value.mapItems_eq_mapM, Value.items, each, Except.mapM_map]
  cases rows.mapM (literals d) <;> rfl

/-! ## Records -/

/-- What is written for records, once they are known to be mappings. -/
def recordRows (d : Dialect) (first : Record) (others : List Record) :
    Except Failure (List Char) := do
  if first.entries.keys.isEmpty then throw (refuse .keyValueRows first.value .noColumns)
  let rest ← others.mapM (cells first.entries.keys)
  let names ← first.entries.keys.mapM (identifier d)
  let rows ← multiRow d (.list ((first.entries.map (·.2) :: rest).map .list))
  pure (['('] ++ commaJoin names ++ [')'] ++ " VALUES ".toList ++ rows)

theorem keyValueRows_of_head {rows : List Value} (listed : value.shape? = some .list)
    (items : value.items = first.value :: rows) :
    keyValueRows d value = rows.mapM record >>= recordRows d first := by
  have fits : value.checkSize = .ok () := by
    cases value with
    | range start stop step =>
      rw [Value.items, Value.rangeItems, List.map_map] at items
      obtain ⟨i, -, number⟩ := List.mem_map.mp (items ▸ List.mem_cons_self :
        first.value ∈ List.map _ (List.range (Value.rangeLength start stop step)))
      cases number
    | _ => rfl
  have read : record first.value = .ok first := rfl
  simp only [keyValueRows, shapeFor, listed, fits, Except.ok_bind, Value.mapItems_eq_mapM, items,
    List.mapM_cons, read]
  cases rows.mapM record <;> rfl

theorem mapM_record_value (records : List Record) :
    (records.map Record.value).mapM record = .ok records := by
  rw [Except.mapM_eq_ok, List.forall₂_map_left_iff]
  exact List.forall₂_same.mpr fun _ _ => rfl

theorem keyValueRows_of_records (listed : value.shape? = some .list)
    (records : value.items = (first :: others).map Record.value) :
    keyValueRows d value = recordRows d first others := by
  rw [keyValueRows_of_head listed records, mapM_record_value, Except.ok_bind]

theorem recordRows_of_columns (some_columns : first.entries ≠ []) :
    recordRows d first others = (do
      let rest ← others.mapM (cells first.entries.keys)
      let names ← first.entries.keys.mapM (identifier d)
      let groups ← (first.entries.map (·.2) :: rest).mapM (literals d)
      pure (tableText names groups)) := by
  have columns : first.entries.keys.isEmpty = false := by
    simpa [Mapping.keys] using some_columns
  simp only [recordRows, columns, Bool.false_eq_true, if_false, Except.pure_eq]
  cases cut : others.mapM (cells first.entries.keys) with
  | error failure => rfl
  | ok rest =>
    have some_cells : ∀ contents ∈ first.entries.map (·.2) :: rest, contents ≠ [] := by
      have some_keys : first.entries.keys ≠ [] := by simpa using columns
      rintro contents (_ | ⟨_, inside⟩)
      · simpa using some_columns
      · obtain ⟨entries, -, held⟩ := Except.exists_of_mem_mapM cut inside
        rintro rfl
        exact some_keys (List.forall₂_nil_right_iff.mp (cells_eq_ok.mp held).2)
    rw [Except.ok_bind, Except.ok_bind, multiRow_lists (List.cons_ne_nil _ _) some_cells]
    cases first.entries.keys.mapM (identifier d) with
    | error failure => rfl
    | ok names =>
      rw [Except.ok_bind, Except.ok_bind]
      cases (first.entries.map (·.2) :: rest).mapM (literals d) <;> rfl

/-! ## Records that do not fit -/

/-- What fails here does not fail for the keys of records. -/
def Consistent {α : Type} (result : Except Failure α) : Prop :=
  ∀ error, result = .error (.query error) → error.family ≠ .inconsistentRows

section Consistent

variable {α β : Type}

theorem consistent_ok (a : α) : Consistent (.ok a) := by
  rintro error ⟨⟩

theorem consistent_refuse {kind : Template.Kind} {fault : Fault}
    (plain : (SqlError.Cause.format kind value fault).family ≠ .inconsistentRows) :
    Consistent (.error (refuse kind value fault) : Except Failure α) := by
  rintro error ⟨⟩
  exact plain

theorem Consistent.bind {x : Except Failure α} {f : α → Except Failure β} (hx : Consistent x)
    (hf : ∀ a, Consistent (f a)) : Consistent (x >>= f) := by
  intro error h
  obtain h | ⟨a, -, h⟩ := Except.bind_eq_error.1 h
  · exact hx error h
  · exact hf a error h

theorem Consistent.mapM {f : α → Except Failure β} (hf : ∀ a, Consistent (f a)) (as : List α) :
    Consistent (as.mapM f) := by
  intro error h
  obtain ⟨before, a, after, rfl, -, failed⟩ := Except.mapM_eq_error.1 h
  exact hf a error failed

theorem consistent_shapeFor (kind : Template.Kind) (value : Value) :
    Consistent (shapeFor kind value) := by
  unfold shapeFor
  split
  · exact consistent_ok _
  · exact consistent_refuse (by simp [SqlError.Cause.family])

theorem consistent_scalarText (value : Value) : Consistent (scalarText value) := by
  unfold scalarText
  split
  · exact consistent_ok _
  · unfold wholeText
    split
    · exact consistent_ok _
    · exact consistent_refuse (by simp [SqlError.Cause.family])
  · split
    · exact consistent_ok _
    · exact consistent_refuse (by simp [SqlError.Cause.family])
  · unfold writable
    split
    · exact consistent_ok _
    · rintro error ⟨⟩

theorem consistent_literal (d : Dialect) (value : Value) : Consistent (literal d value) := by
  refine (consistent_shapeFor _ _).bind fun shape => ?_
  cases shape with
  | null => exact consistent_ok _
  | list | mapping => exact consistent_refuse (by simp [SqlError.Cause.family])
  | string | number | raw => exact (consistent_scalarText value).bind fun _ => consistent_ok _

theorem consistent_identifier (d : Dialect) (value : Value) : Consistent (identifier d value) := by
  unfold identifier
  split
  · exact consistent_refuse (by simp [SqlError.Cause.family])
  · split
    · exact consistent_refuse (by simp [SqlError.Cause.family])
    · exact consistent_ok _
  · split
    · exact consistent_refuse (by simp [SqlError.Cause.family])
    · exact consistent_ok _
  · exact consistent_refuse (by simp [SqlError.Cause.family])

end Consistent

theorem exists_first {α : Type} {p : α → Prop} {as : List α} {a : α} (member : a ∈ as)
    (missed : ¬ p a) :
    ∃ before b after, as = before ++ b :: after ∧ (∀ c ∈ before, p c) ∧ ¬ p b := by
  induction as with
  | nil => cases member
  | cons b as ih =>
    by_cases held : p b
    · have inside : a ∈ as :=
        (List.mem_cons.mp member).resolve_left fun equal => missed (equal ▸ held)
      obtain ⟨before, c, after, rfl, all, missed'⟩ := ih inside
      exact ⟨b :: before, c, after, rfl, List.forall_mem_cons.mpr ⟨held, all⟩, missed'⟩
    · exact ⟨[], b, as, rfl, by simp, held⟩

section Fitting

variable (proper : first.entries.Proper) (propers : ∀ other ∈ others, other.entries.Proper)
include proper propers

/-- Records that fit have cells for the columns of the first. -/
theorem cells_of_allFit (fit : ∀ other ∈ others, Fits first other) :
    ∃ rest, others.mapM (cells first.entries.keys) = .ok rest :=
  Except.exists_mapM_eq_ok fun other member =>
    cells_of_fits proper (propers other member) (fit other member)

/-- The first record that does not fit decides, whatever else is wrong. -/
theorem recordRows_of_misfit {before after : List Record} (some_columns : first.entries ≠ [])
    (split : others = before ++ other :: after) (fit : ∀ earlier ∈ before, Fits first earlier)
    (misfit : ¬ Fits first other) :
    recordRows d first others =
      .error (refuse .keyValueRows other.value (mismatch first other)) := by
  subst split
  have failed : (before ++ other :: after).mapM (cells first.entries.keys) =
      .error (refuse .keyValueRows other.value (mismatch first other)) := by
    refine Except.mapM_eq_error.mpr ⟨before, other, after, rfl, fun earlier member => ?_,
      cells_of_misfit proper (propers other (by simp)) misfit⟩
    exact cells_of_fits proper (propers earlier (by simp [member])) (fit earlier member)
  rw [recordRows_of_columns some_columns, failed, Except.error_bind]

theorem recordRows_consistent (some_columns : first.entries ≠ [])
    (fit : ∀ other ∈ others, Fits first other) : Consistent (recordRows d first others) := by
  obtain ⟨rest, cut⟩ := cells_of_allFit proper propers fit
  rw [recordRows_of_columns some_columns, cut, Except.ok_bind]
  refine (Consistent.mapM (consistent_identifier d) _).bind fun names => ?_
  refine (Consistent.mapM (fun contents => ?_) _).bind fun groups => consistent_ok _
  exact Consistent.mapM (consistent_literal d) contents

/-- Records are refused for their keys exactly when one does not fit. -/
theorem inconsistent_iff (some_columns : first.entries ≠ []) :
    (∃ error, recordRows d first others = .error (.query error) ∧
      error.family = .inconsistentRows) ↔ ∃ other ∈ others, ¬ Fits first other := by
  constructor
  · rintro ⟨error, failed, family⟩
    by_contra fit
    push Not at fit
    exact recordRows_consistent proper propers some_columns fit error failed family
  · rintro ⟨other, member, misfit⟩
    obtain ⟨before, first_such, after, split, fit, misfit'⟩ := exists_first member misfit
    refine ⟨_, recordRows_of_misfit proper propers some_columns split (by simpa using fit)
      misfit', ?_⟩
    by_cases size : first_such.entries.length = first.entries.length <;>
      simp [SqlError.of, SqlError.family, SqlError.Cause.family, mismatch, size]

end Fitting

/-! ## The order of keys -/

/-- A value that differs from another at most in the order of its entries. -/
inductive Reordered : Value → Value → Prop
  | same (value : Value) : Reordered value value
  | map {entries entries' : Mapping} (perm : entries.Perm entries') (missing : Value.Missing) :
    Reordered (.map entries missing) (.map entries' missing)

/-- A record that differs from another at most in the order of its entries. -/
def Record.Perm (other other' : Record) : Prop :=
  other.entries.Perm other'.entries ∧ other.missing = other'.missing

/-- The order of the entries of a record does not show in its cells. -/
theorem cells_of_perm {columns : List Value} {other' : Record} (proper : other.entries.Proper)
    (columns_keys : ∀ column ∈ columns, column.IsKey) (perm : other.Perm other') :
    (cells columns other).mapError Failure.message =
      (cells columns other').mapError Failure.message := by
  have found : columns.mapM other.answer? = columns.mapM other'.answer? := by
    refine Option.mapM_congr fun column member => ?_
    rw [Record.answer?, Record.answer?, Mapping.answer?, Mapping.answer?, perm.2,
      proper.find?_eq_of_perm perm.1 (columns_keys column member)]
  unfold cells
  rw [← found, perm.1.length_eq]
  split
  · rfl
  · cases columns.mapM other.answer? <;> rfl

theorem eq_value_of_record (read : record value = .ok other) : value = other.value := by
  obtain ⟨shape, -, body⟩ := Except.bind_eq_ok.1 read
  split at body
  · exact congrArg Record.value (Except.ok.inj body)
  · contradiction

/-- Rows are mappings or not whatever the order of their entries. -/
theorem mapM_record_of_reordered {rows rows' : List Value}
    (reordered : List.Forall₂ Reordered rows rows') :
    (∃ failure, rows.mapM record = .error failure ∧ rows'.mapM record = .error failure) ∨
      ∃ others others', rows.mapM record = .ok others ∧ rows'.mapM record = .ok others' ∧
        List.Forall₂ Record.Perm others others' := by
  induction reordered with
  | nil => exact .inr ⟨[], [], rfl, rfl, .nil⟩
  | @cons value value' rows rows' head _ ih =>
    have first : (∃ failure, record value = .error failure ∧ record value' = .error failure) ∨
        ∃ other other', record value = .ok other ∧ record value' = .ok other' ∧
          other.Perm other' := by
      cases head with
      | same =>
        cases read : record value with
        | error failure => exact .inl ⟨failure, rfl, rfl⟩
        | ok other => exact .inr ⟨other, other, rfl, rfl, .refl _, rfl⟩
      | map perm => exact .inr ⟨_, _, rfl, rfl, perm, rfl⟩
    rw [List.mapM_cons, List.mapM_cons]
    obtain ⟨failure, failed, failed'⟩ | ⟨other, other', read, read', perm⟩ := first
    · exact .inl ⟨failure, by rw [failed]; rfl, by rw [failed']; rfl⟩
    · rw [read, read', Except.ok_bind, Except.ok_bind]
      obtain ⟨failure, failed, failed'⟩ | ⟨others, others', held, held', perms⟩ := ih
      · exact .inl ⟨failure, by rw [failed]; rfl, by rw [failed']; rfl⟩
      · rw [held, held']
        exact .inr ⟨_, _, rfl, rfl, .cons perm perms⟩

theorem recordRows_of_perm {others' : List Record} (proper : first.entries.Proper)
    (propers : ∀ other ∈ others, other.entries.Proper)
    (perms : List.Forall₂ Record.Perm others others') :
    (recordRows d first others).mapError Failure.message =
      (recordRows d first others').mapError Failure.message := by
  by_cases some_columns : first.entries = []
  · have none : first.entries.keys.isEmpty = true := by simp [some_columns, Mapping.keys]
    rw [recordRows, recordRows, if_pos none, if_pos none]
    rfl
  · have each : List.Forall₂ (fun other other' =>
        (cells first.entries.keys other).mapError Failure.message =
          (cells first.entries.keys other').mapError Failure.message) others others' := by
      refine ((List.forall₂_and_left _ _).mpr ⟨propers, perms⟩).imp fun other other' h => ?_
      exact cells_of_perm h.1 proper.keys h.2
    rw [recordRows_of_columns some_columns, recordRows_of_columns some_columns]
    exact Except.bind_mapError_congr (Except.mapM_mapError_congr each) fun rest => rfl

/-- What is written for records does not depend on the order of the keys in any but the first, nor
does the reason why nothing is written. -/
theorem keyValueRows_of_reordered {value' : Value} {rows rows' : List Value}
    (listed : value.shape? = some .list) (listed' : value'.shape? = some .list)
    (items : value.items = first.value :: rows) (items' : value'.items = first.value :: rows')
    (propers : ∀ other : Record, other.value ∈ value.items → other.entries.Proper)
    (reordered : List.Forall₂ Reordered rows rows') :
    (keyValueRows d value).mapError Failure.message =
      (keyValueRows d value').mapError Failure.message := by
  rw [items] at propers
  rw [keyValueRows_of_head listed items, keyValueRows_of_head listed' items']
  obtain ⟨failure, failed, failed'⟩ | ⟨others, others', held, held', perms⟩ :=
    mapM_record_of_reordered reordered
  · rw [failed, failed']
  · rw [held, held', Except.ok_bind, Except.ok_bind]
    refine recordRows_of_perm (propers first List.mem_cons_self) (fun other member => ?_) perms
    obtain ⟨row, inside, read⟩ := Except.exists_of_mem_mapM held member
    exact propers other (List.mem_cons_of_mem _ (eq_value_of_record read ▸ inside))

/-! ## Tables -/

/-- What records have to be to be written as rows: the first has columns with a name each, the
others fit, and what a record answers for a column has a literal. -/
structure Tabular (d : Dialect) (first : Record) (others : List Record) : Prop where
  some_columns : first.entries ≠ []
  fit : ∀ other ∈ others, Fits first other
  named : ∀ column ∈ first.entries.keys, ∃ name, column.text? = some name ∧ name ≠ []
  literals : ∀ record ∈ first :: others, ∀ column ∈ first.entries.keys,
    ∀ cell, record.answer? column = some cell → ∃ text, literal d cell = .ok text

/-- Every value of a group stands under its column. -/
def Aligned (d : Dialect) (columns : List Value) (record : Record) (group : List (List Char)) :
    Prop :=
  List.Forall₂ (fun column text => ∃ cell, record.answer? column = some cell ∧
    literal d cell = .ok text) columns group

theorem identifier_ok_iff : (∃ text, identifier d value = .ok text) ↔
    ∃ name, value.text? = some name ∧ name ≠ [] := by
  constructor
  · rintro ⟨text, written⟩
    obtain ⟨name, named, nonempty, -⟩ := identifier_inv written
    exact ⟨name, named, nonempty⟩
  · rintro ⟨name, named, nonempty⟩
    cases value with
    | text s | raw s =>
      obtain rfl := Option.some.inj named
      have some_name : s.isEmpty = false := by simpa using nonempty
      exact ⟨_, by simp only [identifier, some_name]; rfl⟩
    | _ => cases named

/-- Columns that are written have a name each. -/
theorem names_of_identifiers {columns : List Value} {names : List (List Char)}
    (named : columns.mapM (identifier d) = .ok names) :
    ∀ column ∈ columns, ∃ name, column.text? = some name ∧ name ≠ [] :=
  fun _ member => identifier_ok_iff.mp
    (((Except.mapM_eq_ok.1 named).exists_of_mem member).imp fun _ h => h.2)

theorem same_of_identifier {column column' : Value} {text : List Char}
    (written : identifier d column = .ok text) (written' : identifier d column' = .ok text) :
    column.same column' = true := by
  obtain ⟨name, named, -, rfl⟩ := identifier_inv written
  obtain ⟨name', named', -, quoted⟩ := identifier_inv written'
  obtain rfl := d.quoteIdentifier_injective quoted
  exact Value.same_of_text? named named'

/-- Different columns have different names. -/
theorem nodup_names {columns : List Value} {names : List (List Char)}
    (distinct : columns.Pairwise fun column column' => column.same column' = false)
    (named : columns.mapM (identifier d) = .ok names) : names.Nodup := by
  have pairs := Except.mapM_eq_ok.1 named
  clear named
  induction pairs with
  | nil => exact List.nodup_nil
  | @cons column name columns names head tail ih =>
    obtain ⟨alone, distinct⟩ := List.pairwise_cons.mp distinct
    refine List.nodup_cons.mpr ⟨fun again => ?_, ih distinct⟩
    obtain ⟨column', inside, written⟩ :=
      Except.exists_of_mem_mapM (Except.mapM_eq_ok.mpr tail) again
    have differ := alone column' inside
    rw [same_of_identifier head written] at differ
    cases differ

/-- The values of the first record are what it answers for its own columns. -/
theorem answer?_self (proper : first.entries.Proper)
    (named : ∀ column ∈ first.entries.keys, ∃ name, column.text? = some name ∧ name ≠ []) :
    List.Forall₂ (fun column cell => first.answer? column = some cell) first.entries.keys
      (first.entries.map (·.2)) := by
  rw [Mapping.keys, List.forall₂_map_left_iff, List.forall₂_map_right_iff, List.forall₂_same]
  intro entry member
  have inside : entry.1 ∈ first.entries.keys := List.mem_map_of_mem member
  obtain ⟨name, known, -⟩ := named _ inside
  have held : first.entries.find? entry.1 = some entry.2 :=
    (proper.find?_eq_some_iff (proper.keys _ inside)).mpr
      ⟨entry, member, Value.same_of_text? known known, rfl⟩
  rw [Record.answer?, Mapping.answer?, held, Option.some_or]

section Fitting

variable (proper : first.entries.Proper) (propers : ∀ other ∈ others, other.entries.Proper)
include proper propers

/-- Where records are written, every value stands under its column. -/
theorem recordRows_inv {text : List Char} (written : recordRows d first others = .ok text) :
    first.entries ≠ [] ∧ (∀ other ∈ others, Fits first other) ∧ ∃ names groups,
      text = tableText names groups ∧ first.entries.keys.mapM (identifier d) = .ok names ∧
        List.Forall₂ (Aligned d first.entries.keys) (first :: others) groups := by
  have some_columns : first.entries ≠ [] := by
    intro none
    simp [recordRows, none, Mapping.keys] at written
  have fit : ∀ other ∈ others, Fits first other := by
    by_contra misfit
    push Not at misfit
    obtain ⟨error, failed, -⟩ := (inconsistent_iff proper propers some_columns (d := d)).mpr misfit
    rw [written] at failed
    cases failed
  rw [recordRows_of_columns some_columns] at written
  obtain ⟨rest, cut, written⟩ := Except.bind_eq_ok.1 written
  obtain ⟨names, named, written⟩ := Except.bind_eq_ok.1 written
  obtain ⟨groups, held, written⟩ := Except.bind_eq_ok.1 written
  refine ⟨some_columns, fit, names, groups, (Except.ok.inj written).symm, named, ?_⟩
  -- The first record is not asked, but it would answer the same values.
  have found : List.Forall₂ (fun record contents => List.Forall₂ (fun column cell =>
      record.answer? column = some cell) first.entries.keys contents) (first :: others)
      (first.entries.map (·.2) :: rest) :=
    .cons (answer?_self proper (names_of_identifiers named))
      ((Except.mapM_eq_ok.1 cut).imp fun other contents h => (cells_eq_ok.mp h).2)
  refine found.comp_of_mem (fun record _ contents group at_columns at_contents => ?_)
    (Except.mapM_eq_ok.1 held)
  exact at_columns.comp_of_mem
    (fun column _ cell text under as_literal => ⟨cell, under, as_literal⟩)
    (Except.mapM_eq_ok.1 at_contents)

/-- Records are written exactly when they make a table. -/
theorem recordRows_ok_iff :
    (∃ text, recordRows d first others = .ok text) ↔ Tabular d first others := by
  constructor
  · rintro ⟨text, written⟩
    obtain ⟨some_columns, fit, names, groups, -, named, aligned⟩ :=
      recordRows_inv proper propers written
    refine ⟨some_columns, fit, names_of_identifiers named, fun record member column at_first cell
      answered => ?_⟩
    obtain ⟨group, -, under⟩ := aligned.exists_of_mem member
    obtain ⟨text, -, cell', answered', as_literal⟩ := List.Forall₂.exists_of_mem under at_first
    obtain rfl := Option.some.inj (answered.symm.trans answered')
    exact ⟨text, as_literal⟩
  · intro tabular
    obtain ⟨rest, cut⟩ := cells_of_allFit proper propers tabular.fit
    obtain ⟨names, named⟩ := Except.exists_mapM_eq_ok fun column member =>
      identifier_ok_iff (d := d).mpr (tabular.named column member)
    rw [recordRows_of_columns tabular.some_columns, cut, Except.ok_bind, named, Except.ok_bind]
    have answers (contents : List Value) (member : contents ∈ first.entries.map (·.2) :: rest)
        (cell : Value) (inside : cell ∈ contents) : ∃ record ∈ first :: others,
          ∃ column ∈ first.entries.keys, record.answer? column = some cell := by
      obtain rfl | later := List.mem_cons.mp member
      · exact ⟨first, List.mem_cons_self, List.Forall₂.exists_of_mem
          (R := fun cell column => first.answer? column = some cell)
          (answer?_self proper tabular.named).flip inside⟩
      · obtain ⟨other, member, held⟩ := Except.exists_of_mem_mapM cut later
        exact ⟨other, List.mem_cons_of_mem _ member, answered_of_cells held inside⟩
    have held : ∃ groups,
        (first.entries.map (·.2) :: rest).mapM (Fragment.literals d) = .ok groups := by
      refine Except.exists_mapM_eq_ok fun contents member =>
        Except.exists_mapM_eq_ok fun cell inside => ?_
      obtain ⟨record, at_records, column, at_first, answered⟩ := answers contents member cell inside
      exact tabular.literals record at_records column at_first cell answered
    obtain ⟨groups, held⟩ := held
    exact ⟨_, by rw [held]; rfl⟩

end Fitting

/-- Nothing but a list of records is written. -/
theorem records_of_written {text : List Char} (written : keyValueRows d value = .ok text) :
    value.shape? = some .list ∧
      ∃ first others, value.items = (first :: others).map Record.value := by
  obtain ⟨first, others, -, -, -, read, -⟩ := keyValueRows_inv written
  obtain ⟨shape, known, body⟩ := Except.bind_eq_ok.1 written
  have items : value.items = (first :: others).map Record.value := by
    rw [← List.forall₂_eq_eq_eq, List.forall₂_map_right_iff]
    exact (Except.mapM_eq_ok.1 read).imp fun row other => eq_value_of_record
  refine ⟨?_, first, others, items⟩
  unfold shapeFor at known
  split at known
  next shape' found =>
    obtain rfl := Except.ok.inj known
    split at body
    · exact found
    · contradiction
  · contradiction

theorem Record.value_injective : Function.Injective Record.value := by
  rintro ⟨entries, missing⟩ ⟨entries', missing'⟩ same
  obtain ⟨rfl, rfl⟩ := Value.map.inj same
  rfl

theorem propers_of_mem {records : List Record} (propers : ∀ record ∈ records, record.entries.Proper)
    (other : Record) (member : other.value ∈ records.map Record.value) : other.entries.Proper := by
  obtain ⟨record, inside, same⟩ := List.mem_map.mp member
  exact Record.value_injective same ▸ propers record inside

end Fragment

end SafeSql
