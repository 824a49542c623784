import Mathlib.Data.List.Perm.Subperm
import SafeSql.Proofs.Fragment.Records
import SafeSql.Whitelist

/-!
# Whitelists

Of the records that a form sends only the fields with an allowed key are kept. What is written for
them then has no other columns and no other values: whatever else the form sent is no matter.

A key is allowed when it equals an allowed value, whatever the types of the two are.

## Main definitions

* `Whitelist.Allows`, `Whitelist.Usable` — a whitelist, and what can stand in one.
* `Whitelist.Selected` — what is kept of a record.
* `Whitelist.common` — the allowed values that another whitelist allows, too.
* `Whitelist.Alike` — records that differ in fields that are not allowed at most.

## Main statements

* `Whitelist.keep_keep`, `Whitelist.keep_comm` — one whitelist after another.
* `Whitelist.Selected.eq_keep` — what is kept is determined by what may be kept.
* `Whitelist.alike_iff` — like records are those of which the same is kept.
* `Whitelist.find?_keep` — an allowed key finds what it found before.
* `Whitelist.restrictRows_bounds` — what whitelists do to rows, and to what is written for them.
-/

namespace SafeSql

namespace Value

theorem itemLookupFault?_eq_none {items : List Value} :
    itemLookupFault? items = none ↔ ∀ item ∈ items, item.lookupFault? = none := by
  induction items with
  | nil => simp [itemLookupFault?]
  | cons item items ih => simp [itemLookupFault?, ih]

/-- What can be a key can be looked up, unless it is not a number. -/
theorem IsKey.lookupFault?_eq_none {value : Value} (key : value.IsKey)
    (itself : value.same value = true) : value.lookupFault? = none := by
  induction key with
  | @plain value plain =>
    cases value with
    | decimal x =>
      cases x with
      | nan => simp [same, sameAtom, number?, infinity?, text?, bytes?, Exact.ofDecimal?] at itself
      | _ => rfl
    | list | tuple | map | set | frozenSet | byteArray => cases plain
    | _ => rfl
  | @tuple items _ ih =>
    obtain ⟨_, equal, pairs⟩ := (same_tuple_iff _ _).mp itself
    obtain rfl := Value.tuple.inj equal
    rw [lookupFault?, itemLookupFault?_eq_none]
    exact fun item member => ih item member (List.forall₂_same.mp pairs item member)
  | frozenSet => rfl

end Value

namespace Whitelist

open Mapping (Proper)
open Fragment (Record keyValueRows setClause literal identifier tableText Aligned)

variable {allowed others : List Value} {record kept : Mapping}

/-- A key equals one of the allowed values. -/
def Allows (allowed : List Value) (key : Value) : Prop :=
  ∃ value ∈ allowed, value.same key = true

/-- Values that can be looked up, none of which is, or holds, what is not a number. -/
def Usable (allowed : List Value) : Prop :=
  ∀ value ∈ allowed, value.IsKey ∧ value.same value = true

/-- What is kept of a record: the fields with an allowed key, in their order. -/
structure Selected (allowed : List Value) (record kept : Mapping) : Prop where
  in_order : kept.Sublist record
  member_iff : ∀ entry ∈ record, entry ∈ kept ↔ Allows allowed entry.1

/-- The allowed values that equal one of the others. -/
def common (allowed others : List Value) : List Value :=
  allowed.filter fun value => others.any (value.same ·)

/-- The allowed keys of a record, in their order. -/
def columns (allowed : List Value) (record : Mapping) : List Value :=
  record.keys.filter fun key => allowed.any (·.same key)

/-- Records that differ in fields that are not allowed at most. -/
inductive Alike (allowed : List Value) : Mapping → Mapping → Prop
  | nil : Alike allowed [] []
  | field (entry : Value × Value) {rest rest' : Mapping} (alike : Alike allowed rest rest') :
    Alike allowed (entry :: rest) (entry :: rest')
  | left {entry : Value × Value} {rest record : Mapping} (strange : ¬ Allows allowed entry.1)
    (alike : Alike allowed rest record) : Alike allowed (entry :: rest) record
  | right {entry : Value × Value} {record rest : Mapping} (strange : ¬ Allows allowed entry.1)
    (alike : Alike allowed record rest) : Alike allowed record (entry :: rest)

theorem any_same_iff {key : Value} : allowed.any (·.same key) = true ↔ Allows allowed key := by
  rw [List.any_eq_true, Allows]

/-! ## One record -/

theorem selected_keep (allowed : List Value) (record : Mapping) :
    Selected allowed record (keep allowed record) where
  in_order := List.filter_sublist
  member_iff entry member := by
    rw [keep, List.mem_filter, any_same_iff]
    exact and_iff_right member

theorem keys_keep (allowed : List Value) (record : Mapping) :
    (keep allowed record).keys = columns allowed record := by
  rw [columns, Mapping.keys, Mapping.keys, keep, List.filter_map]
  rfl

theorem proper_keep (proper : record.Proper) : (keep allowed record).Proper := by
  have part : (keep allowed record).keys.Sublist record.keys := List.filter_sublist.map _
  exact ⟨proper.distinct.sublist part, fun key member => proper.keys key (part.subset member)⟩

/-- A key that equals an allowed one is allowed. -/
theorem Allows.of_same (usable : Usable allowed) {key key' : Value} (allows : Allows allowed key)
    (same : key.same key' = true) : Allows allowed key' := by
  obtain ⟨value, member, same'⟩ := allows
  exact ⟨value, member, (usable value member).1.same_trans same' same⟩

/-- An allowed key equals itself. -/
theorem Allows.same_self (usable : Usable allowed) {key : Value} (is_key : key.IsKey)
    (allows : Allows allowed key) : key.same key = true := by
  obtain ⟨value, member, same⟩ := allows
  exact is_key.same_trans ((usable value member).1.same_symm is_key same) same

/-- Nothing else is kept of a record than these fields. -/
theorem Selected.eq_keep (usable : Usable allowed) (proper : record.Proper)
    (selected : Selected allowed record kept) : kept = keep allowed record := by
  have allowed_kept (entry : Value × Value) (member : entry ∈ kept) :
      allowed.any (·.same entry.1) = true :=
    any_same_iff.mpr ((selected.member_iff entry (selected.in_order.subset member)).mp member)
  have part : kept.Sublist (keep allowed record) := by
    have filtered := selected.in_order.filter fun entry => allowed.any (·.same entry.1)
    rwa [List.filter_eq_self.mpr allowed_kept] at filtered
  have once : (keep allowed record).Nodup := by
    refine List.Pairwise.imp_of_mem (fun {entry entry'} member _ differ equal => ?_)
      (List.pairwise_map.mp (proper_keep proper).distinct)
    obtain ⟨inside, found⟩ := List.mem_filter.mp member
    have is_key : entry.1.IsKey := proper.keys _ (List.mem_map_of_mem inside)
    rw [← equal, (any_same_iff.mp found).same_self usable is_key] at differ
    cases differ
  have all : keep allowed record ⊆ kept := fun entry member => by
    obtain ⟨inside, found⟩ := List.mem_filter.mp member
    exact (selected.member_iff entry inside).mpr (any_same_iff.mp found)
  exact part.eq_of_length_le (List.subperm_of_subset once all).length_le

/-- An allowed key finds in what is kept of a record what it finds in all of it. -/
theorem find?_keep (usable : Usable allowed) (proper : record.Proper) {key : Value}
    (is_key : key.IsKey) (allows : Allows allowed key) :
    (keep allowed record).find? key = record.find? key := by
  ext value
  rw [(proper_keep proper).find?_eq_some_iff is_key, proper.find?_eq_some_iff is_key]
  constructor
  · rintro ⟨entry, member, found⟩
    exact ⟨entry, List.mem_of_mem_filter member, found⟩
  · rintro ⟨entry, member, same, held⟩
    have entry_key : entry.1.IsKey := proper.keys _ (List.mem_map_of_mem member)
    have allowed_entry : Allows allowed entry.1 :=
      allows.of_same usable (entry_key.same_symm is_key same)
    exact ⟨entry, ((selected_keep allowed record).member_iff entry member).mpr allowed_entry, same,
      held⟩

/-! ## One whitelist after another -/

/-- A key is allowed by two whitelists when it equals a value that they have in common. -/
theorem allows_common_iff (usable : Usable allowed) (usable' : Usable others) {key : Value}
    (is_key : key.IsKey) :
    Allows (common allowed others) key ↔ Allows allowed key ∧ Allows others key := by
  constructor
  · rintro ⟨value, member, same⟩
    obtain ⟨inside, shared⟩ := List.mem_filter.mp member
    obtain ⟨other, inside', same'⟩ := List.any_eq_true.mp shared
    have back : other.same value = true :=
      (usable value inside).1.same_symm (usable' other inside').1 same'
    exact ⟨⟨value, inside, same⟩, other, inside', (usable' other inside').1.same_trans back same⟩
  · rintro ⟨⟨value, inside, same⟩, other, inside', same'⟩
    have back : key.same other = true := (usable' other inside').1.same_symm is_key same'
    have shared : value.same other = true := (usable value inside).1.same_trans same back
    exact ⟨value, List.mem_filter.mpr ⟨inside, List.any_eq_true.mpr ⟨other, inside', shared⟩⟩, same⟩

theorem usable_common (usable : Usable allowed) : Usable (common allowed others) :=
  fun value member => usable value (List.mem_of_mem_filter member)

/-- Two whitelists one after the other keep what the values keep that they have in common. -/
theorem keep_keep (usable : Usable allowed) (usable' : Usable others)
    (keys : ∀ key ∈ record.keys, key.IsKey) :
    keep others (keep allowed record) = keep (common allowed others) record := by
  rw [keep, keep, keep, List.filter_filter]
  refine List.filter_congr fun entry member => ?_
  have is_key : entry.1.IsKey := keys _ (List.mem_map_of_mem member)
  rw [Bool.eq_iff_iff, Bool.and_eq_true, any_same_iff, any_same_iff, any_same_iff,
    allows_common_iff usable usable' is_key, and_comm]

/-- The order of two whitelists is no matter. -/
theorem keep_comm (allowed others : List Value) (record : Mapping) :
    keep others (keep allowed record) = keep allowed (keep others record) := by
  rw [keep, keep, keep, keep, List.filter_filter, List.filter_filter]
  exact List.filter_congr fun entry _ => Bool.and_comm _ _

/-- A whitelist that was used keeps all that is left. -/
theorem keep_idem (allowed : List Value) (record : Mapping) :
    keep allowed (keep allowed record) = keep allowed record := by
  rw [keep, keep, List.filter_filter]
  exact List.filter_congr fun entry _ => Bool.and_self _

/-! ## Fields that are not allowed -/

theorem keep_cons_of_not_allows {entry : Value × Value} (strange : ¬ Allows allowed entry.1) :
    keep allowed (entry :: record) = keep allowed record :=
  List.filter_cons_of_neg fun found => strange (any_same_iff.mp found)

theorem keep_cons_of_allows {entry : Value × Value} (allows : Allows allowed entry.1) :
    keep allowed (entry :: record) = entry :: keep allowed record := by
  have found : allowed.any (·.same entry.1) = true := any_same_iff.mpr allows
  rw [keep, keep]
  exact List.filter_cons_of_pos found

theorem Alike.keep_eq {record' : Mapping} (alike : Alike allowed record record') :
    keep allowed record = keep allowed record' := by
  induction alike with
  | nil => rfl
  | @field entry rest rest' _ ih =>
    by_cases allows : Allows allowed entry.1
    · rw [keep_cons_of_allows allows, keep_cons_of_allows allows, ih]
    · rw [keep_cons_of_not_allows allows, keep_cons_of_not_allows allows, ih]
  | left strange _ ih => rw [keep_cons_of_not_allows strange, ih]
  | right strange _ ih => rw [keep_cons_of_not_allows strange, ih]

theorem alike_of_keep_eq {record' : Mapping} (same : keep allowed record = keep allowed record') :
    Alike allowed record record' := by
  induction record generalizing record' with
  | nil =>
    induction record' with
    | nil => exact .nil
    | cons entry rest ih =>
      by_cases allows : Allows allowed entry.1
      · rw [keep_cons_of_allows allows] at same
        cases same
      · exact .right allows (ih (same.trans (keep_cons_of_not_allows allows)))
  | cons entry rest ih =>
    by_cases allows : Allows allowed entry.1
    · rw [keep_cons_of_allows allows] at same
      -- The first allowed field of the other record is the same.
      induction record' with
      | nil => cases same
      | cons entry' rest' ih' =>
        by_cases allows' : Allows allowed entry'.1
        · rw [keep_cons_of_allows allows'] at same
          obtain ⟨rfl, later⟩ := List.cons.inj same
          exact .field entry (ih later)
        · exact .right allows' (ih' (same.trans (keep_cons_of_not_allows allows')))
    · exact .left allows (ih ((keep_cons_of_not_allows allows).symm.trans same))

/-- The same is kept of two records exactly when they differ in fields that are not allowed at
most. -/
theorem alike_iff {record' : Mapping} :
    Alike allowed record record' ↔ keep allowed record = keep allowed record' :=
  ⟨Alike.keep_eq, alike_of_keep_eq⟩

/-! ## Rows -/

theorem lookable_of_usable (usable : Usable allowed) : lookable allowed = .ok allowed := by
  have none : Value.itemLookupFault? allowed = none :=
    Value.itemLookupFault?_eq_none.mpr fun value member =>
      (usable value member).1.lookupFault?_eq_none (usable value member).2
  rw [lookable, none]

/-- A record that makes no values for keys that it does not hold. -/
def plain (entries : Mapping) : Record :=
  ⟨entries, none⟩

/-- What a whitelist leaves of a mapping makes no values, whatever the mapping did. -/
theorem restrictTo_value (usable : Usable allowed) (record : Record) :
    restrictTo allowed record.value = .ok (plain (keep allowed record.entries)).value := by
  simp [restrictTo, Record.value, plain, lookable_of_usable usable]

theorem elements_of_collect {value : Value} {items : List Value}
    (listed : value.collect = .ok items) : value.elements = .ok items := by
  obtain ⟨_, -, listed⟩ := Except.bind_eq_ok.1 listed
  exact listed

theorem restrict_value {keys : Value} (listed : keys.collect = .ok allowed)
    (usable : Usable allowed) (record : Record) :
    restrict record.value keys = .ok (plain (keep allowed record.entries)).value := by
  rw [restrict, elements_of_collect listed, Except.ok_bind, restrictTo_value usable]

/-- The list of records that make no values. -/
def rowList (records : List Mapping) : Value :=
  .list ((records.map plain).map Record.value)

/-- What the records hold. -/
def contents (records : List Record) : List Mapping :=
  records.map (·.entries)

@[simp] theorem contents_plain (records : List Mapping) :
    contents (records.map plain) = records := by
  rw [contents, List.map_map]
  exact List.map_id records

variable {records : List Record}

theorem restrictRows_of_elements {rows keys : Value} (listed : keys.collect = .ok allowed)
    (usable : Usable allowed) (held : rows.elements = .ok (records.map Record.value)) :
    restrictRows rows keys = .ok (rowList ((contents records).map (keep allowed))) := by
  have each : (records.map Record.value).mapM (restrictTo allowed) =
      .ok ((((contents records).map (keep allowed)).map plain).map Record.value) := by
    rw [contents, Except.mapM_eq_ok, List.map_map, List.map_map, List.map_map,
      List.forall₂_map_left_iff, List.forall₂_map_right_iff]
    exact List.forall₂_same.mpr fun record _ => restrictTo_value usable record
  rw [restrictRows, listed, Except.ok_bind]
  split
  · rw [Value.mapItems_eq_mapM, Except.ok.inj held, each]
    rfl
  · rw [held, Except.ok_bind, each]
    rfl

section Contents

variable {records : List Mapping}

theorem restrictRows_rowList {keys : Value} (listed : keys.collect = .ok allowed)
    (usable : Usable allowed) (records : List Mapping) :
    restrictRows (rowList records) keys = .ok (rowList (records.map (keep allowed))) := by
  have held : (rowList records).elements = .ok ((records.map plain).map Record.value) := rfl
  rw [restrictRows_of_elements listed usable held, contents_plain]

theorem map_keep_keep (usable : Usable allowed) (usable' : Usable others)
    (propers : ∀ record ∈ records, record.Proper) :
    (records.map (keep allowed)).map (keep others) =
      records.map (keep (common allowed others)) := by
  rw [List.map_map]
  exact List.map_congr_left fun record member =>
    keep_keep usable usable' (propers record member).keys

theorem map_keep_comm (allowed others : List Value) (records : List Mapping) :
    (records.map (keep allowed)).map (keep others) =
      (records.map (keep others)).map (keep allowed) := by
  rw [List.map_map, List.map_map]
  exact List.map_congr_left fun record _ => keep_comm allowed others record

theorem map_keep_idem (allowed : List Value) (records : List Mapping) :
    (records.map (keep allowed)).map (keep allowed) = records.map (keep allowed) := by
  rw [List.map_map]
  exact List.map_congr_left fun record _ => keep_idem allowed record

theorem map_keep_of_alike {records' : List Mapping}
    (alike : List.Forall₂ (Alike allowed) records records') :
    records.map (keep allowed) = records'.map (keep allowed) := by
  induction alike with
  | nil => rfl
  | cons head _ ih => rw [List.map_cons, List.map_cons, head.keep_eq, ih]

/-- There is one way only to keep these fields of records. -/
theorem eq_map_keep {kept : List Mapping} (usable : Usable allowed)
    (propers : ∀ record ∈ records, record.Proper)
    (selected : List.Forall₂ (Selected allowed) records kept) :
    kept = records.map (keep allowed) := by
  rw [eq_comm, ← List.forall₂_eq_eq_eq, List.forall₂_map_left_iff]
  exact ((List.forall₂_and_left _ _).mpr ⟨propers, selected⟩).imp fun record kept h =>
    (h.2.eq_keep usable h.1).symm

end Contents

/-! ## Texts -/

/-- The name of a column is the quoted text of an allowed key. -/
def Named (d : Dialect) (allowed : List Value) (key : Value) (name : List Char) : Prop :=
  Allows allowed key ∧ ∃ text, key.text? = some text ∧ name = d.quoteIdentifier text

/-- An assignment puts the literal of a value under the name of an allowed key. -/
def Assigned (d : Dialect) (allowed : List Value) (entry : Value × Value) (text : List Char) :
    Prop :=
  ∃ name content, Named d allowed entry.1 name ∧ literal d entry.2 = .ok content ∧
    text = name ++ ['='] ++ content

theorem named_of_identifier {d : Dialect} {key : Value} {name : List Char}
    (allows : Allows allowed key) (written : identifier d key = .ok name) :
    Named d allowed key name := by
  obtain ⟨text, known, -, rfl⟩ := Fragment.identifier_inv written
  exact ⟨allows, text, known, rfl⟩

theorem allows_of_mem_columns {key : Value} (member : key ∈ columns allowed record) :
    Allows allowed key ∧ key ∈ record.keys := by
  obtain ⟨inside, found⟩ := List.mem_filter.mp member
  exact ⟨any_same_iff.mp found, inside⟩

/-- What stands under its column in what is kept of a record stands there in all of it. -/
theorem aligned_of_keep {d : Dialect} {keys : List Value} {group : List (List Char)}
    {record : Record} (usable : Usable allowed) (proper : record.entries.Proper)
    (columns : ∀ key ∈ keys, key.IsKey ∧ Allows allowed key)
    (aligned : Aligned d keys (plain (keep allowed record.entries)) group) :
    Aligned d keys record group := by
  refine ((List.forall₂_and_left _ _).mpr ⟨columns, aligned⟩).imp fun key text h => ?_
  obtain ⟨⟨is_key, allows⟩, cell, answered, written⟩ := h
  rw [Fragment.answer?_of_plain rfl, plain, find?_keep usable proper is_key allows] at answered
  exact ⟨cell, by rw [Record.answer?, Mapping.answer?, answered, Option.some_or], written⟩

/-- Where what is kept of rows is written, the columns are the allowed keys of the first row, and
every row has its own values under them. -/
theorem keyValueRows_keep_inv {d : Dialect} {text : List Char} (usable : Usable allowed)
    (propers : ∀ record ∈ records, record.entries.Proper)
    (written : keyValueRows d (rowList ((contents records).map (keep allowed))) = .ok text) :
    ∃ first others names groups, records = first :: others ∧ text = tableText names groups ∧
      List.Forall₂ (Named d allowed) (columns allowed first.entries) names ∧
      List.Forall₂ (Aligned d (columns allowed first.entries)) records groups := by
  obtain ⟨listed, _, _, items⟩ := Fragment.records_of_written written
  cases records with
  | nil => cases items
  | cons first others =>
    let kept (record : Record) : Record := plain (keep allowed record.entries)
    obtain ⟨proper, later⟩ := List.forall_mem_cons.mp propers
    have proper_others : ∀ record ∈ others.map kept, record.entries.Proper :=
      List.forall_mem_map.mpr fun record member => proper_keep (later record member)
    have records_eq : (rowList ((contents (first :: others)).map (keep allowed))).items =
        (kept first :: others.map kept).map Record.value := by
      simp [rowList, contents, Value.items, kept]
    have rows : Fragment.recordRows d (kept first) (others.map kept) = .ok text :=
      (Fragment.keyValueRows_of_records listed records_eq).symm.trans written
    obtain ⟨-, -, names, groups, rfl, named, aligned⟩ :=
      Fragment.recordRows_inv (proper_keep proper) proper_others rows
    have columns_eq : (kept first).entries.keys = columns allowed first.entries :=
      keys_keep allowed first.entries
    rw [columns_eq] at named aligned
    have allowed_key (key : Value) (member : key ∈ columns allowed first.entries) :
        key.IsKey ∧ Allows allowed key :=
      ⟨proper.keys key (allows_of_mem_columns member).2, (allows_of_mem_columns member).1⟩
    refine ⟨first, others, names, groups, rfl, rfl, ?_, ?_⟩
    · refine ((List.forall₂_and_left _ _).mpr ⟨allowed_key, Except.mapM_eq_ok.1 named⟩).imp
        fun key name h => named_of_identifier h.1.2 h.2
    · rw [← List.map_cons, List.forall₂_map_left_iff] at aligned
      exact ((List.forall₂_and_left _ _).mpr ⟨propers, aligned⟩).imp
        fun record group h => aligned_of_keep usable h.1 allowed_key h.2

theorem setClause_keep_inv {d : Dialect} {text : List Char}
    (written : setClause d (plain (keep allowed record)).value = .ok text) :
    ∃ assignments, text = Fragment.commaJoin assignments ∧
      List.Forall₂ (Assigned d allowed) (keep allowed record) assignments := by
  obtain ⟨entries, missing, texts, held, -, each, rfl⟩ := Fragment.setClause_inv written
  obtain ⟨rfl, -⟩ := Value.map.inj held
  have allowed_entry (entry : Value × Value) (member : entry ∈ keep allowed record) :
      Allows allowed entry.1 :=
    ((selected_keep allowed record).member_iff entry (List.mem_of_mem_filter member)).mp member
  refine ⟨texts, rfl, ((List.forall₂_and_left _ _).mpr
    ⟨allowed_entry, Except.mapM_eq_ok.1 each⟩).imp fun entry text h => ?_⟩
  obtain ⟨name, content, named, as_literal, rfl⟩ := Fragment.assignment_inv h.2
  exact ⟨name, content, named_of_identifier h.1 named, as_literal, rfl⟩

theorem collect_list (items : List Value) : (Value.list items).collect = .ok items := rfl

/-- A whitelist keeps all rows, in their order, and of each row the fields whose key equals an
allowed value, and nothing else. One whitelist after another keeps what the values keep that they
have in common, in whatever order the two are used. When what is kept is accepted as rows, or what
is kept of one row as assignments, the names that are written are those of allowed keys, as they
come in the first row, with the values of the original rows. Fields that are not allowed are no
matter, neither for what is written nor for the reason why nothing is. -/
theorem restrictRows_bounds {rows keys : Value} (listed : keys.collect = .ok allowed)
    (usable : Usable allowed) (held : rows.elements = .ok (records.map Record.value))
    (propers : ∀ record ∈ records, record.entries.Proper) :
    (∃ kept : List Mapping, restrictRows rows keys = .ok (rowList kept) ∧
      ∀ kept', List.Forall₂ (Selected allowed) (contents records) kept' ↔ kept' = kept) ∧
    (restrictRows rows keys >>= (restrictRows · keys)) = restrictRows rows keys ∧
    (∀ keys' others, keys'.collect = .ok others → Usable others →
      (restrictRows rows keys >>= (restrictRows · keys')) =
          restrictRows rows (.list (common allowed others)) ∧
        (restrictRows rows keys' >>= (restrictRows · keys)) =
          (restrictRows rows keys >>= (restrictRows · keys'))) ∧
    (∀ d text, (restrictRows rows keys >>= keyValueRows d) = .ok text →
      ∃ first others names groups, records = first :: others ∧ text = tableText names groups ∧
        List.Forall₂ (Named d allowed) (columns allowed first.entries) names ∧
        List.Forall₂ (Aligned d (columns allowed first.entries)) records groups) ∧
    (∀ record ∈ records, ∃ kept, restrict record.value keys = .ok (plain kept).value ∧
      Selected allowed record.entries kept ∧ ∀ d text, setClause d (plain kept).value = .ok text →
        ∃ assignments, text = Fragment.commaJoin assignments ∧
          List.Forall₂ (Assigned d allowed) kept assignments) ∧
    ∀ d,
      (∀ rows' records', rows'.elements = .ok (records'.map Record.value) →
        List.Forall₂ (Alike allowed) (contents records) (contents records') →
        (restrictRows rows' keys >>= keyValueRows d) =
          (restrictRows rows keys >>= keyValueRows d)) ∧
      ∀ record record' : Record, Alike allowed record.entries record'.entries →
        (restrict record'.value keys >>= setClause d) =
          (restrict record.value keys >>= setClause d) := by
  have kept := restrictRows_of_elements listed usable held
  have all : ∀ record ∈ contents records, record.Proper := List.forall_mem_map.mpr propers
  refine ⟨⟨(contents records).map (keep allowed), kept, fun kept' => ⟨?_, ?_⟩⟩, ?_,
    fun keys' others listed' usable' => ⟨?_, ?_⟩, fun d text written => ?_,
    fun record member => ⟨keep allowed record.entries, ?_⟩, fun d => ⟨?_, ?_⟩⟩
  · exact eq_map_keep usable all
  · rintro rfl
    exact List.forall₂_map_right_iff.mpr (List.forall₂_same.mpr fun record _ =>
      selected_keep allowed record)
  · rw [kept, Except.ok_bind, restrictRows_rowList listed usable, map_keep_idem]
  · rw [kept, Except.ok_bind, restrictRows_rowList listed' usable',
      restrictRows_of_elements (collect_list _) (usable_common usable) held,
      map_keep_keep usable usable' all]
  · rw [restrictRows_of_elements listed' usable' held, Except.ok_bind,
      restrictRows_rowList listed usable, kept, Except.ok_bind,
      restrictRows_rowList listed' usable', map_keep_comm]
  · rw [kept] at written
    exact keyValueRows_keep_inv usable propers written
  · exact ⟨restrict_value listed usable record, selected_keep allowed record.entries,
      fun d text written => setClause_keep_inv written⟩
  · intro rows' records' held' alike
    rw [kept, restrictRows_of_elements listed usable held', map_keep_of_alike alike]
  · intro record record' alike
    rw [restrict_value listed usable, restrict_value listed usable, alike.keep_eq]

theorem restrictRows_bounds_other_types :
    let allowed : List Value := [.text "id", .raw "name", .int 1]
    let others : List Value := [.text "name", .bool true]
    let first : Record := plain
      [(.text "name", .text "O'Neil"), (.text "is_admin", .bool true), (.raw "id", .int 7)]
    let bare : Record := plain [(.text "name", .text "O'Neil"), (.raw "id", .int 7)]
    let second : Record :=
      ⟨[(.text "id", .int 8), (.text "note", .null), (.text "name", .null)],
        some ("<class 'list'>", .list [])⟩
    let rows : Value := .tuple [first.value, second.value]
    let keys : Value := .tuple allowed
    let names : List Value := [.text "name", .raw "id"]
    (∃ kept : List Mapping, restrictRows rows keys = .ok (rowList kept) ∧
      List.Forall₂ (Selected allowed) [first.entries, second.entries] kept) ∧
    (restrictRows rows keys >>= (restrictRows · (.list others))) =
      restrictRows rows (.list [.raw "name", .int 1]) ∧
    (∃ quoted groups, (restrictRows rows keys >>= keyValueRows .sqlite) =
        .ok (tableText quoted groups) ∧ List.Forall₂ (Named .sqlite allowed) names quoted ∧
      List.Forall₂ (Aligned .sqlite names) [first, second] groups) ∧
    (restrictRows (.list [bare.value, second.value]) keys >>= keyValueRows .sqlite) =
      (restrictRows rows keys >>= keyValueRows .sqlite) := by
  intro allowed others first bare second rows keys names
  have usable : Usable allowed := by
    simp only [Usable, allowed, List.forall_mem_cons]
    exact ⟨⟨.plain rfl, by decide +kernel⟩, ⟨.plain rfl, by decide +kernel⟩,
      ⟨.plain rfl, by decide +kernel⟩, by simp⟩
  have usable' : Usable others := by
    simp only [Usable, others, List.forall_mem_cons]
    exact ⟨⟨.plain rfl, by decide +kernel⟩, ⟨.plain rfl, by decide +kernel⟩, by simp⟩
  have propers : ∀ record ∈ [first, second], record.entries.Proper := by
    simp only [List.forall_mem_cons]
    refine ⟨⟨?_, ?_⟩, ⟨?_, ?_⟩, by simp⟩
    · unfold Mapping.Distinct
      decide +kernel
    · simpa [first, plain, Mapping.keys] using ⟨.plain rfl, .plain rfl, .plain rfl⟩
    · unfold Mapping.Distinct
      decide +kernel
    · simpa [second, Mapping.keys] using ⟨.plain rfl, .plain rfl, .plain rfl⟩
  have strange : ¬ Allows allowed (.text "is_admin") := by
    rw [← any_same_iff]
    decide +kernel
  have shared : common allowed others = [.raw "name", .int 1] := by
    have found : allowed.map (fun value => others.any (value.same ·)) = [false, true, true] := by
      decide +kernel
    simp only [allowed, List.map_cons, List.map_nil, List.cons.injEq, and_true] at found
    simp only [common, allowed, List.filter, found]
  have columns_eq : columns allowed first.entries = names := by
    have found : first.entries.keys.map (fun key => allowed.any (·.same key)) =
        [true, false, true] := by decide +kernel
    simp only [first, plain, Mapping.keys, List.map_cons, List.map_nil, List.cons.injEq,
      and_true] at found
    simp only [columns, first, plain, Mapping.keys, List.map_cons, List.map_nil, List.filter, found,
      names]
  obtain ⟨⟨kept, restricted, selected⟩, -, composed, texts, -, unseen⟩ :=
    @restrictRows_bounds allowed [first, second] rows keys rfl usable rfl propers
  obtain ⟨text, written⟩ : ∃ text, (restrictRows rows keys >>= keyValueRows .sqlite) = .ok text :=
    Except.exists_of_isSome (by decide +kernel)
  obtain ⟨_, _, quoted, groups, split, rfl, named, aligned⟩ := texts .sqlite text written
  obtain ⟨rfl, -⟩ := List.cons.inj split
  rw [columns_eq] at named aligned
  refine ⟨⟨kept, restricted, (selected kept).mpr rfl⟩,
    shared ▸ (composed (.list others) others rfl usable').1, ⟨quoted, groups, written, named, aligned⟩, ?_⟩
  exact (unseen .sqlite).1 (.list [bare.value, second.value]) [bare, second] rfl
    (.cons (.field _ (.left strange (.field _ .nil))) (.cons (alike_iff.mpr rfl) .nil))

end Whitelist

end SafeSql
