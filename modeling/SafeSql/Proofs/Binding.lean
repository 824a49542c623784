import SafeSql.Proofs.Fragment.Records
import SafeSql.Proofs.Rendering.NamedTotality

/-!
# Binding by name

Placeholders and a mapping of texts go together exactly when every placeholder has a name and these
names are the keys. Every placeholder then gets the value of its name. Otherwise the error says
what is wrong: which placeholders have no name, or else which names have no value, in the order in
which they are used, and which keys are no names, in the order of the mapping.

## Main definitions

* `Value.name?` — the name that a key is, when it is text.
* `Binding.uses`, `Binding.keyNames` — the names of placeholders, and those of a mapping.
* `Binding.Keywords` — a mapping with texts as keys, each of them once.
* `Binding.Matching` — placeholders and a mapping have the same names.
* `Binding.Refused` — the placeholders and the values do not go together, for a reason.

## Main statements

* `List.pairwise_idxOf_eraseDups` — without repetitions, elements stand in the order of first use.
* `Binding.matching_iff` — the two lists of an error decide whether the names are the same.
* `Binding.named_of_matching`, `Binding.named_of_other` — what becomes of placeholders with names.
* `Binding.named_iff_matching` — what binding by name gives, and why it gives nothing.
-/

/-- Without its repetitions a list holds its elements in the order of their first occurrences. -/
theorem List.pairwise_idxOf_eraseDups {α : Type} [DecidableEq α] (as : List α) :
    as.eraseDups.Pairwise fun a b => as.idxOf a < as.idxOf b := by
  induction as using List.reverseRecOn with
  | nil => exact .nil
  | append_singleton as a ih =>
    have earlier : as.eraseDups.Pairwise fun b c =>
        (as ++ [a]).idxOf b < (as ++ [a]).idxOf c := by
      refine ih.imp_of_mem fun {b c} first second before => ?_
      rw [mem_eraseDups] at first second
      rwa [idxOf_append_of_mem first, idxOf_append_of_mem second]
    rw [eraseDups_concat]
    split
    · exact earlier
    next absent =>
      refine pairwise_append.mpr ⟨earlier, pairwise_singleton _ a, fun b member c last => ?_⟩
      obtain rfl := mem_singleton.mp last
      rw [mem_eraseDups] at member
      rw [idxOf_append_of_mem member, idxOf_append_of_notMem absent]
      exact Nat.lt_add_right _ (idxOf_lt_length_of_mem member)

namespace SafeSql

namespace Value

/-- The name that a key is, when it is text; raw text is text. -/
def name? : Value → Option String
  | .text s | .raw s => some s
  | _ => none

theorem text?_eq_some_iff {key : Value} {name : String} :
    key.text? = some name.toList ↔ key.name? = some name := by
  cases key with
  | text | raw => simp [text?, name?, String.toList_inj]
  | _ => exact iff_of_false (Option.some_ne_none _).symm (Option.some_ne_none _).symm

theorem text_same_iff {name : String} {key : Value} :
    (Value.text name).same key = true ↔ key.name? = some name := by
  rw [← text?_eq_some_iff]
  refine ⟨fun same => ?_, fun named => same_of_text? rfl named⟩
  rw [same_of_isPlain rfl, sameAtom_iff] at same
  obtain ⟨aspect, seen, seen'⟩ := same
  obtain rfl := Option.some.inj ((aspect?_of_text? rfl).symm.trans seen)
  exact shows_of_aspect? seen'

theorem same_text_iff {key : Value} {name : String} :
    key.same (.text name) = true ↔ key.name? = some name := by
  rw [← text?_eq_some_iff]
  refine ⟨fun same => ?_, fun named => same_of_text? named rfl⟩
  -- What has elements equals no text, so that the key is looked at as a whole.
  have whole : sameAtom key (.text name) = true := by
    cases key with
    | list | tuple | map | byteArray => simpa [Value.same] using same
    | set | frozenSet => simp [Value.same, setItems?] at same
    | _ => rwa [same_of_isPlain rfl] at same
  obtain ⟨aspect, seen, seen'⟩ := (sameAtom_iff key _).mp whole
  obtain rfl := Option.some.inj ((aspect?_of_text? rfl).symm.trans seen')
  exact shows_of_aspect? seen

end Value

namespace Binding

open Template (Placeholder)
open Rendering (Keyed)

variable {found : List Placeholder} {values : Mapping}

/-- The names of placeholders, in order and as often as they are used. -/
def uses (found : List Placeholder) : List String :=
  found.filterMap (·.name)

/-- The names for which a mapping has values, in order. -/
def keyNames (values : Mapping) : List String :=
  values.keys.filterMap Value.name?

/-- A mapping with texts as keys, each of them once. -/
structure Keywords (values : Mapping) : Prop where
  distinct : values.Distinct
  texts : ∀ key ∈ values.keys, key.name?.isSome

/-- The names that placeholders use are the keys of a mapping. -/
def Matching (found : List Placeholder) (values : Mapping) : Prop :=
  ∀ name, name ∈ uses found ↔ name ∈ keyNames values

/-- A value is the one that a mapping has for a name. -/
def Gives (values : Mapping) (name : String) (value : Value) : Prop :=
  (∃ entry ∈ values, entry.1.name? = some name) ∧
    ∀ entry ∈ values, entry.1.name? = some name → entry.2 = value

/-- The placeholders and the values do not go together, for a reason that is put into words. -/
def Refused (ended : Except Failure (List Binding)) (fault : Fault) (reason : String) : Prop :=
  ∃ error : SqlError, ended = .error (.query error) ∧ error.cause = .binding fault ∧
    error.family = .arityMismatch ∧ error.reason = reason

theorem refused_binding (fault : Fault) :
    Refused (.error (.query (.of (.binding fault) none))) fault fault.message :=
  ⟨_, rfl, rfl, rfl, rfl⟩

/-! ## Names and keys -/

theorem mem_uses {name : String} : name ∈ uses found ↔ ∃ p ∈ found, p.name = some name := by
  simp [uses]

theorem mem_keyNames {name : String} :
    name ∈ keyNames values ↔ ∃ entry ∈ values, entry.1.name? = some name := by
  simp [keyNames, Mapping.keys]

theorem contains_text {name : String} : values.contains (.text name) ↔ name ∈ keyNames values := by
  simp [Mapping.contains, Value.same_text_iff, mem_keyNames]

theorem mem_missing {name : String} :
    name ∈ missing found values ↔ name ∈ uses found ∧ name ∉ keyNames values := by
  rw [← contains_text, mem_uses, ← Rendering.mem_names]
  simp [missing]

/-- Names without a value are listed in the order of their first use. -/
theorem pairwise_missing : (missing found values).Pairwise fun name other =>
    (uses found).idxOf name < (uses found).idxOf other :=
  (List.pairwise_idxOf_eraseDups _).filter _

theorem any_same_key {key : Value} {name : String} (named : key.name? = some name) :
    ((names found).any fun used => (Value.text used).same key) = decide (name ∈ uses found) := by
  rw [Bool.eq_iff_iff]
  simp [Value.text_same_iff, named, names, uses]

/-- Keys that are texts are shown as they are. -/
theorem keyTexts_of_texts {keys : List Value} (texts : ∀ key ∈ keys, key.name?.isSome) :
    keyTexts keys = .ok (keys.filterMap Value.name?) := by
  induction keys with
  | nil => rfl
  | cons key keys ih =>
    obtain ⟨first, rest⟩ := List.forall_mem_cons.1 texts
    obtain ⟨name, named⟩ := Option.isSome_iff_exists.1 first
    have plain : key.plain? = some name.toList := by
      cases key with
      | text | raw => simpa [Value.name?, Value.plain?, ← String.toList_inj] using named
      | _ => cases named
    simp [keyTexts, plain, writable, ih rest, named]

/-- The keys that are no names of placeholders, in the order of the mapping. -/
def strangers (found : List Placeholder) (values : Mapping) : List String :=
  (keyNames values).filter fun name => decide (name ∉ uses found)

theorem keyTexts_unused (texts : ∀ key ∈ values.keys, key.name?.isSome) :
    keyTexts (unused found values) = .ok (strangers found values) := by
  have inside : ∀ key ∈ unused found values, key.name?.isSome :=
    fun key member => texts key (List.mem_of_mem_filter member)
  rw [keyTexts_of_texts inside, unused, strangers, keyNames, List.filterMap_filter,
    List.filter_filterMap]
  congr 1
  refine List.filterMap_congr fun key member => ?_
  obtain ⟨name, named⟩ := Option.isSome_iff_exists.1 (texts key member)
  by_cases used : name ∈ uses found <;> simp [any_same_key named, named, used, Option.filter]

/-- Placeholders and a mapping have the same names when nothing can be listed. -/
theorem matching_iff : Matching found values ↔
    missing found values = [] ∧ strangers found values = [] := by
  simp only [Matching, List.eq_nil_iff_forall_not_mem, mem_missing, strangers, List.mem_filter,
    decide_eq_true_eq]
  grind

theorem keyed_of_matching (texts : ∀ key ∈ values.keys, key.name?.isSome)
    (matching : Matching found values) : Keyed found values where
  used key member := by
    obtain ⟨name, named⟩ := Option.isSome_iff_exists.1 (texts key member)
    obtain ⟨entry, inside, rfl⟩ := List.mem_map.1 member
    have known : name ∈ keyNames values := mem_keyNames.2 ⟨entry, inside, named⟩
    obtain ⟨p, at_place, used⟩ := mem_uses.1 ((matching name).2 known)
    exact ⟨p, at_place, name, used, Value.text_same_iff.2 named⟩
  given p member name named :=
    contains_text.2 ((matching name).1 (mem_uses.2 ⟨p, member, named⟩))

/-! ## Outcomes -/

theorem Keywords.proper (keywords : Keywords values) : values.Proper := by
  refine ⟨keywords.distinct, fun key member => .plain ?_⟩
  have text := keywords.texts key member
  cases key <;> first | rfl | cases text

/-- The value that is found for a name is the only one for it. -/
theorem Keywords.gives (keywords : Keywords values) {name : String} {value : Value}
    (held : values.find? (.text name) = some value) : Gives values name value := by
  have find {value : Value} : values.find? (.text name) = some value ↔
      ∃ entry ∈ values, entry.1.name? = some name ∧ entry.2 = value := by
    simpa only [Value.same_text_iff] using
      keywords.proper.find?_eq_some_iff (.plain rfl : (Value.text name).IsKey)
  obtain ⟨entry, member, named, -⟩ := find.1 held
  refine ⟨⟨entry, member, named⟩, fun other inside again => ?_⟩
  exact Option.some.inj ((find.2 ⟨other, inside, again, rfl⟩).symm.trans held)

/-- Placeholders that have the keys for their names get the values of these keys. -/
theorem named_of_matching (source : String) (made : Value.Missing) (keywords : Keywords values)
    (named : ∀ p ∈ found, p.name.isSome) (matching : Matching found values) :
    ∃ bindings, Binding.named source found (.map values made) = .ok bindings ∧
      List.Forall₂ (fun p binding => binding.1 = p ∧
        ∃ name, p.name = some name ∧ Gives values name binding.2) found bindings := by
  obtain ⟨arguments, all, -, bound⟩ :=
    Rendering.named_of_keyed source named (keyed_of_matching keywords.texts matching) made
  refine ⟨_, bound, ?_⟩
  have held := Option.mapM_eq_some.1 all
  clear all bound named matching
  induction held with
  | nil => exact .nil
  | cons first _ ih =>
    obtain ⟨name, known, here⟩ := Option.bind_eq_some_iff.1 first
    exact .cons ⟨rfl, name, known, keywords.gives here⟩ ih

theorem named_of_unnamed (source : String) (made : Value.Missing)
    (unnamed : ∃ p ∈ found, p.name = none) :
    Binding.named source found (.map values made) =
      .error (.query (.of (.binding (.unnamed (unnamedOffsets found) source)) none)) := by
  have offsets : unnamedOffsets found ≠ [] := by
    rw [ne_eq, Rendering.unnamedOffsets_eq_nil]
    obtain ⟨p, member, none⟩ := unnamed
    intro named
    simpa [none] using named p member
  simp [Binding.named, offsets]

/-- Names without a value and keys without a use are both listed. -/
theorem named_of_other (source : String) (made : Value.Missing)
    (texts : ∀ key ∈ values.keys, key.name?.isSome) (named : ∀ p ∈ found, p.name.isSome)
    (other : ¬ Matching found values) :
    Binding.named source found (.map values made) =
      .error (.query (.of (.binding
        (.unmatched (missing found values) (strangers found values) source)) none)) := by
  rw [matching_iff] at other
  simp [Binding.named, Rendering.unnamedOffsets_eq_nil.2 named, keyTexts_unused texts, other]

/-- Binding by name succeeds exactly when every placeholder has a name and the names are the keys;
each placeholder then gets the value of its name. Otherwise the error lists the places of all
placeholders without a name, or else the names without a value, each once in the order of first
use, and the keys that are not used, in the order of the mapping. -/
theorem named_iff_matching (source : String) (found : List Placeholder) (made : Value.Missing)
    (keywords : Keywords values) :
    let ended := Binding.named source found (.map values made)
    ((∃ bindings, ended = .ok bindings) ↔
      (∀ p ∈ found, p.name.isSome) ∧ Matching found values) ∧
    (∀ bindings, ended = .ok bindings →
      List.Forall₂ (fun p binding => binding.1 = p ∧
        ∃ name, p.name = some name ∧ Gives values name binding.2) found bindings) ∧
    ((∃ p ∈ found, p.name = none) →
      let offsets := (found.filter (·.name.isNone)).map (·.offset)
      Refused ended (.unnamed offsets source)
        ("Positional placeholders at offsets " ++ ", ".intercalate (offsets.map toString) ++
          " cannot be bound by name in [" ++ source ++ "]")) ∧
    ((∀ p ∈ found, p.name.isSome) → ¬ Matching found values → ∃ missing,
      let unused := (keyNames values).filter fun name => decide (name ∉ uses found)
      (∀ name, name ∈ missing ↔ name ∈ uses found ∧ name ∉ keyNames values) ∧
      (missing.Pairwise fun name other => (uses found).idxOf name < (uses found).idxOf other) ∧
      Refused ended (.unmatched missing unused source)
        ("Named arguments don't match placeholders (" ++
          "; ".intercalate (complaints missing unused) ++ ") in [" ++ source ++ "]")) := by
  intro ended
  have succeeds (named : ∀ p ∈ found, p.name.isSome) (matching : Matching found values) :=
    named_of_matching source made keywords named matching
  have unnamed (unnamed : ∃ p ∈ found, p.name = none) :
      ended = .error (.query (.of (.binding (.unnamed (unnamedOffsets found) source)) none)) :=
    named_of_unnamed source made unnamed
  have other (named : ∀ p ∈ found, p.name.isSome) (other : ¬ Matching found values) :
      ended = .error (.query (.of (.binding
        (.unmatched (missing found values) (strangers found values) source)) none)) :=
    named_of_other source made keywords.texts named other
  -- What is not accepted is refused, so that nothing else is accepted.
  have accepted {bindings : List Binding} (bound : ended = .ok bindings) :
      (∀ p ∈ found, p.name.isSome) ∧ Matching found values := by
    by_cases named : ∀ p ∈ found, p.name.isSome
    · refine ⟨named, ?_⟩
      by_contra differ
      cases bound.symm.trans (other named differ)
    · cases bound.symm.trans (unnamed (by simpa using named))
  refine ⟨⟨fun ⟨bindings, bound⟩ => accepted bound, ?_⟩, fun bindings bound => ?_, fun some => ?_,
    fun named differ => ⟨missing found values, fun name => mem_missing, pairwise_missing, ?_⟩⟩
  · rintro ⟨named, matching⟩
    obtain ⟨bindings, bound, -⟩ := succeeds named matching
    exact ⟨bindings, bound⟩
  · obtain ⟨named, matching⟩ := accepted bound
    obtain ⟨bindings', bound', each⟩ := succeeds named matching
    cases bound.symm.trans bound'
    exact each
  · rw [unnamed some]
    exact refused_binding _
  · rw [other named differ]
    exact refused_binding _

/-- Two names without a value, one of them used twice, and two keys without a use; a third name has
the value null. -/
theorem named_iff_matching_both_lists :
    let source := "SELECT ?s:b, ?i:a, ?s:b, ?p:c"
    let found : List Placeholder := [⟨.string, some "b", 7⟩, ⟨.integer, some "a", 13⟩,
      ⟨.string, some "b", 19⟩, ⟨.raw, some "c", 25⟩]
    let values : Mapping := [(.raw "x", .int 1), (.text "a", .null), (.text "y", .int 2)]
    Keywords values ∧ ∃ missing, (∀ name, name ∈ missing ↔ name = "b" ∨ name = "c") ∧
      Refused (Binding.named source found (.map values none)) (.unmatched missing ["x", "y"] source)
        ("Named arguments don't match placeholders (" ++
          "; ".intercalate (complaints missing ["x", "y"]) ++ ") in [" ++ source ++ "]") := by
  intro source found values
  have keywords : Keywords values := by
    refine ⟨?_, by simp [values, Mapping.keys, Value.name?]⟩
    unfold Mapping.Distinct
    decide +kernel
  obtain ⟨-, -, -, refused⟩ := named_iff_matching source found none keywords
  have differ : ¬ Matching found values := fun matching =>
    absurd ((matching "b").1 (by decide)) (by decide)
  obtain ⟨missing, listed, -, reason⟩ := refused (by decide) differ
  have unused : (keyNames values).filter (fun name => decide (name ∉ uses found)) = ["x", "y"] := by
    decide
  rw [unused] at reason
  refine ⟨keywords, missing, fun name => (listed name).trans ?_, reason⟩
  simp only [found, values, uses, keyNames, Mapping.keys, Value.name?, List.filterMap_cons,
    List.filterMap_nil, List.map_cons, List.map_nil, List.mem_cons, List.not_mem_nil]
  grind

end Binding

end SafeSql
