import SafeSql.Proofs.Rendering.Names
import SafeSql.Proofs.Value.Unwritable

/-!
# Rendering by name ends with an outcome

Rendering by name takes any template and any values, a mapping or not, and holds what is wrong with
them as an error of the library that names the caller. Two things end it without an outcome: a key
that is no name of a placeholder and that cannot be written, while the error would show it, and
records that are to be put into a list and are too many for one.

## Main definitions

* `Fits` — the keys of a mapping are the names of the placeholders.
* `Unexplained` — a mapping does not fit because of a key that cannot be written.
* `UnwritableKey`, `EndlessNamedRecords` — what ends rendering by name without an outcome.

## Main statements

* `binding_of_unexplained`, `binding_of_unfit` — what becomes of a mapping that does not fit.
* `named_of_fit` — what becomes of one that fits.
* `named_answered_iff` — when rendering by name has an outcome.
-/

namespace SafeSql.Rendering

open Template (Segment Placeholder placeholders)

variable {d : Dialect} {template values : Value} {source : String} {segments : List Segment}
  {found : List Placeholder} {entries : Mapping} {missing : Value.Missing} {arguments : List Value}

/-- Every placeholder has a name, and these names are the keys of the mapping. -/
structure Fits (found : List Placeholder) (entries : Mapping) : Prop where
  named : ∀ p ∈ found, p.name.isSome
  keyed : Keyed found entries

/-- No placeholder has the key for its name. -/
def Unused (found : List Placeholder) (key : Value) : Prop :=
  ∀ p ∈ found, ∀ name, p.name = some name → (Value.text name).same key = false

/-- Every placeholder has a name, and a key of the mapping that is none of these names has no
text. -/
def Unexplained (found : List Placeholder) (entries : Mapping) : Prop :=
  (∀ p ∈ found, p.name.isSome) ∧ ∃ key ∈ entries.keys, Unused found key ∧ key.Unwritable

/-- The template is read, and the mapping does not fit because of a key that cannot be written. -/
def UnwritableKey (d : Dialect) (template values : Value) : Prop :=
  ∃ source segments entries missing, templateText template = .ok source ∧
    Template.segments d source = .ok segments ∧ values = .map entries missing ∧
    Unexplained (placeholders segments) entries

/-- The template is read and the mapping fits, but one of its values is a range of records that are
too many for a list, and all before it can be written. -/
def EndlessNamedRecords (d : Dialect) (template values : Value) : Prop :=
  ∃ source segments entries missing arguments, templateText template = .ok source ∧
    Template.segments d source = .ok segments ∧ values = .map entries missing ∧
    Fits (placeholders segments) entries ∧
    (placeholders segments).mapM (valueOf entries) = some arguments ∧
    ∃ before p value after, (placeholders segments).zip arguments = before ++ (p, value) :: after ∧
      (∀ earlier ∈ before, ∃ fragment, fragmentOf d earlier = .ok fragment) ∧
      Fragment.Unlistable p.kind value

/-! ## Mappings that do not fit -/

theorem unnamedOffsets_eq_nil :
    Binding.unnamedOffsets found = [] ↔ ∀ p ∈ found, p.name.isSome := by
  simp [Binding.unnamedOffsets, List.filter_eq_nil_iff, Option.isSome_iff_ne_none]

theorem mem_names {name : String} :
    name ∈ Binding.names found ↔ ∃ p ∈ found, p.name = some name := by
  simp [Binding.names]

theorem mem_unused {key : Value} :
    key ∈ Binding.unused found entries ↔ key ∈ entries.keys ∧ Unused found key := by
  simp only [Binding.unused, List.mem_filter, Bool.not_eq_true', List.any_eq_false, mem_names,
    Unused, Bool.not_eq_true]
  refine and_congr_right fun _ => ⟨fun h p member name named => h name ⟨p, member, named⟩, ?_⟩
  rintro h name ⟨p, member, named⟩
  exact h p member name named

theorem missing_eq_nil : Binding.missing found entries = [] ↔
    ∀ p ∈ found, ∀ name, p.name = some name → entries.contains (.text name) := by
  simp only [Binding.missing, List.filter_eq_nil_iff, mem_names, Bool.not_eq_true',
    Bool.not_eq_false]
  refine ⟨fun h p member name named => h name ⟨p, member, named⟩, ?_⟩
  rintro h name ⟨p, member, named⟩
  exact h p member name named

theorem unused_eq_nil : Binding.unused found entries = [] ↔ ∀ key ∈ entries.keys,
    ∃ p ∈ found, ∃ name, p.name = some name ∧ (Value.text name).same key := by
  simp only [List.eq_nil_iff_forall_not_mem, mem_unused, not_and, Unused]
  refine forall₂_congr fun key _ => ?_
  simp

theorem keyed_iff : Keyed found entries ↔
    Binding.missing found entries = [] ∧ Binding.unused found entries = [] := by
  rw [missing_eq_nil, unused_eq_nil]
  exact ⟨fun keyed => ⟨keyed.given, keyed.used⟩, fun ⟨given, used⟩ => ⟨used, given⟩⟩

/-- One key without a text leaves all keys unwritten. -/
theorem keyTexts_of_unwritable {keys : List Value} (unwritable : ∃ key ∈ keys, key.Unwritable) :
    Binding.keyTexts keys = .error (.refused .tooLongToWrite) := by
  induction keys with
  | nil => simp at unwritable
  | cons key keys ih =>
    rw [List.exists_mem_cons_iff, ← Value.plain?_eq_none] at unwritable
    cases text : key.plain? with
    | none => simp [Binding.keyTexts, text, writable]
    | some text =>
      have rest := ih (unwritable.resolve_left (by simp [text]))
      simp [Binding.keyTexts, text, writable, rest]

theorem keyTexts_of_writable {keys : List Value} (written : ∀ key ∈ keys, ¬ key.Unwritable) :
    ∃ texts, Binding.keyTexts keys = .ok texts ∧ texts.length = keys.length := by
  induction keys with
  | nil => exact ⟨[], rfl, rfl⟩
  | cons key keys ih =>
    obtain ⟨first, rest⟩ := List.forall_mem_cons.1 written
    obtain ⟨texts, later, same⟩ := ih rest
    rw [← Value.plain?_eq_none, ← ne_eq, Option.ne_none_iff_exists'] at first
    obtain ⟨text, first⟩ := first
    refine ⟨String.ofList text :: texts, ?_, by simp [same]⟩
    simp [Binding.keyTexts, first, writable, later]

/-- A key that cannot be written leaves a mapping that does not fit without an error. -/
theorem binding_of_unexplained (source : String) (unexplained : Unexplained found entries) :
    Binding.named source found (.map entries missing) = .error (.refused .tooLongToWrite) := by
  obtain ⟨named, key, member, unused, unwritable⟩ := unexplained
  have offsets := unnamedOffsets_eq_nil.2 named
  have failed := keyTexts_of_unwritable ⟨key, mem_unused.2 ⟨member, unused⟩, unwritable⟩
  simp [Binding.named, offsets, failed]

/-- A mapping that does not fit is refused, when its keys can be written. -/
theorem binding_of_unfit (source : String) (missing : Value.Missing) (unfit : ¬ Fits found entries)
    (explained : ¬ Unexplained found entries) :
    ∃ fault, Binding.named source found (.map entries missing) =
      .error (.query (.of (.binding fault) none)) := by
  by_cases named : ∀ p ∈ found, p.name.isSome
  · have offsets := unnamedOffsets_eq_nil.2 named
    obtain ⟨texts, written, same⟩ := @keyTexts_of_writable (Binding.unused found entries)
      fun key member unwritable =>
        explained ⟨named, key, (mem_unused.1 member).1, (mem_unused.1 member).2, unwritable⟩
    have differ : ¬ (Binding.missing found entries = [] ∧ texts = []) := by
      rintro ⟨given, nothing⟩
      rw [nothing, List.length_nil, eq_comm, List.length_eq_zero_iff] at same
      exact unfit ⟨named, keyed_iff.2 ⟨given, same⟩⟩
    refine ⟨.unmatched (Binding.missing found entries) texts source, ?_⟩
    simp [Binding.named, offsets, written, differ]
  · have offsets : Binding.unnamedOffsets found ≠ [] := fun h => named (unnamedOffsets_eq_nil.1 h)
    exact ⟨.unnamed (Binding.unnamedOffsets found) source, by simp [Binding.named, offsets]⟩

/-! ## Outcomes -/

section Named

variable (text : templateText template = .ok source)
  (read : Template.segments d source = .ok segments)
include text read

theorem named_of_unexplained (unexplained : Unexplained (placeholders segments) entries)
    (caller : Option String) :
    named d template (.map entries missing) caller = .error (.refused .tooLongToWrite) := by
  simp [named, sqlOfNamed, text, readTemplate, read, binding_of_unexplained source unexplained,
    outcome]

/-- A mapping that does not fit is the error that says so, when its keys can be written. -/
theorem named_of_unfit (unfit : ¬ Fits (placeholders segments) entries)
    (explained : ¬ Unexplained (placeholders segments) entries) (caller : Option String) :
    ∃ fault, named d template (.map entries missing) caller = held caller (.binding fault) := by
  obtain ⟨fault, refused⟩ := binding_of_unfit source missing unfit explained
  exact ⟨fault, by simp [named, sqlOfNamed, text, readTemplate, read, refused, outcome, held]⟩

/-- A mapping that fits is written, or the first of its values that cannot be decides. -/
theorem named_of_fit (fits : Fits (placeholders segments) entries) (caller : Option String) :
    ∃ arguments, (placeholders segments).mapM (valueOf entries) = some arguments ∧
      named d template (.map entries missing) caller =
        outcome caller ((((placeholders segments).zip arguments).mapM (fragmentOf d)).map
          (fill segments)) := by
  obtain ⟨arguments, all, -, bound⟩ := named_of_keyed source fits.named fits.keyed missing
  refine ⟨arguments, all, ?_⟩
  simp only [named, sqlOfNamed, text, readTemplate, read, Except.ok_bind, bound, assemble_eq]

end Named

/-- What is no text is no template. -/
theorem named_of_no_text {failure : Failure} (text : templateText template = .error failure)
    (caller : Option String) :
    named d template values caller = held caller (.template (.notText template.typeName)) := by
  cases template <;> first | rfl | contradiction

/-- What is no mapping has no names. -/
theorem named_of_no_mapping (text : templateText template = .ok source)
    (read : Template.segments d source = .ok segments)
    (other : ∀ entries missing, values ≠ .map entries missing)
    (caller : Option String) :
    named d template values caller =
      held caller (.binding (.notMapping values.typeName source)) := by
  have refused : Binding.named source (placeholders segments) values =
      .error (.query (.of (.binding (.notMapping values.typeName source)) none)) := by
    cases values <;> first | rfl | exact absurd rfl (other _ _)
  simp [named, sqlOfNamed, text, readTemplate, read, refused, outcome, held]

/-- A range of too many records that comes first leaves no outcome. -/
theorem named_of_endless (endless : EndlessNamedRecords d template values)
    (caller : Option String) :
    named d template values caller = .error .tooManyToCount := by
  obtain ⟨source, segments, entries, missing, arguments, text, read, rfl, fits, all, before, p,
    value, after, pairs, earlier, large⟩ := endless
  obtain ⟨arguments', all', named⟩ := named_of_fit text read fits caller
  obtain rfl : arguments = arguments' := Option.some.inj (all.symm.trans all')
  have failed := Fragment.format_of_unlistable d large
  rw [named, Except.mapM_eq_error.2 ⟨before, (p, value), after, pairs, earlier, failed⟩]
  rfl

/-- Whatever is wrong with a template or its values is an outcome, but for the two exceptions. -/
theorem named_answered (explained : ¬ UnwritableKey d template values)
    (listable : ¬ EndlessNamedRecords d template values) (caller : Option String) :
    Answered caller (named d template values caller) := by
  cases text : templateText template with
  | error failure =>
    rw [named_of_no_text text caller]
    exact answered_held caller (family_template_mem _)
  | ok source =>
    cases read : Template.segments d source with
    | error fault =>
      have failed : named d template values caller = held caller (.template fault) := by
        simp [named, sqlOfNamed, text, readTemplate, read, outcome, held]
      rw [failed]
      exact answered_held caller (family_template_mem fault)
    | ok segments =>
      by_cases mapping : ∃ entries missing, values = .map entries missing
      · obtain ⟨entries, missing, rfl⟩ := mapping
        by_cases fits : Fits (placeholders segments) entries
        · obtain ⟨arguments, all, written⟩ := named_of_fit text read fits caller
          rw [written]
          refine answered_of_listable segments
            (fun before p value after pairs earlier large => ?_) caller
          exact listable ⟨source, segments, entries, missing, arguments, text, read, rfl, fits, all,
            before, p, value, after, pairs, earlier, large⟩
        · obtain ⟨fault, refused⟩ := named_of_unfit text read fits
            (fun unexplained =>
              explained ⟨source, segments, entries, missing, text, read, rfl, unexplained⟩)
            caller
          rw [refused]
          exact answered_held caller (family_binding_mem fault)
      · rw [named_of_no_mapping text read
          (fun entries missing same => mapping ⟨entries, missing, same⟩) caller]
        exact answered_held caller (family_binding_mem _)

/-- Rendering by name has an outcome, with SQL text or with an error of the library that names the
caller, exactly where no key that cannot be written makes the mapping unfit and no range of too many
records comes first among what cannot be written. A mapping that does not fit is the error that says
so, exactly where its keys can be written. -/
theorem named_answered_iff (d : Dialect) (template values : Value) (caller : Option String) :
    (Answered caller (named d template values caller) ↔
      ¬ UnwritableKey d template values ∧ ¬ EndlessNamedRecords d template values) ∧
    ∀ source segments entries missing, templateText template = .ok source →
      Template.segments d source = .ok segments → values = .map entries missing →
      ¬ Fits (placeholders segments) entries →
      ((∃ fault, named d template values caller = held caller (.binding fault)) ↔
        ¬ Unexplained (placeholders segments) entries) := by
  refine ⟨⟨?_, fun ⟨explained, listable⟩ => named_answered explained listable caller⟩, ?_⟩
  · rintro ⟨rendering, answer, -⟩
    constructor
    · rintro ⟨source, segments, entries, missing, text, read, rfl, unexplained⟩
      rw [named_of_unexplained text read unexplained] at answer
      contradiction
    · intro endless
      rw [named_of_endless endless] at answer
      contradiction
  · rintro source segments entries missing text read rfl unfit
    refine ⟨?_, fun explained => named_of_unfit text read unfit explained caller⟩
    rintro ⟨fault, answer⟩ unexplained
    rw [named_of_unexplained text read unexplained] at answer
    contradiction

/-- A key that is no text and no name is shown by the error, beside the name without a value. -/
theorem named_answered_iff_tuple_key :
    ∃ fault, named .postgresql (.text "SELECT ?i:x")
        (.map [(.tuple [.int 1, .frozenSet [.bytes [255]]], .null)] none) (some "report") =
      held (some "report") (.binding fault) := by
  have read : Template.segments .postgresql "SELECT ?i:x" =
      .ok [.literal "SELECT ".toList, .placeholder ⟨.integer, some "x", 7⟩] := by decide +kernel
  have unfit : ¬ Fits [⟨.integer, some "x", 7⟩]
      [(.tuple [.int 1, .frozenSet [.bytes [255]]], .null)] := by
    intro fits
    have given := fits.keyed.given _ List.mem_cons_self "x" rfl
    revert given
    decide +kernel
  have explained : ¬ Unexplained [⟨.integer, some "x", 7⟩]
      [(.tuple [.int 1, .frozenSet [.bytes [255]]], .null)] := by
    rintro ⟨-, key, member, -, unwritable⟩
    obtain rfl : key = .tuple [.int 1, .frozenSet [.bytes [255]]] := by
      simpa [Mapping.keys] using member
    rw [← Value.plain?_eq_none] at unwritable
    revert unwritable
    decide +kernel
  exact ((named_answered_iff .postgresql (.text "SELECT ?i:x") _ (some "report")).2
    "SELECT ?i:x" _ _ _ rfl read rfl unfit).2 explained

/-- A number of too many digits is a key that ends rendering by name without an outcome. -/
theorem not_answered_unwritable_key :
    ¬ ∃ rendering, named .mysql (.text "SELECT 1")
      (.map [(.int (Nat.pow 10 Whole.maxDigits : Nat), .null)] none) none = .ok rendering := by
  have read : Template.segments .mysql "SELECT 1" = .ok [.literal "SELECT 1".toList] := by
    decide +kernel
  have unused (key : Value) : Unused (placeholders [.literal "SELECT 1".toList]) key := by
    simp [Unused, placeholders]
  have unexplained : Unexplained (placeholders [.literal "SELECT 1".toList])
      [(.int (Nat.pow 10 Whole.maxDigits : Nat), .null)] :=
    ⟨by simp [placeholders], _, List.mem_cons_self, unused _, .long (by rw [Int.natAbs_natCast])⟩
  rintro ⟨rendering, answer⟩
  rw [named_of_unexplained rfl read unexplained] at answer
  contradiction

end SafeSql.Rendering
