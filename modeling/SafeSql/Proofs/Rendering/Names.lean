import SafeSql.Proofs.Rendering.Totality
import SafeSql.Proofs.Template.Unnamed

/-!
# Names and positions

A template with names and a mapping of values is rendered like the template without the names and
the list of the values, each in the places where its name stood.

## Main definitions

* `Erasable` — a template whose names can be left out.
* `Keyed` — a mapping whose keys are the names of a template.
* `withoutNames` — the template with the names left out.
* `Formatted` — SQL text, or an error about a value that cannot be written.

## Main statements

* `named_of_keyed` — binding by name is binding the values of the names by position.
* `positional_withoutNames` — where the names stood makes no difference.
* `named_eq_positional` — rendering by name is rendering by position.
-/

namespace SafeSql.Rendering

open Template (Segment Placeholder placeholders unnamedFrom)

variable {d : Dialect} {source : String} {segments : List Segment} {found : List Placeholder}
  {values : Mapping} {arguments : List Value}

/-- Every placeholder has a name, and no colon with the beginning of another name stands directly
behind it. -/
structure Erasable (source : String) (found : List Placeholder) : Prop where
  named : ∀ p ∈ found, p.name.isSome
  apart : ∀ p ∈ found,
    Template.Lexer.nameFollows (source.toList.drop (p.offset + p.token.length)) = false

/-- The keys of the mapping are the names of the placeholders. -/
structure Keyed (found : List Placeholder) (values : Mapping) : Prop where
  used : ∀ key ∈ values.keys, ∃ p ∈ found, ∃ name, p.name = some name ∧ (Value.text name).same key
  given : ∀ p ∈ found, ∀ name, p.name = some name → values.contains (.text name)

/-- The value that a mapping has for the name of a placeholder. -/
def valueOf (values : Mapping) (p : Placeholder) : Option Value :=
  p.name.bind fun name => values.find? (.text name)

/-- How a placeholder is written without its name. -/
def bareToken (p : Placeholder) : List Char :=
  Placeholder.token { p with name := none }

/-- The template with each token replaced by that of a placeholder without a name. -/
def withoutNames (source : String) (found : List Placeholder) : String :=
  String.ofList (substitute source.toList 0 (found.map fun p => (p, bareToken p)))

/-- The outcome is SQL text, or the error that a value has the wrong form for its placeholder. -/
def Formatted (caller : Option String) (result : Except Failure Rendering) : Prop :=
  (∃ sql, result = .ok (.ok sql)) ∨
    ∃ kind value fault, result = held caller (.format kind value fault)

/-! ## Binding by name -/

theorem pairs_of_named (named : ∀ p ∈ found, (valueOf values p).isSome) :
    ∃ arguments, found.mapM (valueOf values) = some arguments ∧
      arguments.length = found.length ∧ Binding.pairs found values = found.zip arguments := by
  induction found with
  | nil => exact ⟨[], rfl, rfl, rfl⟩
  | cons p found ih =>
    obtain ⟨value, first⟩ := Option.isSome_iff_exists.1 (named p List.mem_cons_self)
    obtain ⟨arguments, all, same, paired⟩ :=
      ih fun q member => named q (List.mem_cons_of_mem p member)
    refine ⟨value :: arguments, by simp [first, all], by simp [same], ?_⟩
    obtain ⟨name, known, here⟩ := Option.bind_eq_some_iff.1 first
    simpa [Binding.pairs, known, here] using paired

/-- Binding by name gives every placeholder the value of its name. -/
theorem named_of_keyed (source : String) (named : ∀ p ∈ found, p.name.isSome)
    (keyed : Keyed found values) (missing : Value.Missing) :
    ∃ arguments, found.mapM (valueOf values) = some arguments ∧
      arguments.length = found.length ∧
      Binding.named source found (.map values missing) = .ok (found.zip arguments) := by
  have known (p : Placeholder) (member : p ∈ found) : (valueOf values p).isSome := by
    obtain ⟨name, name_eq⟩ := Option.isSome_iff_exists.1 (named p member)
    have inside := keyed.given p member name name_eq
    simpa [valueOf, name_eq, Mapping.find?, Mapping.contains] using inside
  obtain ⟨arguments, all, same, paired⟩ := pairs_of_named known
  refine ⟨arguments, all, same, ?_⟩
  have offsets : Binding.unnamedOffsets found = [] := by
    simp only [Binding.unnamedOffsets, List.map_eq_nil_iff, List.filter_eq_nil_iff]
    intro p member
    simpa [Option.isSome_iff_ne_none] using named p member
  have unused : Binding.unused found values = [] := by
    simp only [Binding.unused, List.filter_eq_nil_iff]
    intro key member
    obtain ⟨p, inside, name, name_eq, equal⟩ := keyed.used key member
    have among : name ∈ Binding.names found := by
      simp only [Binding.names, List.mem_eraseDups, List.mem_filterMap]
      exact ⟨p, inside, name_eq⟩
    simpa using ⟨name, among, equal⟩
  have missing : Binding.missing found values = [] := by
    simp only [Binding.missing, List.filter_eq_nil_iff, Binding.names, List.mem_eraseDups,
      List.mem_filterMap]
    rintro name ⟨p, inside, name_eq⟩
    simp [keyed.given p inside name name_eq]
  simp [Binding.named, offsets, unused, missing, Binding.keyTexts, paired]

/-! ## Rendering without names -/

@[simp] theorem map_kind_unnamedFrom (offset : Nat) (segments : List Segment) :
    (placeholders (unnamedFrom offset segments)).map (·.kind) =
      (placeholders segments).map (·.kind) := by
  induction segments generalizing offset with
  | nil => rfl
  | cons segment segments ih => cases segment <;> simp [unnamedFrom, ih]

@[simp] theorem fill_unnamedFrom (offset : Nat) (segments : List Segment)
    (fragments : List (List Char)) :
    fill (unnamedFrom offset segments) fragments = fill segments fragments := by
  induction segments generalizing offset fragments with
  | nil => rfl
  | cons segment segments ih =>
    cases segment with
    | literal text => simp [unnamedFrom, fill, ih]
    | placeholder p => cases fragments <;> simp [unnamedFrom, fill, ih]

theorem unnamed_unnamedFrom (offset : Nat) (segments : List Segment) :
    ∀ p ∈ placeholders (unnamedFrom offset segments), p.name = none := by
  induction segments generalizing offset with
  | nil => simp [unnamedFrom, placeholders]
  | cons segment segments ih =>
    cases segment with
    | literal text => exact ih _
    | placeholder p => simpa [unnamedFrom] using ih _

/-- The template without names is written from the segments without names. -/
theorem source_unnamedFrom (offset : Nat) (segments : List Segment) :
    fill segments ((placeholders segments).map bareToken) =
      (unnamedFrom offset segments).flatMap Segment.source := by
  induction segments generalizing offset with
  | nil => rfl
  | cons segment segments ih =>
    cases segment with
    | literal text => simp [unnamedFrom, fill, Segment.source, ih (offset + text.length)]
    | placeholder p =>
      rw [placeholders_placeholder, List.map_cons, fill, ih (offset + 2)]
      rfl

/-- What a template is without its names, and that it is cut into the same parts. -/
theorem segments_withoutNames (read : Template.segments d source = .ok segments)
    (erasable : Erasable source (placeholders segments)) :
    Template.segments d (withoutNames source (placeholders segments)) =
      .ok (unnamedFrom 0 segments) := by
  have placed := Template.placed_of_segmentsFrom read
  have source_eq := Template.source_of_segmentsFrom read
  have apart := @Template.apart_of_placed [] segments placed
    (by simpa [source_eq] using erasable.apart)
  have written : withoutNames source (placeholders segments) =
      String.ofList ((unnamedFrom 0 segments).flatMap Segment.source) := by
    have filled := @fill_eq_substitute [] segments 0 ((placeholders segments).map bareToken) placed
      le_rfl (by simp)
    have pairs : (placeholders segments).zip ((placeholders segments).map bareToken) =
        (placeholders segments).map fun p => (p, bareToken p) := by
      simpa using @List.zip_map' _ _ _ id bareToken (placeholders segments)
    rw [List.drop_nil, List.nil_append, List.nil_append, source_eq, source_unnamedFrom 0,
      pairs] at filled
    rw [withoutNames, filled]
  rw [written, Template.segments, String.toList_ofList]
  exact Template.segmentsFrom_unnamed read apart _ 0

/-- What is written for bindings depends on the kinds of the placeholders alone. -/
theorem mapM_fragmentOf_congr {found found' : List Placeholder}
    (same : found.map (·.kind) = found'.map (·.kind)) (d : Dialect) (arguments : List Value) :
    (found.zip arguments).mapM (fragmentOf d) = (found'.zip arguments).mapM (fragmentOf d) := by
  have by_kind (found : List Placeholder) : (found.zip arguments).mapM (fragmentOf d) =
      ((found.map (·.kind)).zip arguments).mapM
        fun (kind, value) => Fragment.format d kind value := by
    rw [List.zip_map_left, List.mapM_map]
    rfl
  rw [by_kind found, by_kind found', same]

theorem matched_unnamedFrom (offset : Nat)
    (enough : arguments.length = (placeholders segments).length) :
    ¬ Mismatched (placeholders (unnamedFrom offset segments)) arguments := by
  have count := congrArg List.length (map_kind_unnamedFrom offset segments)
  simp only [List.length_map] at count
  rintro (⟨p, member, named⟩ | differ)
  · simp [unnamed_unnamedFrom offset segments p member] at named
  · omega

/-- Without names a template takes by position the values that its segments are assembled with. -/
theorem positional_withoutNames (read : Template.segments d source = .ok segments)
    (erasable : Erasable source (placeholders segments))
    (enough : arguments.length = (placeholders segments).length) (caller : Option String) :
    positional d (.text (withoutNames source (placeholders segments))) arguments caller =
      outcome caller (assemble d segments ((placeholders segments).zip arguments)) := by
  have fills : fill (unnamedFrom 0 segments) = fill segments := funext (fill_unnamedFrom 0 segments)
  rw [positional_of_matched rfl (segments_withoutNames read erasable)
    (matched_unnamedFrom 0 enough), assemble_eq, fills,
    mapM_fragmentOf_congr (map_kind_unnamedFrom 0 segments)]

/-! ## Both ways -/

/-- A range of too many records that comes first is what ends the writing of values. -/
theorem mapM_of_endlessRecords {template : Value} (text : templateText template = .ok source)
    (read : Template.segments d source = .ok segments)
    (endless : EndlessRecords d template arguments) :
    ((placeholders segments).zip arguments).mapM (fragmentOf d) = .error .tooManyToCount := by
  obtain ⟨source', segments', text', read', -, before, p, value, after, pairs, earlier, large⟩ :=
    endless
  obtain rfl : source = source' := Except.ok.inj (text.symm.trans text')
  obtain rfl : segments = segments' := Except.ok.inj (read.symm.trans read')
  exact Except.mapM_eq_error.2
    ⟨before, (p, value), after, pairs, earlier, Fragment.format_of_unlistable d large⟩

/-- Arguments that fit are written, or one of them has the wrong form, exactly where no range of too
many records comes first. -/
theorem formatted_iff {template : Value} (text : templateText template = .ok source)
    (read : Template.segments d source = .ok segments)
    (matched : ¬ Mismatched (placeholders segments) arguments) (caller : Option String) :
    Formatted caller (positional d template arguments caller) ↔
      ¬ EndlessRecords d template arguments := by
  rw [positional_of_matched text read matched]
  cases all : ((placeholders segments).zip arguments).mapM (fragmentOf d) with
  | ok fragments =>
    refine iff_of_true (.inl ⟨_, rfl⟩) fun endless => ?_
    have failed := mapM_of_endlessRecords text read endless
    rw [all] at failed
    contradiction
  | error failure =>
    obtain ⟨before, ⟨p, value⟩, after, pairs, earlier, failed⟩ := Except.mapM_eq_error.1 all
    by_cases large : Fragment.Unlistable p.kind value
    · have raised : outcome caller (.error failure) = .error failure :=
        (outcome_of_format_error failed caller).2 large
      refine iff_of_false ?_ (not_not.2
        ⟨source, segments, text, read, matched, before, p, value, after, pairs, earlier, large⟩)
      rintro (⟨sql, answer⟩ | ⟨kind, refused, fault, answer⟩)
      · simp [raised] at answer
      · simp [raised, held] at answer
    · obtain ⟨kind, refused, fault, rfl⟩ := Fragment.refused_of_format_error failed large
      refine iff_of_true (.inr ⟨kind, refused, fault, rfl⟩) fun endless => ?_
      have again := mapM_of_endlessRecords text read endless
      rw [all] at again
      cases again

/-- Rendering by name is rendering the template without its names with the values of the names, each
in the places where its name stood: the outcome is the same, and it is SQL text or the error of the
first value that has the wrong form, exactly where no range of too many records comes first. -/
theorem named_eq_positional (d : Dialect) {template : Value}
    (text : templateText template = .ok source) (read : Template.segments d source = .ok segments)
    (erasable : Erasable source (placeholders segments))
    (keyed : Keyed (placeholders segments) values) (missing : Value.Missing)
    (caller : Option String) :
    ∃ arguments, (placeholders segments).mapM (valueOf values) = some arguments ∧
      named d template (.map values missing) caller =
        positional d (.text (withoutNames source (placeholders segments))) arguments caller ∧
      (Formatted caller (named d template (.map values missing) caller) ↔
        ¬ EndlessRecords d (.text (withoutNames source (placeholders segments))) arguments) := by
  obtain ⟨arguments, all, enough, bound⟩ := named_of_keyed source erasable.named keyed missing
  have same : named d template (.map values missing) caller =
      positional d (.text (withoutNames source (placeholders segments))) arguments caller := by
    rw [positional_withoutNames read erasable enough]
    simp [named, sqlOfNamed, text, readTemplate, read, bound]
  refine ⟨arguments, all, same, ?_⟩
  rw [same]
  exact formatted_iff rfl (segments_withoutNames read erasable) (matched_unnamedFrom 0 enough)
    caller

/-- A name that is used twice, behind a dash and inside of a quoted span; one of the keys is raw
text, and a colon without a name stays. -/
theorem named_eq_positional_repeated_name :
    named .sqlite (.text "?n:t -?s:v:1 '?s:v' ?s:v")
        (.map [(.raw "v", .null), (.text "t", .text "a")] none) none
      = positional .sqlite (.text "?n -?s:1 '?s:v' ?s") [.text "a", .null, .null] none ∧
    positional .sqlite (.text "?n -?s:1 '?s:v' ?s") [.text "a", .null, .null] none
      = .ok (.ok "\"a\" -NULL:1 '?s:v' NULL") := by
  have read : Template.segments .sqlite "?n:t -?s:v:1 '?s:v' ?s:v" = .ok
      [.placeholder ⟨.identifier, some "t", 0⟩, .literal " -".toList,
        .placeholder ⟨.string, some "v", 6⟩, .literal ":1 '?s:v' ".toList,
        .placeholder ⟨.string, some "v", 20⟩] := by decide +kernel
  have erasable : Erasable "?n:t -?s:v:1 '?s:v' ?s:v" [⟨.identifier, some "t", 0⟩,
      ⟨.string, some "v", 6⟩, ⟨.string, some "v", 20⟩] := ⟨by decide, by decide +kernel⟩
  have keys : (Value.raw "v").same (.text "v") = true ∧ (Value.text "v").same (.raw "v") = true ∧
      (Value.raw "v").same (.text "t") = false ∧ (Value.text "t").same (.text "t") = true := by
    decide +kernel
  have keyed : Keyed [⟨.identifier, some "t", 0⟩, ⟨.string, some "v", 6⟩, ⟨.string, some "v", 20⟩]
      [(.raw "v", .null), (.text "t", .text "a")] :=
    ⟨by simp [Mapping.keys, keys], by simp [Mapping.contains, keys]⟩
  have bare : withoutNames "?n:t -?s:v:1 '?s:v' ?s:v" [⟨.identifier, some "t", 0⟩,
      ⟨.string, some "v", 6⟩, ⟨.string, some "v", 20⟩] = "?n -?s:1 '?s:v' ?s" := by decide +kernel
  obtain ⟨arguments, all, same, -⟩ :=
    @named_eq_positional _ _ _ .sqlite (.text _) rfl read erasable keyed none none
  obtain rfl : [.text "a", .null, .null] = arguments := by
    simpa [placeholders, valueOf, Mapping.find?, keys] using all
  simp only [placeholders, List.filterMap_cons, List.filterMap_nil, bare] at same
  have read' : Template.segments .sqlite "?n -?s:1 '?s:v' ?s" = .ok
      [.placeholder ⟨.identifier, none, 0⟩, .literal " -".toList,
        .placeholder ⟨.string, none, 4⟩, .literal ":1 '?s:v' ".toList,
        .placeholder ⟨.string, none, 16⟩] := by decide +kernel
  exact ⟨same, (positional_eq_ok rfl).2
    ⟨_, _, ⟨read', by decide, .cons rfl (.cons rfl (.cons rfl .nil))⟩, by decide +kernel⟩⟩

/-- A range of too many records ends rendering by name without an outcome, though the template and
the keys fit. -/
theorem no_outcome_of_named_endless_records :
    Template.segments .mysql "?k:rows" = .ok [.placeholder ⟨.keyValueRows, some "rows", 0⟩] ∧
    Erasable "?k:rows" [⟨.keyValueRows, some "rows", 0⟩] ∧
    Keyed [⟨.keyValueRows, some "rows", 0⟩]
      [(.text "rows", .range 0 9223372036854775808 1)] ∧
    ¬ ∃ rendering, named .mysql (.text "?k:rows")
      (.map [(.text "rows", .range 0 9223372036854775808 1)] none) none = .ok rendering := by
  have read : Template.segments .mysql "?k:rows"
      = .ok [.placeholder ⟨.keyValueRows, some "rows", 0⟩] := by decide +kernel
  have erasable : Erasable "?k:rows" [⟨.keyValueRows, some "rows", 0⟩] := by
    exact ⟨by decide, by decide +kernel⟩
  have key : (Value.text "rows").same (.text "rows") = true := by decide +kernel
  have keyed : Keyed [⟨.keyValueRows, some "rows", 0⟩]
      [(.text "rows", .range 0 9223372036854775808 1)] :=
    ⟨by simp [Mapping.keys, key], by simp [Mapping.contains, key]⟩
  refine ⟨read, erasable, keyed, ?_⟩
  rintro ⟨rendering, answer⟩
  obtain ⟨arguments, all, -, bound⟩ := named_of_keyed "?k:rows" erasable.named keyed none
  obtain rfl : [.range 0 9223372036854775808 1] = arguments := by
    simpa [valueOf, Mapping.find?, key] using all
  have failed : Fragment.format .mysql .keyValueRows (.range 0 9223372036854775808 1)
      = .error .tooManyToCount := rfl
  have raised : named .mysql (.text "?k:rows")
      (.map [(.text "rows", .range 0 9223372036854775808 1)] none) none =
        .error .tooManyToCount := by
    simp [named, sqlOfNamed, templateText, readTemplate, read, placeholders, bound, assemble,
      failed, outcome]
  rw [raised] at answer
  contradiction

end SafeSql.Rendering
