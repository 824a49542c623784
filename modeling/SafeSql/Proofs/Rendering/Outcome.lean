import SafeSql.Proofs.Fragment.Failures
import SafeSql.Proofs.Template.Placement
import SafeSql.Rendering

/-!
# The outcome of rendering

What rendering a template gives, for every template and all arguments: the fault of the template,
else the mismatch of placeholders and arguments, else what is wrong with the first value that
cannot be written, else the template with every placeholder replaced by its fragment.

## Main definitions

* `Rendering.substitute` — a text with the slices of placeholders replaced.
* `Rendering.Sliced` — the slices are the tokens, one behind the other.
* `Rendering.Mismatched` — placeholders and arguments do not go together.
* `Rendering.Rendered` — a template with arguments that fit and are written.

## Main statements

* `Rendering.assemble_eq` — segments are assembled once all fragments are there.
* `Rendering.fill_eq_substitute` — assembling replaces slices of the template.
* `Rendering.positional_eq_ok` — when rendering gives SQL text, and which.
* `Rendering.positional_outcome` — all outcomes.
-/

namespace SafeSql.Rendering

open Template (Segment Placeholder placeholders)

/-! ## Segments and fragments -/

/-- The segments with fragments in the places of the placeholders. -/
def fill : List Segment → List (List Char) → List Char
  | [], _ => []
  | .literal text :: segments, fragments => text ++ fill segments fragments
  | .placeholder _ :: _, [] => []
  | .placeholder _ :: segments, fragment :: fragments => fragment ++ fill segments fragments

def fragmentOf (d : Dialect) (binding : Binding) : Except Failure (List Char) :=
  Fragment.format d binding.1.kind binding.2

@[simp] theorem placeholders_literal (text : List Char) (segments : List Segment) :
    placeholders (.literal text :: segments) = placeholders segments := rfl

@[simp] theorem placeholders_placeholder (p : Placeholder) (segments : List Segment) :
    placeholders (.placeholder p :: segments) = p :: placeholders segments := rfl

/-- Segments are assembled from the fragments of all placeholders, or not at all. -/
theorem assemble_eq (d : Dialect) (segments : List Segment) (arguments : List Value) :
    assemble d segments ((placeholders segments).zip arguments) =
      (((placeholders segments).zip arguments).mapM (fragmentOf d)).map (fill segments) := by
  induction segments generalizing arguments with
  | nil => rfl
  | cons segment segments ih =>
    cases segment with
    | literal text =>
      rw [placeholders_literal, assemble, ih]
      cases ((placeholders segments).zip arguments).mapM (fragmentOf d) <;> rfl
    | placeholder p =>
      cases arguments with
      | nil => rfl
      | cons value arguments =>
        simp only [placeholders_placeholder, List.zip_cons_cons, assemble, ih, List.mapM_cons]
        change (fragmentOf d (p, value) >>= fun fragment => _) = _
        cases fragmentOf d (p, value) with
        | error failure => rfl
        | ok fragment =>
          cases ((placeholders segments).zip arguments).mapM (fragmentOf d) <;> rfl

/-! ## Slices of the template -/

/-- A text from an offset on, with the slice of each placeholder replaced by a fragment. -/
def substitute (source : List Char) (start : Nat) : List (Placeholder × List Char) → List Char
  | [] => source.drop start
  | (p, fragment) :: rest =>
    (source.drop start).take (p.offset - start) ++ fragment
      ++ substitute source (p.offset + p.token.length) rest

/-- The placeholders stand in the text, each with its token behind the one before. -/
def Sliced (source : List Char) : Nat → List Placeholder → Prop
  | _, [] => True
  | start, p :: rest =>
    start ≤ p.offset ∧ (source.drop p.offset).take p.token.length = p.token ∧
      Sliced source (p.offset + p.token.length) rest

/-- Assembling segments copies what stands before a placeholder and puts the fragment in the
place of its token. -/
theorem fill_eq_substitute {before : List Char} {segments : List Segment} {start : Nat}
    {fragments : List (List Char)} (placed : Template.Placed before.length segments)
    (reached : start ≤ before.length)
    (enough : fragments.length = (placeholders segments).length) :
    before.drop start ++ fill segments fragments =
      substitute (before ++ segments.flatMap Segment.source) start
        ((placeholders segments).zip fragments) := by
  induction segments generalizing before start fragments with
  | nil => simp [fill, substitute, placeholders]
  | cons segment segments ih =>
    cases segment with
    | literal text =>
      have placed : Template.Placed (before ++ text).length segments := by
        rw [List.length_append]
        exact placed
      have later := @ih (before ++ text) start fragments placed (by simp; omega) enough
      rw [List.drop_append_of_le_length reached] at later
      simpa [fill, Segment.source] using later
    | placeholder p =>
      obtain ⟨offset_eq, placed⟩ := placed
      cases fragments with
      | nil => simp at enough
      | cons fragment fragments =>
        rw [← List.length_append] at placed
        have later := ih placed le_rfl (by simpa using enough)
        have copied : ((before ++ (p.token ++ segments.flatMap Segment.source)).drop start).take
            (before.length - start) = before.drop start := by
          rw [List.drop_append_of_le_length reached, List.take_append_of_le_length (by simp),
            List.take_of_length_le (by simp)]
        rw [List.drop_length, List.nil_append, List.append_assoc, List.length_append] at later
        simp [fill, substitute, Segment.source, offset_eq, copied, later]

theorem sliced_of_placed {before : List Char} {segments : List Segment} {start : Nat}
    (placed : Template.Placed before.length segments) (reached : start ≤ before.length) :
    Sliced (before ++ segments.flatMap Segment.source) start (placeholders segments) := by
  induction segments generalizing before start with
  | nil => trivial
  | cons segment segments ih =>
    cases segment with
    | literal text =>
      have placed : Template.Placed (before ++ text).length segments := by
        rw [List.length_append]
        exact placed
      have later := @ih (before ++ text) start placed (by simp; omega)
      simpa [Segment.source] using later
    | placeholder p =>
      obtain ⟨offset_eq, placed⟩ := placed
      rw [← List.length_append] at placed
      have later := ih placed le_rfl
      rw [placeholders_placeholder, Sliced]
      refine ⟨by omega, ?_, ?_⟩
      · simp [offset_eq, Segment.source]
      · simpa [offset_eq, Segment.source] using later

/-! ## Outcomes -/

/-- Placeholders and arguments by position do not go together: a placeholder has a name, or there
are more or fewer arguments than placeholders. -/
def Mismatched (found : List Placeholder) (arguments : List Value) : Prop :=
  (∃ p ∈ found, p.name.isSome) ∨ found.length ≠ arguments.length

instance (found : List Placeholder) (arguments : List Value) :
    Decidable (Mismatched found arguments) :=
  inferInstanceAs (Decidable (_ ∨ _))

/-- The outcome that holds an error with a cause, and the caller. -/
def held (caller : Option String) (cause : SqlError.Cause) : Except Failure Rendering :=
  .ok (.error ((SqlError.of cause none).withCaller caller))

theorem namedTokens_eq_nil {found : List Placeholder} :
    Binding.namedTokens found = [] ↔ ¬ ∃ p ∈ found, p.name.isSome := by
  simp [Binding.namedTokens, List.filter_eq_nil_iff]

/-- Arguments that do not fit are refused because of their number or of names, whatever they
are. -/
theorem binding_of_mismatched {source : String} {found : List Placeholder}
    {arguments : List Value} (h : Mismatched found arguments) :
    ∃ fault, ∀ others : List Value, others.length = arguments.length →
      Binding.positional source found others = .error fault := by
  by_cases named : Binding.namedTokens found = []
  · have differ : found.length ≠ arguments.length :=
      h.resolve_left (namedTokens_eq_nil.1 named)
    refine ⟨.differentCounts arguments.length found.length source, fun others same => ?_⟩
    rw [← same] at differ ⊢
    simp [Binding.positional, named, differ]
  · refine ⟨.namesWithoutValues (Binding.namedTokens found) source, fun others _ => ?_⟩
    simp [Binding.positional, named]

theorem binding_of_matched {source : String} {found : List Placeholder} {arguments : List Value}
    (h : ¬ Mismatched found arguments) :
    Binding.positional source found arguments = .ok (found.zip arguments) := by
  obtain ⟨unnamed, same⟩ := not_or.1 h
  have none_named := namedTokens_eq_nil.2 unnamed
  simp [Binding.positional, none_named, not_not.1 same]

/-- A template is read, the arguments fit, and every value is written as a fragment. -/
structure Rendered (d : Dialect) (source : String) (arguments : List Value)
    (segments : List Segment) (fragments : List (List Char)) : Prop where
  read : Template.segments d source = .ok segments
  matched : ¬ Mismatched (placeholders segments) arguments
  written : List.Forall₂ (fun binding fragment => fragmentOf d binding = .ok fragment)
    ((placeholders segments).zip arguments) fragments

theorem Rendered.length_eq {d : Dialect} {source : String} {arguments : List Value}
    {segments : List Segment} {fragments : List (List Char)}
    (h : Rendered d source arguments segments fragments) :
    fragments.length = (placeholders segments).length := by
  have same := (not_or.1 h.matched).2
  rw [← h.written.length_eq, List.length_zip]
  omega

section Positional

variable {d : Dialect} {template : Value} {source : String} {segments : List Segment}
  {arguments : List Value} (text : templateText template = .ok source)
include text

theorem positional_of_fault {fault : Template.Fault}
    (read : Template.segments d source = .error fault) (caller : Option String) :
    positional d template arguments caller = held caller (.template fault) := by
  simp [positional, sqlOfPositional, text, readTemplate, read, outcome, held]

variable (read : Template.segments d source = .ok segments)
include read

/-- Arguments that do not fit give the same error as any others of their number. -/
theorem positional_of_mismatched (mismatched : Mismatched (placeholders segments) arguments)
    (caller : Option String) :
    ∃ fault, ∀ others : List Value, others.length = arguments.length →
      positional d template others caller = held caller (.binding fault) := by
  obtain ⟨fault, refused⟩ := @binding_of_mismatched source _ _ mismatched
  refine ⟨fault, fun others same => ?_⟩
  simp [positional, sqlOfPositional, text, readTemplate, read, refused others same, outcome, held]

variable (matched : ¬ Mismatched (placeholders segments) arguments)
include matched

/-- A template with fitting arguments gives the assembled fragments. -/
theorem positional_of_matched (caller : Option String) :
    positional d template arguments caller =
      outcome caller ((((placeholders segments).zip arguments).mapM (fragmentOf d)).map
        (fill segments)) := by
  simp only [positional, sqlOfPositional, text, readTemplate, read, Except.ok_bind,
    binding_of_matched matched, assemble_eq]

/-- With all fragments, the slices of the template are replaced by them. -/
theorem positional_of_written {fragments : List (List Char)}
    (written : List.Forall₂ (fun binding fragment => fragmentOf d binding = .ok fragment)
      ((placeholders segments).zip arguments) fragments) (caller : Option String) :
    Sliced source.toList 0 (placeholders segments) ∧
      positional d template arguments caller = .ok (.ok (String.ofList
        (substitute source.toList 0 ((placeholders segments).zip fragments)))) := by
  have placed := Template.placed_of_segmentsFrom read
  have whole : Rendered d source arguments segments fragments := ⟨read, matched, written⟩
  have sliced := @sliced_of_placed [] segments 0 placed le_rfl
  have filled := @fill_eq_substitute [] segments 0 fragments placed le_rfl whole.length_eq
  simp only [List.nil_append, List.drop_nil, Template.source_of_segmentsFrom read] at sliced filled
  refine ⟨sliced, ?_⟩
  rw [positional_of_matched text read matched, Except.mapM_eq_ok.2 written, Except.ok_map, filled]
  rfl

end Positional

/-- There is SQL text exactly where all fragments are there, and then it is put together from
them. -/
theorem positional_eq_ok {d : Dialect} {template : Value} {source sql : String}
    {arguments : List Value} {caller : Option String} (text : templateText template = .ok source) :
    positional d template arguments caller = .ok (.ok sql) ↔
      ∃ segments fragments, Rendered d source arguments segments fragments ∧
        sql = String.ofList (fill segments fragments) := by
  constructor
  · intro rendered
    cases read : Template.segments d source with
    | error fault => simp [positional_of_fault text read, held] at rendered
    | ok segments =>
      have matched : ¬ Mismatched (placeholders segments) arguments := by
        intro mismatched
        obtain ⟨fault, refused⟩ := positional_of_mismatched text read mismatched caller
        simp [refused arguments rfl, held] at rendered
      rw [positional_of_matched text read matched] at rendered
      cases all : ((placeholders segments).zip arguments).mapM (fragmentOf d) with
      | error failure => cases failure <;> simp [all, outcome] at rendered
      | ok fragments =>
        refine ⟨segments, fragments, ⟨read, matched, Except.mapM_eq_ok.1 all⟩, ?_⟩
        simpa [all, outcome] using rendered.symm
  · rintro ⟨segments, fragments, ⟨read, matched, written⟩, rfl⟩
    rw [positional_of_matched text read matched, Except.mapM_eq_ok.2 written]
    rfl

/-- A value that cannot be written gives an outcome that holds its error, unless it is a range of
more records than a list can hold. -/
theorem outcome_of_format_error {d : Dialect} {kind : Template.Kind} {value : Value}
    {failure : Failure} (failed : Fragment.format d kind value = .error failure)
    (caller : Option String) :
    (¬ Fragment.Unlistable kind value → ∃ error, failure = .query error ∧
      outcome caller (.error failure) = .ok (.error (error.withCaller caller))) ∧
    (Fragment.Unlistable kind value → outcome caller (.error failure) = .error failure) := by
  refine ⟨fun listable => ?_, fun unlistable => ?_⟩
  · obtain ⟨kind, refused, fault, rfl⟩ := Fragment.refused_of_format_error failed listable
    exact ⟨_, rfl, rfl⟩
  · rw [Fragment.format_of_unlistable d unlistable] at failed
    cases failed
    rfl

/-- What rendering by position gives. The fault of a template comes first, then a mismatch, which
does not look at the values; then the first value that cannot be written decides, with the one
exception that more records than a list can hold end rendering without an outcome. Else the
outcome is the template with the slice of every placeholder replaced by its fragment. -/
theorem positional_outcome (d : Dialect) {template : Value} {source : String}
    (text : templateText template = .ok source) (arguments : List Value)
    (caller : Option String) :
    (∀ fault, Template.segments d source = .error fault →
      positional d template arguments caller = held caller (.template fault)) ∧
    ∀ segments, Template.segments d source = .ok segments →
      (Mismatched (placeholders segments) arguments →
        ∃ fault, ∀ others : List Value, others.length = arguments.length →
          positional d template others caller = held caller (.binding fault)) ∧
      (¬ Mismatched (placeholders segments) arguments →
        (∀ before p value after failure,
          (placeholders segments).zip arguments = before ++ (p, value) :: after →
          (∀ earlier ∈ before, ∃ fragment, fragmentOf d earlier = .ok fragment) →
          Fragment.format d p.kind value = .error failure →
          (¬ Fragment.Unlistable p.kind value → ∃ error, failure = .query error ∧
            positional d template arguments caller = .ok (.error (error.withCaller caller))) ∧
          (Fragment.Unlistable p.kind value →
            positional d template arguments caller = .error failure)) ∧
        (∀ fragments,
          List.Forall₂ (fun binding fragment => fragmentOf d binding = .ok fragment)
            ((placeholders segments).zip arguments) fragments →
          Sliced source.toList 0 (placeholders segments) ∧
            positional d template arguments caller = .ok (.ok (String.ofList
              (substitute source.toList 0 ((placeholders segments).zip fragments)))))) := by
  refine ⟨fun fault read => positional_of_fault text read caller, fun segments read =>
    ⟨fun mismatched => positional_of_mismatched text read mismatched caller, fun matched =>
      ⟨?_, fun fragments written => positional_of_written text read matched written caller⟩⟩⟩
  intro before p value after failure pairs earlier failed
  have first : ((placeholders segments).zip arguments).mapM (fragmentOf d) = .error failure :=
    Except.mapM_eq_error.2 ⟨before, (p, value), after, pairs, earlier, failed⟩
  rw [positional_of_matched text read matched, first]
  exact outcome_of_format_error failed caller

/-- A value that looks like a placeholder is written once and not read again. -/
theorem positional_outcome_marker_in_value :
    positional .mysql (.text "?s AS ?n") [.text "?n", .text "?s"] none
      = .ok (.ok "'?n' AS \x60?s\x60") := by
  have read : Template.segments .mysql "?s AS ?n" = .ok [.placeholder ⟨.string, none, 0⟩,
      .literal " AS ".toList, .placeholder ⟨.identifier, none, 6⟩] := by decide +kernel
  have written : List.Forall₂ (fun binding fragment => fragmentOf .mysql binding = .ok fragment)
      [(⟨.string, none, 0⟩, .text "?n"), (⟨.identifier, none, 6⟩, .text "?s")]
      ["'?n'".toList, "\x60?s\x60".toList] := .cons rfl (.cons rfl .nil)
  obtain ⟨-, outcomes⟩ := @positional_outcome .mysql (.text "?s AS ?n") _ rfl
    [.text "?n", .text "?s"] none
  exact (((outcomes _ read).2 (by decide)).2 _ written).2

/-- A range of too many records ends rendering: there is no outcome to hold an error. -/
theorem no_outcome_of_endless_records :
    ∃ failure, Fragment.format .mysql .keyValueRows (.range 0 9223372036854775808 1)
        = .error failure ∧
      positional .mysql (.text "?k") [.range 0 9223372036854775808 1] none = .error failure := by
  have read : Template.segments .mysql "?k" = .ok [.placeholder ⟨.keyValueRows, none, 0⟩] := by
    decide +kernel
  have failed : Fragment.format .mysql .keyValueRows (.range 0 9223372036854775808 1)
      = .error .tooManyToCount := rfl
  refine ⟨.tooManyToCount, failed, ?_⟩
  rw [positional_of_matched rfl read (by decide)]
  simp [fragmentOf, failed, outcome]

end SafeSql.Rendering
