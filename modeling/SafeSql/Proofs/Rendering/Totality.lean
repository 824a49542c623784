import SafeSql.Proofs.Rendering.Outcome

/-!
# Rendering ends with an outcome

Rendering by position takes any template and any arguments, and what is wrong with them is held by
the outcome as an error of the library that names the caller. One thing alone ends it without an
outcome: records that are to be put into a list and are too many for one.

## Main definitions

* `Reported` — an error of the library that names the caller.
* `Answered` — there is an outcome, with SQL text or such an error.
* `EndlessRecords` — the first value that cannot be written is a range of too many records.

## Main statements

* `answered_iff` — when rendering has an outcome.
-/

namespace SafeSql.Rendering

open Template (Segment Placeholder placeholders)

/-- The families of the errors that a template and its arguments can have. -/
def families : List SqlError.Family :=
  [.malformedTemplate, .unknownKind, .arityMismatch, .invalidFormat, .emptyIdentifier,
    .inconsistentRows]

/-- The error belongs to one of these families, and its caller is the one who asked, if this one
has a name. -/
structure Reported (caller : Option String) (error : SqlError) : Prop where
  family : error.family ∈ families
  caller_eq : error.caller = if SqlError.isNamed caller then caller else none

/-- There is an outcome, and it holds SQL text or an error that names the caller. -/
def Answered (caller : Option String) (result : Except Failure Rendering) : Prop :=
  ∃ rendering, result = .ok rendering ∧ ∀ error, rendering = .error error → Reported caller error

/-- The template is read and the arguments fit, but one of them is a range of records that are too
many for a list, and all before it can be written. -/
def EndlessRecords (d : Dialect) (template : Value) (arguments : List Value) : Prop :=
  ∃ source segments, templateText template = .ok source ∧
    Template.segments d source = .ok segments ∧ ¬ Mismatched (placeholders segments) arguments ∧
    ∃ before p value after, (placeholders segments).zip arguments = before ++ (p, value) :: after ∧
      (∀ earlier ∈ before, ∃ fragment, fragmentOf d earlier = .ok fragment) ∧
      Fragment.Unlistable p.kind value

/-! ## Errors -/

theorem reported_withCaller (caller : Option String) {cause : SqlError.Cause}
    (h : cause.family ∈ families) :
    Reported caller ((SqlError.of cause none).withCaller caller) where
  family := by
    rw [SqlError.family, SqlError.cause_withCaller]
    exact h
  caller_eq := by
    unfold SqlError.withCaller
    cases SqlError.isNamed caller <;> rfl

theorem family_template_mem (fault : Template.Fault) :
    (SqlError.Cause.template fault).family ∈ families := by
  cases fault <;> simp [SqlError.Cause.family, families]

theorem family_binding_mem (fault : Binding.Fault) :
    (SqlError.Cause.binding fault).family ∈ families := by
  simp [SqlError.Cause.family, families]

theorem family_format_mem (kind : Template.Kind) (value : Value) (fault : Fragment.Fault) :
    (SqlError.Cause.format kind value fault).family ∈ families := by
  cases fault <;> simp [SqlError.Cause.family, families]

theorem answered_held (caller : Option String) {cause : SqlError.Cause}
    (h : cause.family ∈ families) : Answered caller (held caller cause) := by
  refine ⟨_, rfl, ?_⟩
  rintro error ⟨⟩
  exact reported_withCaller caller h

/-! ## Outcomes -/

variable {d : Dialect} {template : Value} {arguments : List Value}

/-- What is no text is no template. -/
theorem positional_of_no_text {failure : Failure} (h : templateText template = .error failure)
    (caller : Option String) :
    positional d template arguments caller
      = held caller (.template (.notText template.typeName)) := by
  have refused : templateText template
      = .error (.query (.of (.template (.notText template.typeName)) none)) := by
    cases template <;> first | rfl | contradiction
  simp [positional, sqlOfPositional, refused, outcome, held]

/-- Fragments that are written, or a first one that is refused, are an outcome. -/
theorem answered_of_listable {bindings : List Binding} (segments : List Segment)
    (listable : ∀ before p value after, bindings = before ++ (p, value) :: after →
      (∀ earlier ∈ before, ∃ fragment, fragmentOf d earlier = .ok fragment) →
      ¬ Fragment.Unlistable p.kind value) (caller : Option String) :
    Answered caller (outcome caller ((bindings.mapM (fragmentOf d)).map (fill segments))) := by
  cases all : bindings.mapM (fragmentOf d) with
  | ok fragments => exact ⟨_, rfl, by rintro error ⟨⟩⟩
  | error failure =>
    obtain ⟨before, ⟨p, value⟩, after, pairs, earlier, failed⟩ := Except.mapM_eq_error.1 all
    obtain ⟨kind, refused, fault, rfl⟩ :=
      Fragment.refused_of_format_error failed (listable before p value after pairs earlier)
    exact answered_held caller (family_format_mem kind refused fault)

theorem answered_of_matched {source : String} {segments : List Segment}
    (text : templateText template = .ok source) (read : Template.segments d source = .ok segments)
    (matched : ¬ Mismatched (placeholders segments) arguments)
    (listable : ¬ EndlessRecords d template arguments) (caller : Option String) :
    Answered caller (positional d template arguments caller) := by
  rw [positional_of_matched text read matched]
  refine answered_of_listable segments (fun before p value after pairs earlier endless => ?_) caller
  exact listable
    ⟨source, segments, text, read, matched, before, p, value, after, pairs, earlier, endless⟩

/-- Rendering by position has an outcome, with SQL text or with an error of the library that names
the caller, exactly where no range of too many records comes first among what cannot be
written. -/
theorem answered_iff (d : Dialect) (template : Value) (arguments : List Value)
    (caller : Option String) :
    Answered caller (positional d template arguments caller) ↔
      ¬ EndlessRecords d template arguments := by
  constructor
  · rintro ⟨rendering, answer, -⟩ ⟨source, segments, text, read, matched, before, p, value, after,
      pairs, earlier, endless⟩
    have failed := Fragment.format_of_unlistable d endless
    have first := Except.mapM_eq_error.2 ⟨before, (p, value), after, pairs, earlier, failed⟩
    rw [positional_of_matched text read matched, first, Except.error_map,
      (outcome_of_format_error failed caller).2 endless] at answer
    contradiction
  · intro listable
    cases text : templateText template with
    | error failure =>
      rw [positional_of_no_text text caller]
      exact answered_held caller (family_template_mem _)
    | ok source =>
      cases read : Template.segments d source with
      | error fault =>
        rw [positional_of_fault text read caller]
        exact answered_held caller (family_template_mem fault)
      | ok segments =>
        by_cases mismatched : Mismatched (placeholders segments) arguments
        · obtain ⟨fault, refused⟩ := positional_of_mismatched text read mismatched caller
          rw [refused arguments rfl]
          exact answered_held caller (family_binding_mem fault)
        · exact answered_of_matched text read mismatched listable caller

/-- A range of too many records leaves no outcome, whoever asked. -/
theorem not_answered_endless_records :
    ¬ ∃ rendering, positional .sqlite (.text "VALUES ?s, ?k")
      [.null, .range 0 9223372036854775808 1] (some "import") = .ok rendering := by
  have read : Template.segments .sqlite "VALUES ?s, ?k" = .ok [.literal "VALUES ".toList,
      .placeholder ⟨.string, none, 7⟩, .literal ", ".toList,
      .placeholder ⟨.keyValueRows, none, 11⟩] := by decide +kernel
  rintro ⟨rendering, answer⟩
  rw [positional_of_matched rfl read (by decide)] at answer
  have failed : Fragment.format .sqlite .keyValueRows (.range 0 9223372036854775808 1)
      = .error .tooManyToCount := rfl
  have first : Fragment.format .sqlite .string .null = .ok Fragment.null := rfl
  simp [fragmentOf, first, failed, outcome] at answer

end SafeSql.Rendering
