import SafeSql.Proofs.Fragment.Failures
import SafeSql.Proofs.Reports

/-!
# Failures of rendering

Rendering holds the errors of the library as its outcome, and none of them has a caller before that.
Whatever else it fails with reports none.

## Main definitions

* `Rendering.Holdable` — what fails, fails with an error without a caller or reports none.

## Main statements

* `Rendering.reported?_positional`, `Rendering.reported?_named` — rendering fails without a report.
* `Rendering.held_positional`, `Rendering.held_named` — the error that is held has the caller who
  asked.
-/

namespace SafeSql

namespace Rendering

variable {α β : Type}

/-- What fails here, fails with an error of the library that has no caller yet and can be held as an
outcome, or reports none. -/
def Holdable (result : Except Failure α) : Prop :=
  ∀ failure, result = .error failure →
    (∃ cause, failure = .query (.of cause none)) ∨ failure.reported? = none

theorem holdable_ok (a : α) : Holdable (.ok a) := by
  rintro failure ⟨⟩

theorem holdable_query (cause : SqlError.Cause) :
    Holdable (.error (.query (.of cause none)) : Except Failure α) := by
  rintro failure ⟨⟩
  exact .inl ⟨cause, rfl⟩

theorem holdable_writable (text : Option (List Char)) : Holdable (writable text) := by
  cases text with
  | none => rintro failure ⟨⟩; exact .inr rfl
  | some text => exact holdable_ok text

theorem Holdable.bind {x : Except Failure α} {f : α → Except Failure β} (hx : Holdable x)
    (hf : ∀ a, Holdable (f a)) : Holdable (x >>= f) := by
  intro failure failed
  obtain failed | ⟨a, -, failed⟩ := Except.bind_eq_error.mp failed
  · exact hx failure failed
  · exact hf a failure failed

theorem holdable_format (d : Dialect) (kind : Template.Kind) (value : Value) :
    Holdable (Fragment.format d kind value) := by
  intro failure failed
  by_cases endless : Fragment.Unlistable kind value
  · rw [Fragment.format_of_unlistable d endless] at failed
    cases failed
    exact .inr rfl
  · obtain ⟨kind, value, fault, rfl⟩ := Fragment.refused_of_format_error failed endless
    exact .inl ⟨_, rfl⟩

theorem holdable_assemble (d : Dialect) (segments : List Template.Segment)
    (bindings : List Binding) : Holdable (assemble d segments bindings) := by
  induction segments generalizing bindings with
  | nil => exact holdable_ok _
  | cons segment segments ih =>
    cases segment with
    | literal text => exact (ih bindings).bind fun _ => holdable_ok _
    | placeholder p =>
      cases bindings with
      | nil => exact holdable_ok _
      | cons binding bindings =>
        exact (holdable_format d _ _).bind fun _ => (ih bindings).bind fun _ => holdable_ok _

theorem holdable_keyTexts (keys : List Value) : Holdable (Binding.keyTexts keys) := by
  induction keys with
  | nil => exact holdable_ok _
  | cons key keys ih => exact (holdable_writable _).bind fun _ => ih.bind fun _ => holdable_ok _

theorem holdable_bindNamed (template : String) (found : List Template.Placeholder)
    (arguments : Value) : Holdable (Binding.named template found arguments) := by
  unfold Binding.named
  split
  · dsimp only
    split
    · exact holdable_query _
    · refine (holdable_keyTexts _).bind fun texts => ?_
      split
      · exact holdable_ok _
      · exact holdable_query _
  · exact holdable_query _

theorem holdable_templateText (template : Value) : Holdable (templateText template) := by
  cases template <;> first | exact holdable_ok _ | exact holdable_query _

theorem holdable_readTemplate (d : Dialect) (source : String) :
    Holdable (readTemplate d source) := by
  unfold readTemplate
  split
  · exact holdable_ok _
  · exact holdable_query _

theorem holdable_sqlOfPositional (d : Dialect) (template : Value) (arguments : List Value) :
    Holdable (sqlOfPositional d template arguments) := by
  refine (holdable_templateText template).bind fun source =>
    (holdable_readTemplate d source).bind fun segments => ?_
  split
  · exact holdable_assemble _ _ _
  · exact holdable_query _

theorem holdable_sqlOfNamed (d : Dialect) (template values : Value) :
    Holdable (sqlOfNamed d template values) :=
  (holdable_templateText template).bind fun source =>
    (holdable_readTemplate d source).bind fun _ =>
      (holdable_bindNamed _ _ _).bind fun _ => holdable_assemble _ _ _

section Outcome

variable {caller : Option String} {sql : Except Failure (List Char)} (holdable : Holdable sql)
include holdable

/-- An error of the library does not fail once it is held. -/
theorem reported?_outcome {failure : Failure} (failed : outcome caller sql = .error failure) :
    failure.reported? = none := by
  cases sql with
  | ok sql => cases failed
  | error own =>
    obtain ⟨cause, rfl⟩ | unreported := holdable own rfl
    · cases failed
    · cases own <;> first | cases failed; exact unreported | cases unreported

/-- It has the caller once it is held. -/
theorem held_outcome {error : SqlError} (held : outcome caller sql = .ok (.error error)) :
    ∃ cause, error = (SqlError.of cause none).withCaller caller := by
  cases sql with
  | ok sql => cases held
  | error own =>
    obtain ⟨cause, rfl⟩ | unreported := holdable own rfl
    · exact ⟨cause, (Except.error.inj (Except.ok.inj held)).symm⟩
    · cases own with
      | query => cases unreported
      | _ => cases held

end Outcome

section Whole

variable {d : Dialect} {template values : Value} {arguments : List Value} {caller : Option String}
  {failure : Failure} {error : SqlError}

theorem reported?_positional (failed : positional d template arguments caller = .error failure) :
    failure.reported? = none :=
  reported?_outcome (holdable_sqlOfPositional d template arguments) failed

theorem reported?_named (failed : named d template values caller = .error failure) :
    failure.reported? = none :=
  reported?_outcome (holdable_sqlOfNamed d template values) failed

theorem held_positional (held : positional d template arguments caller = .ok (.error error)) :
    ∃ cause, error = (SqlError.of cause none).withCaller caller :=
  held_outcome (holdable_sqlOfPositional d template arguments) held

theorem held_named (held : named d template values caller = .ok (.error error)) :
    ∃ cause, error = (SqlError.of cause none).withCaller caller :=
  held_outcome (holdable_sqlOfNamed d template values) held

end Whole

end Rendering

end SafeSql
