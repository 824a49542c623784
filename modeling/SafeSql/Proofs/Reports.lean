import SafeSql.Proofs.Agreement
import SafeSql.Report

/-!
# Reports in place of each other

What one report raises for an error of the library, another raises in its own way; any other failure
is the same under all reports.

## Main definitions

* `Failure.reported?` — the error of the library that a failure reports.
* `Failure.Own` — one failure, which reports none.
* `Report.StandsFor` — failures that stand for each other under two reports.
* `Report.InModes` — how something ends under the three reports that there are.

## Main statements

* `Report.inModes_of_ends` — two reports at a time are enough.
* `Report.InModes.raises_iff` — what is raised, with which message.
-/

namespace SafeSql

open SafeSql.Action (Ends)

namespace Failure

/-- The error of the library that a failure reports, in whichever way it does. -/
def reported? : Failure → Option SqlError
  | .query error | .application error | .abort error => some error
  | _ => none

/-- One failure, which reports no error of the library. -/
def Own (first second : Failure) : Prop :=
  first = second ∧ first.reported? = none

end Failure

namespace Report

/-- A report raises a failure that reports the error. -/
theorem reported?_failure (report : Report) (error : SqlError) :
    (report.failure error).reported? = some error := by
  obtain ⟨mode, asApplication⟩ := report
  cases mode <;> cases asApplication <;> rfl

/-- Failures that stand for each other under two reports: both report one error, each in its way, or
they are one failure that reports none. -/
inductive StandsFor (first second : Report) : Failure → Failure → Prop
  | reported (error : SqlError) :
    StandsFor first second (first.failure error) (second.failure error)
  | own {failure : Failure} (unreported : failure.reported? = none) :
    StandsFor first second failure failure

theorem standsFor_of_own {first second : Report} {failure other : Failure}
    (own : failure.Own other) : StandsFor first second failure other := by
  obtain ⟨rfl, unreported⟩ := own
  exact .own unreported

variable {α : Type}

/-- How something ends when errors of the library are raised as they are, when they are raised as
errors of the application, and when they end the program. -/
inductive InModes : Except Failure α → Except Failure α → Except Failure α → Prop
  | value (a : α) : InModes (.ok a) (.ok a) (.ok a)
  | reported (error : SqlError) :
    InModes (.error (.query error)) (.error (.application error)) (.error (.abort error))
  | own {failure : Failure} (unreported : failure.reported? = none) :
    InModes (.error failure) (.error failure) (.error failure)

variable {itself application abort : Except Failure α}

/-- Two reports at a time are enough. -/
theorem inModes_of_ends {also : Bool}
    (first : Ends (StandsFor ⟨.exception, false⟩ ⟨.exception, true⟩) itself application)
    (second : Ends (StandsFor ⟨.exception, false⟩ ⟨.error, also⟩) itself abort) :
    InModes itself application abort := by
  cases first with
  | value a =>
    cases second
    exact .value a
  | failure related =>
    cases second with
    | failure related' =>
      cases related with
      | reported error =>
        cases related' with
        | reported => exact .reported error
        | own unreported => cases unreported
      | own unreported =>
        cases related' with
        | reported => cases unreported
        | own => exact .own unreported

/-- Something raises an error, in the way that is said, with a message. -/
def Raises (way : SqlError → Failure) (message : String) (ended : Except Failure α) : Prop :=
  ∃ error, ended = .error (way error) ∧ (way error).message = message

theorem raises_error_iff {way : SqlError → Failure} (injective : Function.Injective way)
    (message : String) (error : SqlError) :
    Raises way message (.error (way error) : Except Failure α) ↔ (way error).message = message := by
  constructor
  · rintro ⟨other, same, rfl⟩
    rw [injective (Except.error.inj same)]
  · exact fun said => ⟨error, rfl, said⟩

theorem not_raises_own {way : SqlError → Failure}
    (reports : ∀ error, (way error).reported? = some error) (message : String) {failure : Failure}
    (own : failure.reported? = none) :
    ¬ Raises way message (.error failure : Except Failure α) := by
  rintro ⟨error, same, -⟩
  rw [Except.error.inj same, reports] at own
  cases own

/-- What is raised in one mode is raised in the others, with the same message, or with what is said
at the end of the program behind it. -/
theorem InModes.raises_iff (modes : InModes itself application abort) (message : String) :
    (Raises .query message itself ↔ Raises .application message application) ∧
      (Raises .query message itself ↔ Raises .abort (message ++ ", thrown") abort) := by
  cases modes with
  | value => simp [Raises]
  | reported error =>
    rw [raises_error_iff fun _ _ => Failure.query.inj,
      raises_error_iff fun _ _ => Failure.application.inj,
      raises_error_iff fun _ _ => Failure.abort.inj]
    exact ⟨Iff.rfl, (String.append_left_inj _).symm⟩
  | own unreported =>
    have never {way : SqlError → Failure} (reports : ∀ error, (way error).reported? = some error)
        (message : String) := not_raises_own (α := α) reports message unreported
    exact ⟨iff_of_false (never (fun _ => rfl) _) (never (fun _ => rfl) _),
      iff_of_false (never (fun _ => rfl) _) (never (fun _ => rfl) _)⟩

end Report

end SafeSql
