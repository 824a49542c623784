import SafeSql.Proofs.Reports

/-!
# Callers of the library

An error is told who called the library by every layer that it passes through: by the one who makes
it, by rendering, and by the report. The first who gives a name is the one whom the error names,
once, at the end of its text; later ones are no matter.

## Main definitions

* `Callers.Layer`, `Callers.Layer.HandsOn` — a layer, and what it hands on of an error.
* `Callers.Passes` — an error passes through layers, one after another.
* `Callers.suffix` — what the text of an error says about its caller.
* `Callers.Tells` — what an error says, and whom it names.

## Main statements

* `Callers.handsOn_iff` — a layer attaches its caller, and hands on nothing else.
* `Callers.tells_of_passes` — an error that passed through layers names the first caller.
-/

namespace SafeSql.Callers

open SafeSql.Action (reply)
open SqlError (isNamed)

/-- What can attach a caller to an error: the error itself, rendering by position or by name, and
the two ways of reporting. -/
inductive Layer
  | direct
  | rendering
  | check (report : Report)
  | surface (report : Report)

/-- What a layer that was given a caller hands on of an error. Rendering holds it as its outcome,
and a report ends with a failure that reports it. -/
def Layer.HandsOn (layer : Layer) (caller : Option String) (world : World)
    (error handed : SqlError) : Prop :=
  match layer with
  | .direct => handed = error.withCaller caller
  | .rendering => Rendering.outcome caller (.error (.query error)) = .ok (.error handed)
  | .check report => ∃ failure, reply (report.check (.error error) caller) world = .error failure ∧
      failure.reported? = some handed
  | .surface report => ∃ failure,
    reply (report.surface error caller : Action World Empty) world = .error failure ∧
      failure.reported? = some handed

/-- An error passes through layers with their callers, one after another. -/
inductive Passes : List (Layer × Option String) → SqlError → SqlError → Prop
  | done (error : SqlError) : Passes [] error error
  | step {layer : Layer} {caller : Option String} (world : World)
    {layers : List (Layer × Option String)} {error handed last : SqlError}
    (hands : layer.HandsOn caller world error handed) (rest : Passes layers handed last) :
    Passes ((layer, caller) :: layers) error last

/-- What the text of an error says about its caller. -/
def suffix : Option String → String
  | none | some "" => ""
  | some caller => ". Error initiated in " ++ caller

/-- An error says its cause and then its caller, in its text and in its message. -/
structure Tells (cause : SqlError.Cause) (caller : Option String) (error : SqlError) : Prop where
  caused : error.cause = cause
  named : error.caller = caller
  text : error.text = error.message
  message : error.message = "SafeSQL: " ++ cause.reason ++ suffix caller

/-- The first of the callers who has a name, else the one that was given first. -/
def firstNamed (caller : Option String) (callers : List (Option String)) : Option String :=
  ((caller :: callers).find? isNamed).getD caller

variable {cause : SqlError.Cause} {caller caller' : Option String} {error handed last : SqlError}
  {layers : List (Layer × Option String)}

theorem tells_of (cause : SqlError.Cause) (caller : Option String) :
    Tells cause caller (SqlError.of cause caller) := by
  refine ⟨rfl, rfl, rfl, ?_⟩
  cases caller <;> rfl

/-- A layer hands on the error with its caller, and nothing else. -/
theorem handsOn_iff {layer : Layer} {world : World} :
    layer.HandsOn caller world error handed ↔ handed = error.withCaller caller := by
  have reports (report : Report) : (∃ failure,
      (.error (report.failure (error.withCaller caller)) : Except Failure Empty) = .error failure ∧
        failure.reported? = some handed) ↔ handed = error.withCaller caller := by
    constructor
    · rintro ⟨failure, ended, reported⟩
      rw [← Except.error.inj ended, Report.reported?_failure] at reported
      exact (Option.some.inj reported).symm
    · rintro rfl
      exact ⟨_, rfl, Report.reported?_failure report _⟩
  cases layer with
  | direct => rfl
  | rendering =>
    rw [Layer.HandsOn, Rendering.outcome, Except.ok.injEq, Except.error.injEq]
    exact eq_comm
  | check report =>
    refine Iff.trans ⟨?_, ?_⟩ (reports report) <;>
    · rintro ⟨failure, ended, reported⟩
      exact ⟨failure, congrArg Except.error (Except.error.inj ended), reported⟩
  | surface report => exact reports report

/-- An error that has no name for its caller yet takes the one of a layer that has. -/
theorem Tells.withCaller (tells : Tells cause caller error) (caller' : Option String) :
    Tells cause (if !isNamed caller && isNamed caller' then caller' else caller)
      (error.withCaller caller') := by
  rw [SqlError.withCaller, tells.named, Bool.and_comm]
  split
  · rw [tells.caused]
    exact tells_of cause caller'
  · exact tells

theorem isNamed_iff {caller : Option String} :
    isNamed caller = true ↔ ∃ name, caller = some name ∧ name ≠ "" := by
  unfold isNamed
  split <;> simp_all

theorem firstNamed_cons (caller first : Option String) (callers : List (Option String)) :
    firstNamed caller (first :: callers) =
      firstNamed (if !isNamed caller && isNamed first then first else caller) callers := by
  cases named : isNamed caller <;> cases named' : isNamed first <;>
    simp [firstNamed, named, named']

/-- An error that passed through layers says its cause, and names the first who gave a name. -/
theorem tells_of_passes (tells : Tells cause caller error) (passes : Passes layers error last) :
    Tells cause (firstNamed caller (layers.map (·.2))) last := by
  induction passes generalizing caller with
  | done =>
    have first : firstNamed caller [] = caller := by
      cases named : isNamed caller <;> simp [firstNamed, named]
    rwa [List.map_nil, first]
  | step world hands rest ih =>
    rw [handsOn_iff.mp hands] at ih
    rw [List.map_cons, firstNamed_cons]
    exact ih (tells.withCaller _)

end SafeSql.Callers
