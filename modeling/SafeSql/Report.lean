import SafeSql.Rendering
import SafeSql.World

/-!
# Reporting errors

Rendering and execution hand errors on as values. A report turns such an error into the end of
what the caller asked for: an exception in one mode, the end of the program in the other. There
is no silent continuation.

## Main definitions

* `Report.Mode` — the two modes.
* `Report.Raised` — what is raised in place of an error.
* `Report`, `Report.create` — a way of reporting.
* `Report.failure`, `Report.message` — what an error becomes, and what is logged.
* `Report.surface` — reports an error.
* `Report.check` — the SQL of a rendering, or the report of its error.
-/

namespace SafeSql

namespace Report

inductive Mode
  | exception
  | error
  deriving DecidableEq, Repr

def Mode.name : Mode → String
  | .exception => "exception"
  | .error => "error"

def Mode.ofName? (name : String) : Option Mode :=
  if name = "exception" then some .exception
  else if name = "error" then some .error
  else none

inductive Raised
  | itself
  | application
  | otherType (name : String)
  | value (v : Value)

end Report

structure Report where
  mode : Report.Mode
  /-- Whether an error of the application is raised in place of an error. -/
  asApplication : Bool
  deriving DecidableEq, Repr

namespace Report

/-- The report for a mode and what is to be raised; only kinds of exceptions can be. -/
def create (mode : String) (raised : Raised) : Except Failure Report := do
  match Mode.ofName? mode with
  | none => throw (.refused (.unknownMode mode))
  | some mode =>
    match raised with
    | .itself => pure ⟨mode, false⟩
    | .application => pure ⟨mode, true⟩
    | .otherType name => throw (.refused (.notException ("<class '" ++ name ++ "'>")))
    | .value v =>
      let shown ← writable v.quoted?
      throw (.refused (.notException (String.ofList shown)))

def failure (report : Report) (error : SqlError) : Failure :=
  match report.mode with
  | .error => .abort error
  | .exception => if report.asApplication then .application error else .query error

def level (report : Report) : Log.Level :=
  match report.mode with
  | .error => Log.critical
  | .exception => Log.error

def message (report : Report) (error : SqlError) : String :=
  (report.failure error).message

def logger : String := "logs.error_handler"

/-- Reports an error, with the caller attached: logs it and ends the action. -/
def surface {α : Type} (report : Report) (error : SqlError) (caller : Option String) :
    Action World α := do
  let error := error.withCaller caller
  World.say logger report.level (report.message error)
  throw (report.failure error)

def check (report : Report) (rendering : Rendering) (caller : Option String) :
    Action World String :=
  match rendering with
  | .ok sql => pure sql
  | .error error => report.surface error caller

end Report

end SafeSql
