import SafeSql.Binding.Fault
import SafeSql.Fragment.Fault
import SafeSql.Value.Basic

/-!
# Errors

What can go wrong with a template, its arguments or an executed statement. An error has a cause
and, once someone named it, the place from which the library was called.

## Main definitions

* `SqlError.Family` — the families of errors, with `Family.parent?`.
* `SqlError.Cause` — the causes, with `Cause.family` and `Cause.reason`.
* `SqlError` — a cause and a caller.
* `SqlError.message` — the whole text.
* `SqlError.withCaller` — attaches a caller unless there is one already.
-/

namespace SafeSql

namespace SqlError

inductive Family
  | general
  | malformedTemplate
  | unknownKind
  | arityMismatch
  | format
  | invalidFormat
  | emptyIdentifier
  | inconsistentRows
  | execution
  | connection
  deriving DecidableEq, Repr

/-- The family that a family belongs to; all but the general one belong to some. -/
def Family.parent? : Family → Option Family
  | .general => none
  | .invalidFormat | .emptyIdentifier | .inconsistentRows => some .format
  | _ => some .general

/-- The family and those that it belongs to, the general one last. -/
def Family.lineage (family : Family) : List Family :=
  match family.parent? with
  | none => [family]
  | some .general => [family, .general]
  | some parent => [family, parent, .general]

inductive Cause
  | template (fault : Template.Fault)
  | binding (fault : Binding.Fault)
  | format (kind : Template.Kind) (value : Value) (fault : Fragment.Fault)
  /-- The column that was to index the rows is not among those of the result. -/
  | missingIndex (index : Value) (shown : String) (columns : List String)
  | execution (driverText query : String)
  | connection (driverText : String)
  /-- An error of some family, stated in words by the caller of the library. -/
  | stated (family : Family) (reason : String)
  /-- An error about a value, stated in words by the caller of the library. -/
  | statedFormat (family : Family) (label : String) (value : Value) (reason : String)

namespace Cause

def family : Cause → Family
  | .template (.unknownKind ..) => .unknownKind
  | .template _ => .malformedTemplate
  | .binding _ => .arityMismatch
  | .format _ _ .emptyName => .emptyIdentifier
  | .format _ _ .differentSizes | .format _ _ .differentKeys => .inconsistentRows
  | .format .. | .missingIndex .. => .invalidFormat
  | .execution .. => .execution
  | .connection _ => .connection
  | .stated family _ | .statedFormat family .. => family

def reason : Cause → String
  | .template fault => fault.message
  | .binding fault => fault.message
  | .format kind _ fault => fault.reason kind
  | .missingIndex _ shown columns =>
    "Index column '" ++ shown ++ "' not found in result columns (" ++ ", ".intercalate columns
      ++ ")"
  | .execution driverText query => driverText ++ ". Full query: [" ++ query ++ "]"
  | .connection driverText => driverText
  | .stated _ reason | .statedFormat _ _ _ reason => reason

/-- What the value was wanted for, and the value, when the error is about one. -/
def offending? : Cause → Option (String × Value)
  | .format kind value _ => some (kind.label, value)
  | .missingIndex index _ _ => some ("index", index)
  | .statedFormat _ label value _ => some (label, value)
  | _ => none

/-- What the database said and the statement, when the error is about one. -/
def rejected? : Cause → Option (String × String)
  | .execution driverText query => some (driverText, query)
  | _ => none

end Cause

def engineName : String := "SafeSQL"

/-- The text of an error with a reason and perhaps a caller; an empty caller is none. -/
def compose (reason : String) (caller : Option String) : String :=
  engineName ++ ": " ++ reason ++
    match caller with
    | none | some "" => ""
    | some caller => ". Error initiated in " ++ caller

end SqlError

/-- A cause, the caller when one is known, and the text under which the error was last known. -/
structure SqlError where
  cause : SqlError.Cause
  caller : Option String
  text : String

namespace SqlError

def of (cause : Cause) (caller : Option String) : SqlError :=
  ⟨cause, caller, compose cause.reason caller⟩

def family (error : SqlError) : Family :=
  error.cause.family

def reason (error : SqlError) : String :=
  error.cause.reason

/-- The whole text of an error: the name of the library, the cause and the caller. -/
def message (error : SqlError) : String :=
  compose error.reason error.caller

def isNamed : Option String → Bool
  | none | some "" => false
  | some _ => true

/-- The error with the caller attached, unless none is given or there is one already. -/
def withCaller (error : SqlError) (caller : Option String) : SqlError :=
  if isNamed caller && !isNamed error.caller then of error.cause caller else error

@[simp] theorem cause_withCaller (error : SqlError) (caller : Option String) :
    (error.withCaller caller).cause = error.cause := by
  unfold withCaller
  split <;> rfl

end SqlError

end SafeSql
