import SafeSql.Clock
import SafeSql.Error
import SafeSql.Files.Fault
import SafeSql.Text.Pattern
import SafeSql.Value.Equality

/-!
# Failures

Everything that can end an operation without a result: the errors of the library itself, refused
settings, a server that does not do what it is asked to, and the end of the program.

## Main definitions

* `Refusal` — why a setting or an argument was refused.
* `Failure` — why an operation has no result, with `Failure.message`.
* `Failure.isOrdinary` — whether a failure leaves the program running.
-/

namespace SafeSql

inductive Refusal
  | unknownDialect (name : String)
  | unknownMode (name : String)
  /-- What should be raised in place of errors is no kind of exception. -/
  | notException (shown : String)
  | limitNotPositive (limit : Int)
  | badWhole (fault : Whole.Fault)
  | tooLongToWrite
  | unknownLetter (letter : String)
  | badOption (reason : String)
  | unknownLevel (text : String)
  /-- Half of a pair of codes stands for no character. -/
  | loneHalf (code : Nat)
  deriving DecidableEq, Repr

namespace Refusal

/-- The most characters of a malformed number that a message shows. -/
def shownLimit : Nat := 200

def message : Refusal → String
  | .unknownDialect name =>
    "Unknown SQL dialect '" ++ name
      ++ "'. Supported: mariadb, mysql, postgres, postgresql, sqlite"
  | .unknownMode name =>
    "Unknown error mode '" ++ name ++ "'. Expected one of: exception, error"
  | .notException shown => "exception_class must be an Exception subclass, got " ++ shown
  | .limitNotPositive limit =>
    "Statistics limit must be positive, got " ++ String.ofList (Whole.text limit)
  | .badWhole (.malformed text) =>
    "invalid literal for int() with base 10: "
      ++ String.ofList ((Text.Quoted.ofText text.toList).take shownLimit)
  | .badWhole (.tooLong digits) =>
    "Exceeds the limit (4300 digits) for integer string conversion: value has "
      ++ toString digits ++ " digits; use sys.set_int_max_str_digits() to increase the limit"
  | .tooLongToWrite =>
    "Exceeds the limit (4300 digits) for integer string conversion; "
      ++ "use sys.set_int_max_str_digits() to increase the limit"
  | .unknownLetter letter =>
    String.ofList (Text.Quoted.ofText letter.toList) ++ " is not a valid PlaceholderKind"
  | .badOption reason => reason
  | .unknownLevel text =>
    "Unknown level: " ++ String.ofList (Text.Quoted.ofText text.toList)
  | .loneHalf code =>
    "'utf-8' codec can't encode character '\\u" ++ String.ofList (Text.Hex.ofNat 4 code)
      ++ "': surrogates not allowed"

end Refusal

/-- The class of an exception from outside of the library: its name, and whether it is a class for
bad values, which are expected here and there. -/
structure Failure.Foreign where
  typeName : String
  forValues : Bool
  deriving DecidableEq, Repr

namespace Failure.Foreign

/-- The class of what the database has to say where nobody asks for its words. -/
def database : Foreign :=
  ⟨"SQLAlchemyError", false⟩

def runtime : Foreign :=
  ⟨"RuntimeError", false⟩

end Failure.Foreign

inductive Failure
  | query (error : SqlError)
  /-- An error of the library, raised as an error of the application. What the application raises is
  made of the message alone, and keeps it. -/
  | application (cause : SqlError)
  | abort (error : SqlError)
  | exit (code : Nat)
  /-- The database refused a connection or a statement, in the words of the database. -/
  | driver (text : String)
  | unavailable (text : String)
  | server (kind : Failure.Foreign) (text : String)
  | interrupt (text : String)
  | refused (refusal : Refusal)
  | lookup (fault : Value.LookupFault)
  | shapeless (typeName : String)
  | notIterable (typeName : String)
  | noEntries (typeName : String)
  | emptyRow
  | unknownLevel (name : String)
  | notLevel (shown : String)
  /-- A level of logging is asked for, but not named. -/
  | unnamedLevel
  | unwritableKey (typeName : String)
  | noJson
  | file (fault : Files.Fault)
  | pattern (fault : Text.Pattern.Fault)
  /-- A "not a number" that may not be used is compared with a number. -/
  | signalingNan
  | tooManyToCount
  | pause (fault : Pause.Fault)

namespace Failure

def message : Failure → String
  | .query error | .application error => error.message
  | .abort error => error.message ++ ", thrown"
  | .exit code => toString code
  | .driver text | .unavailable text | .server _ text | .interrupt text => text
  | .refused refusal => refusal.message
  | .lookup fault => fault.message
  | .shapeless typeName => "Unsupported value type: " ++ typeName
  | .notIterable typeName => "'" ++ typeName ++ "' object is not iterable"
  | .noEntries typeName => "'" ++ typeName ++ "' object has no attribute 'items'"
  | .emptyRow => "tuple index out of range"
  | .unknownLevel name => "module 'logging' has no attribute '" ++ name ++ "'"
  | .notLevel shown => "Level not an integer or a valid string: " ++ shown
  | .unnamedLevel => "'NoneType' object has no attribute 'upper'"
  | .unwritableKey typeName =>
    "keys must be str, int, float, bool or None, not " ++ typeName
  | .noJson => "the JSON object must be str, bytes or bytearray, not list"
  | .file fault => fault.message
  | .pattern fault => fault.message
  | .signalingNan => "[<class 'decimal.InvalidOperation'>]"
  | .tooManyToCount => "Python int too large to convert to C ssize_t"
  | .pause fault => fault.message

/-- Whether the failure leaves the program running: all do but its end and an interrupt. -/
def isOrdinary : Failure → Bool
  | .abort _ | .exit _ | .interrupt _ => false
  | _ => true

end Failure

/-- A text as a value has it, or the failure of writing a number that is too long. -/
def writable (text : Option (List Char)) : Except Failure (List Char) :=
  match text with
  | some text => .ok text
  | none => .error (.refused .tooLongToWrite)

end SafeSql
