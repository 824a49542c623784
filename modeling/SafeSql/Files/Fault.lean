import SafeSql.Text.Quoted

/-!
# Faults of files

Why a directory cannot be made or a file cannot be opened.

## Main definitions

* `Files.Cause` — the causes.
* `Files.Fault`, `Files.Fault.message` — a cause at a path, in words.
-/

namespace SafeSql.Files

inductive Cause
  | missing
  | inUse
  | notDirectory
  | isDirectory
  | nameTooLong
  deriving DecidableEq, Repr

def Cause.number : Cause → Nat
  | .missing => 2
  | .inUse => 17
  | .notDirectory => 20
  | .isDirectory => 21
  | .nameTooLong => 36

def Cause.words : Cause → String
  | .missing => "No such file or directory"
  | .inUse => "File exists"
  | .notDirectory => "Not a directory"
  | .isDirectory => "Is a directory"
  | .nameTooLong => "File name too long"

inductive Fault
  | atPath (cause : Cause) (path : String)
  | nullCharacter
  deriving DecidableEq, Repr

def Fault.message : Fault → String
  | .atPath cause path =>
    "[Errno " ++ toString cause.number ++ "] " ++ cause.words ++ ": "
      ++ String.ofList (Text.Quoted.ofText path.toList)
  | .nullCharacter => "embedded null byte"

end SafeSql.Files
