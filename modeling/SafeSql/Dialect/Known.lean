import SafeSql.Dialect
import SafeSql.Failure

/-!
# Known dialects

Dialects are asked for by name, in any case, and also by the name of a database driver: what
follows a `+` is the driver's own affair.

## Main definitions

* `Dialect.ofName?` — the dialect with a name.
* `Dialect.find` — the same, where a missing dialect is a failure.
-/

namespace SafeSql.Dialect

def known : List (String × Dialect) :=
  [("mariadb", mysql), ("mysql", mysql), ("postgres", postgresql), ("postgresql", postgresql),
    ("sqlite", sqlite)]

/-- The name up to a `+`, in small letters. The known names are ASCII, and no other letter has
one of theirs as its small form. -/
def baseName (name : String) : String :=
  String.ofList ((name.toList.takeWhile (· ≠ '+')).map Char.toLower)

def ofName? (name : String) : Option Dialect :=
  known.lookup (baseName name)

def find (name : String) : Except Failure Dialect :=
  match ofName? name with
  | some d => .ok d
  | none => .error (.refused (.unknownDialect name))

end SafeSql.Dialect
