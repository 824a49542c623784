import SafeSql.Number.Binary64

/-!
# Log records

What the library has to say while it works, with the part that says it, how much it matters, and
when it was said.

## Main definitions

* `Log.Record` — one message.
* `Log.levelName` — the name of a level.
-/

namespace SafeSql.Log

/-- How much a message matters; higher levels matter more. -/
abbrev Level := Int

def debug : Level := 10

def info : Level := 20

def warning : Level := 30

def error : Level := 40

def critical : Level := 50

/-- The name of a level; levels between the named ones are numbered. -/
def levelName (level : Level) : String :=
  if level = critical then "CRITICAL"
  else if level = error then "ERROR"
  else if level = warning then "WARNING"
  else if level = info then "INFO"
  else if level = debug then "DEBUG"
  else if level = 0 then "NOTSET"
  else "Level " ++ toString level

/-- One message: who says it, how much it matters, what it says, and when. -/
structure Record where
  logger : String
  level : Level
  message : String
  time : Binary64
  deriving DecidableEq, Repr

end SafeSql.Log
