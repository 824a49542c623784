import SafeSql.CommandLine
import Std.Time.DateTime.Timestamp

/-!
# The program

Reads the settings from the environment and the clock, runs the command line, and writes what it
printed, what it said, and the log files. No database is attached to the program: a connection is
refused.
-/

namespace SafeSql.Program

/-- The variables of the environment that hold settings, as far as they are set. -/
def environment : IO Environment :=
  Settings.variableNames.filterMapM fun name => do
    return (← IO.getEnv name).map fun value => (name, value)

def time : IO Binary64 := do
  return Binary64.ofInt (← Std.Time.Timestamp.now).toSecondsSinceUnixEpoch.val

/-- A server that refuses as many connections as the command line asks for. -/
def offline : Server.Script :=
  { Server.Script.idle with
    connects := List.replicate CommandLine.retries.toNat
      (some (.refusal "no database is attached")) }

def appendFile (path : Files.Path) (text : String) : IO Unit := do
  IO.FS.createDirAll path.parent.text
  IO.FS.withFile path.text .append fun handle => handle.putStr text

/-- Runs the command line on its arguments and answers the exit code. -/
def run (words : List String) : IO UInt32 := do
  match Settings.ofEnvironment (← environment) with
  | .error failure =>
    IO.eprintln failure.message
    return 1
  | .ok settings =>
    let now ← time
    let world := World.start (.standard now now) offline
    let outcome := CommandLine.run words settings world
    IO.print outcome.printed
    IO.eprint (outcome.errors ++ outcome.farewell)
    for (place, text) in outcome.files.allTexts do
      appendFile place.path text
    return outcome.code.toUInt32

end SafeSql.Program

def main (words : List String) : IO UInt32 :=
  SafeSql.Program.run words
