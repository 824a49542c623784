import SafeSql.Number.Shortest
import SafeSql.World

/-!
# Availability

Whether a database accepts connections, and waiting until it does.

## Main definitions

* `Availability.spelled` — a number as messages show it.
* `Availability.check` — one attempt.
* `Availability.wait` — attempts with pauses between them, up to a number of times.
-/

namespace SafeSql.Availability

def logger : String := "utils.database_utils"

/-- A number as messages show it, unless it is too long to be written. -/
def spelled (n : Int) : Except Failure String := do
  return String.ofList (← writable (Whole.text? n))

def pauseText : Pause → Except Failure String
  | .whole n => spelled n
  | .exact x => .ok (String.ofList x.text)

def tryConnection : Action World Bool := do
  match ← World.connect with
  | .ok () =>
    World.request .close
    pure true
  | .error text =>
    World.say logger Log.debug ("Database not available: " ++ text)
    pure false

/-- Whether the database accepts connections. The source of connections is given back in any case;
where none can be made, that is not what is asked here. -/
def check (url : Url) : Action World Bool := do
  match ← World.createEngine url false with
  | .ok () => tryConnection.ensuring (World.request .dispose)
  | .error text => throw (.server Failure.Foreign.database text)

def counted (attempt retries : Int) : Except Failure String := do
  return "(attempt " ++ (← spelled attempt) ++ "/" ++ (← spelled retries) ++ ")"

/-- The attempts from one on, as many as are left, with a pause between each two. -/
def attempts (url : Url) (retries : Int) (delay : Pause) : Nat → Action World Bool
  | 0 => pure false
  | left + 1 => do
    let attempt := retries - left
    if ← check url then
      let count ← Action.lift (counted attempt retries)
      World.say logger Log.info ("Database is available " ++ count)
      pure true
    else
      if left ≠ 0 then
        let count ← Action.lift (counted attempt retries)
        let length ← Action.lift (pauseText delay)
        World.say logger Log.warning
          ("Database not available yet " ++ count ++ ", retrying in " ++ length ++ "s...")
        World.pause delay
      attempts url retries delay left

def defaultRetries : Int := 10

def defaultDelay : Pause := .whole 2

/-- The URL as messages show it, unless its port is too long to be written. -/
def place (url : Url) : Except Failure String := do
  let _ ← url.port.mapM spelled
  return url.masked

def wait (url : Url) (retries : Int) (delay : Pause) : Action World Unit := do
  let place ← Action.lift (place url)
  World.say logger Log.info ("Waiting for database at " ++ place ++ "...")
  if ← attempts url retries delay retries.toNat then return
  let text := "Database at " ++ place ++ " did not become available after "
    ++ (← Action.lift (spelled retries)) ++ " attempts"
  World.say logger Log.error text
  throw (.unavailable text)

end SafeSql.Availability
