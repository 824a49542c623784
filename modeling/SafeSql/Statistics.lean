import SafeSql.Number.Shortest
import SafeSql.World

/-!
# Statistics

The last statements that were executed, with the time each took and what went wrong. Once the
limit is reached every new entry pushes out the oldest one.

## Main definitions

* `Statistics.Entry` — one executed statement.
* `Statistics` — the last entries, oldest first, never more than the limit.
* `Statistics.push`, `Statistics.clear`, `Statistics.lastQuery` — the operations.
* `Statistics.record` — an entry, which is logged.
* `Statistics.measure` — times an action and makes its entry, however it ends.
-/

namespace SafeSql

/-- One executed statement: when it started, how long it took, and what went wrong. -/
structure Statistics.Entry where
  query : String
  start : Binary64
  timer : Binary64
  error : Option String
  deriving DecidableEq, Repr

/-- What is logged about an entry; an empty error counts as none. -/
def Statistics.Entry.message (entry : Statistics.Entry) : String :=
  let took := String.ofList (entry.timer.fixedText 6) ++ "s"
  match entry.error with
  | none | some "" => "Query took " ++ took
  | some error => "Query failed after " ++ took ++ ": " ++ error

structure Statistics where
  limit : Nat
  entries : List Statistics.Entry
  limit_pos : 0 < limit
  length_le : entries.length ≤ limit

namespace Statistics

def defaultLimit : Int := 100

def maxLimit : Int := 9223372036854775807

def empty (limit : Int) : Except Failure Statistics :=
  if h : 0 < limit.toNat then
    if maxLimit < limit then .error .tooManyToCount
    else .ok ⟨limit.toNat, [], h, Nat.zero_le _⟩
  else do
    let _ ← writable (Whole.text? limit)
    throw (.refused (.limitNotPositive limit))

def lastOf {α : Type} (limit : Nat) (list : List α) : List α :=
  list.drop (list.length - limit)

theorem length_lastOf_le {α : Type} (limit : Nat) (list : List α) :
    (lastOf limit list).length ≤ limit := by
  simp only [lastOf, List.length_drop]
  omega

/-- A new entry at the end; the oldest one goes when there are too many. -/
def push (statistics : Statistics) (entry : Entry) : Statistics :=
  ⟨statistics.limit, lastOf statistics.limit (statistics.entries ++ [entry]),
    statistics.limit_pos, length_lastOf_le _ _⟩

@[simp] theorem entries_push (statistics : Statistics) (entry : Entry) :
    (statistics.push entry).entries
      = lastOf statistics.limit (statistics.entries ++ [entry]) := rfl

@[simp] theorem limit_push (statistics : Statistics) (entry : Entry) :
    (statistics.push entry).limit = statistics.limit := rfl

def clear (statistics : Statistics) : Statistics :=
  ⟨statistics.limit, [], statistics.limit_pos, Nat.zero_le _⟩

def lastQuery (statistics : Statistics) : Option String :=
  statistics.entries.getLast?.map (·.query)

def logger : String := "logs.query_stats"

def record (entry : Entry) : Action (Statistics × World) Unit := do
  modify fun (statistics, world) => (statistics.push entry, world)
  Action.onWorld (World.say logger Log.debug entry.message)

/-- What an entry says about an error: the text of an ordinary failure, else what was noted. -/
def entryError {α : Type} (noted : Option String) : Except Failure α → Option String
  | .ok _ => noted
  | .error failure => if failure.isOrdinary then some failure.message else noted

/-- Times an action and makes its entry, however it ends. The action notes an error by itself
or fails. -/
def measure {σ α : Type} (now : Action σ Clock) (keep : Entry → Action σ Unit)
    (query : String) (action : Action σ (Option String × Except Failure α)) : Action σ α := do
  let start ← now
  let (noted, result) ← action
  let stop ← now
  keep ⟨query, start.time, stop.counter.sub start.counter, entryError noted result⟩
  Action.lift result

end Statistics

end SafeSql
