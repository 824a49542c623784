import SafeSql.Action
import SafeSql.Clock
import SafeSql.Log.Record
import SafeSql.Server.Event
import SafeSql.Server.Script
import SafeSql.Url

/-!
# The outside world

What the library works with: a clock, a database server, and a log. The world remembers every
request to the server, every message and every pause.

## Main definitions

* `World` — the state.
* `World.connect`, `World.execute`, `World.fetch` and others — requests to the server.
* `World.say`, `World.now`, `World.pause` — the log and the clock.
-/

namespace SafeSql

/-- A result as the server keeps it: its rows and how many of them were read. -/
structure Server.Cursor where
  rows : Server.Rows
  read : Nat

def Server.Cursor.none : Server.Cursor :=
  ⟨Server.Rows.none, 0⟩

structure World where
  clock : Clock
  script : Server.Script
  /-- The results of executed statements, in order. -/
  cursors : List Server.Cursor
  trace : List Server.Event
  log : List Log.Record
  pauses : List Pause

namespace World

def start (clock : Clock) (script : Server.Script) : World :=
  ⟨clock, script, [], [], [], []⟩

def say (logger : String) (level : Log.Level) (message : String) : Action World Unit :=
  modify fun world =>
    { world with log := world.log ++ [⟨logger, level, message, world.clock.time⟩] }

def request (event : Server.Event) : Action World Unit :=
  modify fun world => { world with trace := world.trace ++ [event] }

def now : Action World Clock := do
  return (← get).clock

def advance (seconds : Binary64) : Action World Unit :=
  modify fun world => { world with clock := world.clock.advance seconds }

/-- Makes a pause, unless the clock refuses to. -/
def pause (length : Pause) : Action World Unit := do
  match (← get).clock.refuses length with
  | some fault => throw (.pause fault)
  | none =>
    modify fun world => { world with pauses := world.pauses ++ [length] }
    advance length.seconds

def nextConnect : Action World (Option Server.Breakdown) := do
  let world ← get
  match world.script.connects with
  | [] => pure none
  | next :: rest =>
    set { world with script := { world.script with connects := rest } }
    pure next

def nextReply : Action World Server.Reply := do
  let world ← get
  match world.script.replies with
  | [] => pure Server.Reply.none
  | next :: rest =>
    set { world with script := { world.script with replies := rest } }
    pure next

/-- A breakdown: the words of a refusal, while anything else ends the action. -/
def breakdown {α : Type} : Server.Breakdown → Action World (Except String α)
  | .refusal text => pure (.error text)
  | .outage outage => throw outage.raised

/-- The options of a source of connections; a connection to a server is tried before it is
used. -/
def engineOptions (url : Url) (echo : Bool) : List (String × String) :=
  [("echo", if echo then "True" else "False"), ("isolation_level", "AUTOCOMMIT")]
    ++ (if Url.isFile url.drivername then [] else [("pool_pre_ping", "True")])

/-- Sets up a source of connections, or gives the words in which that is refused. -/
def createEngine (url : Url) (echo : Bool) : Action World (Except String Unit) := do
  match (← get).script.engines url.masked with
  | none =>
    request (.createEngine url.text (engineOptions url echo))
    pure (.ok ())
  | some broken =>
    request (.noEngine url.masked)
    breakdown broken

/-- Asks for a connection: nothing, or the words of the refusal. -/
def connect : Action World (Except String Unit) := do
  request .connect
  match ← nextConnect with
  | none => pure (.ok ())
  | some broken => breakdown broken

/-- Executes a statement: the number of its result, or the words of the refusal. -/
def execute (sql : String) : Action World (Except String Nat) := do
  request (.execute sql)
  let reply ← nextReply
  advance reply.took
  match reply.outcome with
  | .error broken => breakdown broken
  | .ok rows =>
    let world ← get
    set { world with cursors := world.cursors ++ [Server.Cursor.mk rows 0] }
    pure (.ok world.cursors.length)

/-- The result with a number; one that was never made brings nothing. -/
def cursor (world : World) (result : Nat) : Server.Cursor :=
  (world.cursors[result]?).getD Server.Cursor.none

def columns (result : Nat) : Action World (Option (List String)) := do
  return ((← get).cursor result).rows.columns

/-- Asks for the next row of a result; there is none after the last one. -/
def fetch (result : Nat) : Action World (Option (List Value)) := do
  request (.fetch result)
  let world ← get
  let cursor := world.cursor result
  match cursor.rows.outage? cursor.read with
  | some outage => throw outage.raised
  | none =>
    match cursor.rows.rows[cursor.read]? with
    | none => pure none
    | some row =>
      set { world with
        cursors := world.cursors.set result (Server.Cursor.mk cursor.rows (cursor.read + 1)) }
      pure (some row)

def free (result : Nat) : Action World Unit :=
  request (.free result)

def unread (world : World) (result : Nat) : Nat :=
  let cursor := world.cursor result
  cursor.rows.rows.length - cursor.read

end World

def Action.onWorld {σ α : Type} (action : Action World α) : Action (σ × World) α :=
  action.within (·.2) fun state world => (state.1, world)

end SafeSql
