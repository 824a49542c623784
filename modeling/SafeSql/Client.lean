import SafeSql.Dialect.Known
import SafeSql.Settings
import SafeSql.Value.Mapping
import SafeSql.World

/-!
# Database clients

A client holds at most one connection to a database. It sends finished statements and walks
through their results; it remembers its last result and its last error.

## Main definitions

* `Client` — the state of a client.
* `Client.connect`, `Client.execute`, `Client.close` — the connection.
* `Client.fetchRow` — the rows of a result.
* `Client.escape` — how literals are escaped, which an open connection may decide.
-/

namespace SafeSql

structure Client where
  url : Url
  dialect : Dialect
  echo : Bool
  hasEngine : Bool
  connected : Bool
  lastResult : Option Nat
  lastError : Option String

namespace Client

def logger : String := "utils.driver"

/-- What is said when a statement is sent without a connection. -/
def notConnected : String := "Not connected"

/-- A client without a connection, for a database of a known dialect. -/
def create (url : Url) (echo hasEngine : Bool) : Except Failure Client := do
  let dialect ← Dialect.find url.backend
  pure ⟨url, dialect, echo, hasEngine, false, none, none⟩

inductive RowMode
  | named
  | plain
  deriving DecidableEq, Repr

/-- The form with a name; any other name stands for cells by column. -/
def RowMode.ofName (name : String) : RowMode :=
  if name = "num" then .plain else .named

/-- The source of connections, set up when there is none, or the words in which that is refused. -/
def ensureEngine : Action (Client × World) (Except String Unit) := do
  let (client, _) ← get
  if client.hasEngine then return .ok ()
  match ← Action.onWorld (World.createEngine client.url client.echo) with
  | .error text => return .error text
  | .ok () =>
    modify fun (client, world) => ({ client with hasEngine := true }, world)
    return .ok ()

/-- A connection from that source, or the words in which it is refused. -/
def openConnection : Action (Client × World) (Except String Unit) := do
  match ← ensureEngine with
  | .error text => return .error text
  | .ok () => Action.onWorld World.connect

def connect : Action (Client × World) Unit := do
  let (client, _) ← get
  if client.connected then return
  match ← openConnection with
  | .error text =>
    modify fun (client, world) => ({ client with lastError := some text }, world)
    throw (.driver text)
  | .ok () =>
    Action.onWorld (World.request .autocommit)
    modify fun (client, world) => ({ client with connected := true }, world)
    Action.onWorld (World.say logger Log.debug ("Connected to " ++ client.url.masked))

/-- Executes a finished statement and answers the number of its result. -/
def execute (sql : String) : Action (Client × World) Nat := do
  let (client, _) ← get
  if !client.connected then throw (.driver notConnected)
  match ← Action.onWorld (World.execute sql) with
  | .error text =>
    modify fun (client, world) => ({ client with lastError := some text }, world)
    throw (.driver text)
  | .ok result =>
    modify fun (client, world) =>
      ({ client with lastError := none, lastResult := some result }, world)
    pure result

/-- How the contents of literals are escaped: as the open connection does it, if it does, and
else by the dialect. -/
def escape (client : Client) (world : World) : List Char → List Char :=
  if client.connected then
    world.script.escape.getD client.dialect.escape
  else client.dialect.escape

/-- A row with its cells by the names of their columns; of two columns with one name the last
one counts. -/
def namedRow (columns : List String) (cells : List Value) : Value :=
  .map (Mapping.ofList ((columns.map .text).zip cells)) none

/-- The next row of a result; there is none after the last one. -/
def fetchRow (result : Nat) (mode : RowMode) : Action (Client × World) (Option Value) :=
  Action.onWorld do
    match ← World.columns result with
    | none => pure none
    | some columns =>
      match ← World.fetch result with
      | none => pure none
      | some cells =>
        match mode with
        | .plain => pure (some (.tuple cells))
        | .named => pure (some (namedRow columns cells))

def columnNames (result : Nat) : Action (Client × World) (List String) := do
  return (← Action.onWorld (World.columns result)).getD []

/-- How many rows the last statement touched. -/
def affectedRows : Action (Client × World) Int := do
  let (client, world) ← get
  match client.lastResult with
  | none => pure (-1)
  | some result => pure (world.cursor result).rows.rowCount

/-- The number that the server gave to the row that the last statement inserted. -/
def insertId : Action (Client × World) Value := do
  let (client, world) ← get
  match client.lastResult with
  | none => pure .null
  | some result => pure (world.cursor result).rows.lastRowId

def rowCount (result : Nat) : Action (Client × World) Int := do
  let (_, world) ← get
  pure (world.cursor result).rows.rowCount

def free (result : Nat) : Action (Client × World) Unit :=
  Action.onWorld (World.free result)

/-- Closes the connection and gives back the source of connections. -/
def close : Action (Client × World) Unit := do
  let (client, _) ← get
  if client.connected then
    Action.onWorld (World.request .close)
    modify fun (client, world) => ({ client with connected := false }, world)
  if client.hasEngine then
    Action.onWorld (World.request .dispose)

end Client

end SafeSql
