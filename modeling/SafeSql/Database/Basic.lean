import SafeSql.Client
import SafeSql.Report
import SafeSql.Statistics

/-!
# Databases

A database renders templates for the dialect and the connection of its client, executes the
statements, keeps statistics on them, and reports errors.

## Main definitions

* `Database` — the state.
* `Database.create` — a database with an open connection.
* `Database.parse`, `Database.parseNamed` — rendering.
* `Database.query`, `Database.queryNamed` — rendering and execution.
-/

namespace SafeSql

structure Database where
  report : Report
  statistics : Statistics
  /-- The dialect of templates, with its own way of escaping literals. -/
  base : Dialect
  client : Client

namespace Database

def renderingLogger : String := "sql.templater"

def onClient {α : Type} (action : Action (Client × World) α) : Action (Database × World) α :=
  action.within (fun (database, world) => (database.client, world))
    fun (database, _) (client, world) => ({ database with client := client }, world)

def onStatistics {α : Type} (action : Action (Statistics × World) α) :
    Action (Database × World) α :=
  action.within (fun (database, world) => (database.statistics, world))
    fun (database, _) (statistics, world) => ({ database with statistics := statistics }, world)

def reportError {α : Type} (error : SqlError) (caller : Option String) :
    Action (Database × World) α := do
  let (database, _) ← get
  Action.onWorld (database.report.surface error caller)

def settle (report : Report) (caller : Option String) (outcome : Except Failure Rendering) :
    Action World String := do
  let rendering ← Action.lift outcome
  if let .ok sql := rendering then
    World.say renderingLogger Log.debug ("Rendered query: " ++ sql)
  report.check rendering caller

/-- The dialect of templates, with the way of escaping of the client. -/
def dialect (database : Database) (world : World) : Dialect :=
  database.base.withEscape (database.client.escape world)

def parse (template : Value) (arguments : List Value) (caller : Option String) :
    Action (Database × World) String := do
  let (database, world) ← get
  Action.onWorld (settle database.report caller
    (Rendering.positional (database.dialect world) template arguments caller))

def parseNamed (template values : Value) (caller : Option String) :
    Action (Database × World) String := do
  let (database, world) ← get
  Action.onWorld (settle database.report caller
    (Rendering.named (database.dialect world) template values caller))

/-- Sends a statement: the number of its result, or the words in which it was refused. -/
def attempt (sql : String) :
    Action (Database × World) (Option String × Except Failure (Except String Nat)) := do
  match ← (onClient (Client.execute sql)).outcome with
  | .ok result => pure (none, .ok (.ok result))
  | .error (.driver text) =>
    let (database, _) ← get
    let words := (database.client.lastError.bind nonempty).getD text
    pure (some words, .ok (.error words))
  | .error failure => pure (none, .error failure)

/-- Executes rendered SQL, with an entry in the statistics for every attempt. -/
def execute (sql : String) (caller : Option String) : Action (Database × World) Nat := do
  match ← Statistics.measure (Action.onWorld World.now) (onStatistics ∘ Statistics.record) sql
      (attempt sql) with
  | .ok result => pure result
  | .error words => reportError (.of (.execution words sql) none) caller

def query (template : Value) (arguments : List Value) (caller : Option String) :
    Action (Database × World) Nat := do
  execute (← parse template arguments caller) caller

def queryNamed (template values : Value) (caller : Option String) :
    Action (Database × World) Nat := do
  execute (← parseNamed template values caller) caller

/-- What a caller says about a database; the rest comes from the settings. -/
structure Options where
  dialect : Option String
  errorMode : Option String
  statsLimit : Option Int
  raised : Report.Raised

def Options.unstated : Options :=
  ⟨none, none, none, .itself⟩

/-- Opens the connection of a client, and reports the error when that fails. -/
def connectClient (report : Report) : Action (Client × World) Unit := do
  match ← Client.connect.outcome with
  | .ok () => pure ()
  | .error (.driver text) => Action.onWorld (report.surface (.of (.connection text) none) none)
  | .error failure => throw failure

/-- A database with an open connection. The client is the given one, or one for the database of
the target. -/
def create (settings : Settings) (options : Options) (client : Option Client)
    (target : Target) : Action World Database := do
  let mode := (options.errorMode.bind nonempty).getD settings.templating.errorMode
  let report ← Action.lift (Report.create mode options.raised)
  let limit :=
    match options.statsLimit with
    | none | some 0 => settings.templating.statsLimit
    | some limit => limit
  let statistics ← Action.lift (Statistics.empty limit)
  let client ←
    match client with
    | some client => pure client
    | none => Action.lift (Client.create (settings.url target) false false)
  let base ←
    match (options.dialect.bind nonempty).or settings.templating.dialect with
    | some name => Action.lift (Dialect.find name)
    | none => pure client.dialect
  fun world =>
    match connectClient report (client, world) with
    | .ok () (client, world) => .ok ⟨report, statistics, base, client⟩ world
    | .error failure (_, world) => .error failure world

def close : Action (Database × World) Unit :=
  onClient Client.close

end Database

end SafeSql
