import SafeSql.Database.Results
import SafeSql.Proofs.Database.Creation
import SafeSql.Proofs.Database.Execution

/-!
# Calls of a database

Everything that can be asked of a database. A call that has a statement executed renders it,
executes it once and then only reads its result; any other call executes nothing but what is
asked of the client itself.

## Main definitions

* `Database.Query`, `Database.Shape`, `Database.Call` — what can be asked of a database.
* `Database.Call.rendered?` — the SQL that a call has executed, if its query can be rendered.
* `Database.runAll` — one call after another.
* `Database.along` — what the calls of a run bring, one after another.
* `Database.Session` — a database and the world as calls lead to them.

## Main statements

* `Database.Call.quiet_perform` — a call that has SQL executed only reads results after that.
* `Database.Call.quiet_perform_of_unrendered` — a query that cannot be rendered changes nothing.
-/

namespace SafeSql.Database

open SafeSql.Action (reply after Keeps)
open Client (RowMode)
open World (Quiet)

section Reading

variable {α β : Type}

theorem quiet_withLog {σ : Type} (state : σ × World) (log : List Log.Record) :
    Quiet state (World.withLog state log) :=
  ⟨rfl, rfl, [], (List.append_nil _).symm, by simp⟩

theorem quiet_onClient {action : Action (Client × World) α} (quiet : Keeps Quiet action) :
    Keeps Quiet (onClient action) :=
  quiet.within fun ⟨_, _⟩ ⟨_, _⟩ ⟨client, reads⟩ => by cases client; exact ⟨rfl, reads⟩

theorem quiet_reportError (error : SqlError) (caller : Option String) :
    Keeps Quiet (reportError error caller : Action (Database × World) α) :=
  Keeps.get.bind fun (database, _) =>
    World.quiet_onWorld (database.report.reads_surface error caller)

theorem quiet_lookable (value : Value) : Keeps Quiet (lookable value) := by
  unfold lookable
  split
  · exact Keeps.throw _
  · exact Keeps.pure _

theorem quiet_indexCell (index : Value) (row : Mapping) (caller : Option String) :
    Keeps Quiet (indexCell index row caller) := by
  refine (quiet_lookable index).bind fun index => ?_
  split
  · exact Keeps.pure _
  · exact (Keeps.lift _).bind fun _ => quiet_reportError _ caller

variable {step : β → Value → Action (Database × World) β} {result : Nat} {mode : RowMode}

theorem quiet_eachRow (quiet : ∀ gathered row, Keeps Quiet (step gathered row)) (times : Nat)
    (gathered : β) : Keeps Quiet (eachRow result mode step times gathered) := by
  induction times generalizing gathered with
  | zero => exact Keeps.pure gathered
  | succ times ih =>
    refine (quiet_onClient (Client.quiet_fetchRow result mode)).bind fun row => ?_
    cases row with
    | none => exact Keeps.pure gathered
    | some row => exact (quiet gathered row).bind ih

theorem quiet_gather (quiet : ∀ gathered row, Keeps Quiet (step gathered row)) (start : β) :
    Keeps Quiet (gather result mode start step) :=
  Keeps.ensuring (Keeps.get.bind fun _ => quiet_eachRow quiet _ start)
    (quiet_onClient (Client.quiet_free result))

theorem quiet_firstRow : Keeps Quiet (firstRow result mode) :=
  Keeps.ensuring (quiet_onClient (Client.quiet_fetchRow result mode))
    (quiet_onClient (Client.quiet_free result))

end Reading

/-- A template with the values for its placeholders. -/
inductive Query
  | positional (template : Value) (arguments : List Value)
  | named (template values : Value)

namespace Query

def parse (caller : Option String) : Query → Action (Database × World) String
  | .positional template arguments => Database.parse template arguments caller
  | .named template values => parseNamed template values caller

def run (caller : Option String) : Query → Action (Database × World) Nat
  | .positional template arguments => query template arguments caller
  | .named template values => queryNamed template values caller

theorem run_eq (query : Query) (caller : Option String) :
    query.run caller = query.parse caller >>= fun sql => execute sql caller := by
  cases query <;> rfl

/-- Rendering leaves nothing but messages in the log. -/
theorem after_parse (query : Query) (caller : Option String) (state : Database × World) :
    ∃ log, after (query.parse caller) state = World.withLog state log := by
  have settled (outcome : Except Failure Rendering) :
      ∃ log, after (settle state.1.report caller outcome) state.2 =
        { state.2 with log := log } := by
    cases outcome with
    | error failure => exact ⟨_, rfl⟩
    | ok rendering => cases rendering <;> exact ⟨_, rfl⟩
  cases query with
  | positional template arguments =>
    obtain ⟨log, left⟩ := settled
      (Rendering.positional (state.1.dialect state.2) template arguments caller)
    exact ⟨log, by simp [parse, Database.parse, left, World.withLog]⟩
  | named template values =>
    obtain ⟨log, left⟩ := settled
      (Rendering.named (state.1.dialect state.2) template values caller)
    exact ⟨log, by simp [parse, parseNamed, left, World.withLog]⟩

/-- A query that can be rendered ends as the execution of its SQL, and is one. -/
theorem run_of_parsed (query : Query) {caller : Option String} {state : Database × World}
    {sql : String} (parsed : reply (query.parse caller) state = .ok sql) :
    reply (query.run caller) state = reply (execute sql caller) state ∧
      ∃ log, after (query.run caller) state = World.withLog (sent state sql) log := by
  obtain ⟨log, rendering⟩ := query.after_parse caller state
  obtain ⟨log', execution⟩ := after_execute (World.withLog state log) sql caller
  rw [query.run_eq, Action.reply_bind, Action.after_bind, parsed, rendering]
  refine ⟨?_, log', ?_⟩
  · dsimp only
    rw [reply_execute, reply_execute, reaction_log, reached_log]
    rfl
  · dsimp only
    rw [execution, sent_log]
    rfl

/-- A query that cannot be rendered ends as its rendering. -/
theorem run_of_unparsed (query : Query) {caller : Option String} {state : Database × World}
    {failure : Failure} (failed : reply (query.parse caller) state = .error failure) :
    reply (query.run caller) state = .error failure ∧
      ∃ log, after (query.run caller) state = World.withLog state log := by
  obtain ⟨log, rendering⟩ := query.after_parse caller state
  rw [query.run_eq, Action.reply_bind, Action.after_bind, failed]
  exact ⟨rfl, log, rendering⟩

end Query

/-- The shapes in which the result of a query can be had. -/
inductive Shape
  | one
  | row
  | column
  | all
  | indexed (index : Value)
  | indexedColumn (index : Value)
  | table

namespace Shape

abbrev Answer : Shape → Type
  | .one | .row => Value
  | .column | .all => List Value
  | .indexed _ | .indexedColumn _ => Mapping
  | .table => List String × List Value

def get (template : Value) (arguments : List Value) (caller : Option String) :
    (shape : Shape) → Action (Database × World) shape.Answer
  | .one => getOne template arguments caller
  | .row => getRow template arguments caller
  | .column => getColumn template arguments caller
  | .all => getAll template arguments caller
  | .indexed index => getIndexed index template arguments caller
  | .indexedColumn index => getIndexedColumn index template arguments caller
  | .table => getTable template arguments caller

/-- The query of a shape is executed as any other, and its result is only read. -/
theorem exists_finish (shape : Shape) (template : Value) (arguments : List Value)
    (caller : Option String) : ∃ finish : Nat → Action (Database × World) shape.Answer,
      shape.get template arguments caller = query template arguments caller >>= finish ∧
        ∀ result, Keeps Quiet (finish result) := by
  cases shape with
  | one | row => exact ⟨_, rfl, fun _ => quiet_firstRow.bind fun _ => Keeps.pure _⟩
  | all => exact ⟨_, rfl, fun _ => quiet_gather (fun _ _ => Keeps.pure _) _⟩
  | column =>
    refine ⟨_, rfl, fun _ => quiet_gather (fun _ row => ?_) _⟩
    cases firstCell? row with
    | none => exact Keeps.throw _
    | some cell => exact Keeps.pure _
  | indexed | indexedColumn =>
    refine ⟨_, rfl, fun _ => quiet_gather (fun _ row => ?_) _⟩
    refine (quiet_indexCell _ _ caller).bind fun cell => ?_
    exact (quiet_lookable cell).bind fun _ => Keeps.pure _
  | table =>
    refine ⟨_, rfl, fun result => ?_⟩
    refine (quiet_onClient (Client.quiet_columnNames result)).bind fun _ => ?_
    exact (quiet_gather (fun _ _ => Keeps.pure _) _).bind fun _ => Keeps.pure _

end Shape

/-- What can be asked of a database. What is asked of its client is asked by itself. -/
inductive Call
  | parse (query : Query) (caller : Option String)
  | run (query : Query) (caller : Option String)
  | get (shape : Shape) (template : Value) (arguments : List Value) (caller : Option String)
  | client (call : Client.Call)

namespace Call

abbrev Answer : Call → Type
  | .parse .. => String
  | .run .. => Nat
  | .get shape .. => shape.Answer
  | .client call => call.Answer

def perform : (call : Call) → Action (Database × World) call.Answer
  | .parse query caller => query.parse caller
  | .run query caller => query.run caller
  | .get shape template arguments caller => shape.get template arguments caller
  | .client call => onClient call.perform

/-- The query that a call has executed, and the caller. -/
def asked? : Call → Option (Query × Option String)
  | .run query caller => some (query, caller)
  | .get _ template arguments caller => some (.positional template arguments, caller)
  | _ => none

/-- What a call asks of the client. -/
def own? : Call → Option Client.Call
  | .client own => some own
  | _ => none

/-- The SQL that a call has executed: that of its query, if it can be rendered. -/
def rendered? (call : Call) (state : Database × World) : Option String :=
  call.asked?.bind fun (query, caller) => (reply (query.parse caller) state).toOption

variable {call : Call} {state : Database × World} {query : Query} {caller : Option String}
  {sql : String}

theorem exists_finish (asked : call.asked? = some (query, caller)) :
    ∃ finish : Nat → Action (Database × World) call.Answer,
      call.perform = query.run caller >>= finish ∧ ∀ result, Keeps Quiet (finish result) := by
  cases call with
  | parse | client => nomatch asked
  | run =>
    cases asked
    exact ⟨pure, (bind_pure _).symm, fun result => Keeps.pure result⟩
  | get shape template arguments caller =>
    cases asked
    exact shape.exists_finish template arguments caller

theorem exists_query (rendered : call.rendered? state = some sql) :
    ∃ query caller, call.asked? = some (query, caller) ∧
      reply (query.parse caller) state = .ok sql := by
  obtain ⟨⟨query, caller⟩, asked, rendered⟩ := Option.bind_eq_some_iff.mp rendered
  refine ⟨query, caller, asked, ?_⟩
  cases parsed : reply (query.parse caller) state with
  | error failure => simp [parsed, Except.toOption] at rendered
  | ok sql' => simpa [parsed, Except.toOption] using rendered

/-- A call whose query can be rendered has its SQL sent, and only reads results after that. -/
theorem quiet_perform (rendered : call.rendered? state = some sql) :
    Quiet (sent state sql) (after call.perform state) := by
  obtain ⟨query, caller, asked, parsed⟩ := exists_query rendered
  obtain ⟨finish, performed, quiet⟩ := exists_finish asked
  obtain ⟨-, log, left⟩ := query.run_of_parsed parsed
  have run : Quiet (sent state sql) (after (query.run caller) state) := by
    rw [left]
    exact quiet_withLog _ log
  rw [performed, Action.after_bind]
  cases reply (query.run caller) state with
  | error failure => exact run
  | ok result => exact trans_of Quiet run (quiet result _)

/-- A call whose SQL is refused reports the refusal, with the caller. -/
theorem reply_perform_of_refused {text : String} (asked : call.asked? = some (query, caller))
    (parsed : reply (query.parse caller) state = .ok sql)
    (refused : reaction state sql = .error (.driver text)) :
    reply call.perform state =
      .error (state.1.report.failure
        ((SqlError.of (.execution (words (reached state sql).1 text) sql) none).withCaller
          caller)) := by
  obtain ⟨finish, performed, -⟩ := exists_finish asked
  rw [performed, Action.reply_bind, (query.run_of_parsed parsed).1, reply_execute, refused]

theorem reply_perform_of_driver {text : String} (rendered : call.rendered? state = some sql)
    (refused : reaction state sql = .error (.driver text)) :
    ∃ caller, reply call.perform state =
      .error (state.1.report.failure
        ((SqlError.of (.execution (words (reached state sql).1 text) sql) none).withCaller
          caller)) := by
  obtain ⟨query, caller, asked, parsed⟩ := exists_query rendered
  exact ⟨caller, reply_perform_of_refused asked parsed refused⟩

/-- A call whose query cannot be rendered, or that is there for rendering only, sends nothing. -/
theorem quiet_perform_of_unrendered (unrendered : call.rendered? state = none)
    (notOwn : call.own? = none) : Quiet state (after call.perform state) := by
  -- a call that has nothing executed only renders; any other one stops at its query
  cases asked : call.asked? with
  | none =>
    cases call with
    | parse query caller =>
      obtain ⟨log, rendering⟩ := query.after_parse caller state
      rw [perform, rendering]
      exact quiet_withLog state log
    | client | run | get => simp_all [asked?, own?]
  | some pair =>
    obtain ⟨query, caller⟩ := pair
    obtain ⟨finish, performed, -⟩ := exists_finish asked
    cases parsed : reply (query.parse caller) state with
    | ok sql => simp [rendered?, asked, parsed, Except.toOption] at unrendered
    | error failure =>
      obtain ⟨ended, log, left⟩ := query.run_of_unparsed parsed
      rw [performed, Action.after_bind, ended, left]
      exact quiet_withLog state log

/-- What is asked of the client stays with the client. -/
theorem after_perform_client (own : Client.Call) (state : Database × World) :
    after (Call.client own).perform state =
      ({ state.1 with client := (after own.perform (state.1.client, state.2)).1 },
        (after own.perform (state.1.client, state.2)).2) :=
  after_onClient state _

end Call

/-- The state to which calls lead, one after another. -/
def runAll (calls : List Call) (state : Database × World) : Database × World :=
  calls.foldl (fun state call => after call.perform state) state

@[simp] theorem runAll_cons (call : Call) (calls : List Call) (state : Database × World) :
    runAll (call :: calls) state = runAll calls (after call.perform state) := rfl

/-- What calls bring, each in the state in which it is made. -/
def along (brings : Call → Database × World → Option String) :
    List Call → Database × World → List String
  | [], _ => []
  | call :: calls, state =>
    (brings call state).toList ++ along brings calls (after call.perform state)

/-- A database and the world as calls lead to them. The client of the database was made by itself,
and called before, or it was made when the database was created. -/
inductive Session (script : Server.Script) : Database × World → Prop
  | own {settings : Settings} {options : Options} {target : Target} {database : Database}
      {world : World} (clock : Clock)
      (created : create settings options none target (World.start clock script) =
        EStateM.Result.ok database world) :
      Session script (database, world)
  | given {settings : Settings} {options : Options} {target : Target} {database : Database}
      {world : World} {client : Client × World} (session : Client.Session script client)
      (created : create settings options (some client.1) target client.2 =
        EStateM.Result.ok database world) :
      Session script (database, world)
  | call {state : Database × World} (before : Session script state) (call : Call) :
      Session script (after call.perform state)

section Served

/-- The settings for a database in memory that keeps its last statement only. -/
def inMemory : Settings :=
  ⟨⟨"sqlite", "", none, "", "", ":memory:", ""⟩, ⟨none, "exception", 1⟩, ⟨"INFO", none, "logs"⟩⟩

/-- A database with these settings, over a client that is connected. -/
def oneEntry : Database where
  report := ⟨.exception, false⟩
  statistics := ⟨1, [], by decide, by decide⟩
  base := .sqlite
  client :=
    ⟨⟨"sqlite", none, none, none, none, some ":memory:", []⟩, .sqlite, false, true, true, none,
      none⟩

/-- A server that grants every connection and has these replies. -/
def replying (replies : List Server.Reply) : Server.Script :=
  { Server.Script.idle with replies := replies }

/-- The client and the world once a server with the replies was connected to. -/
def connectedTo (replies : List Server.Reply) : Client × World :=
  after Client.connect
    ({ oneEntry.client with connected := false }, World.start .zero (replying replies))

/-- The database over that client, and the world. -/
def served (replies : List Server.Reply) : Database × World :=
  (oneEntry, (connectedTo replies).2)

theorem created_served (replies : List Server.Reply) :
    create inMemory .unstated (some (connectedTo replies).1) .unstated (connectedTo replies).2 =
      EStateM.Result.ok oneEntry (connectedTo replies).2 := rfl

theorem session_served (replies : List Server.Reply) :
    Session (replying replies) (served replies) := by
  have made : Client.create oneEntry.client.url false true =
      .ok { oneEntry.client with connected := false } := rfl
  have connected : Client.Session (replying replies) (connectedTo replies) :=
    .call (.start .zero made) .connect
  exact .given connected (created_served replies)

end Served

end SafeSql.Database
