import SafeSql.Proofs.Database.Calls

/-!
# What the statistics record

The statistics of a database are a window on the statements that its calls have executed: whatever
is called, every query that can be rendered adds one entry with its SQL, and nothing else
does. The same SQL is what reaches the server while the client is connected.

## Main definitions

* `Server.executed` — the statements that reach the server along a trace.
* `Database.Call.sent?` — the statement that a call sends.

## Main statements

* `Database.statistics_perform`, `Database.executed_perform` — what one call records and sends.
* `Database.queries_runAll`, `Database.executed_runAll` — what a run of calls records and sends.
* `Database.statistics_mirror_statements` — the statistics mirror the executed statements.
-/

namespace SafeSql

open SafeSql.Action (reply after Keeps)

namespace Server

@[simp] def Event.statement? : Event → Option String
  | .execute sql => some sql
  | _ => none

/-- The statements that reach the server along a trace, in order. -/
def executed (trace : List Event) : List String :=
  trace.filterMap Event.statement?

@[simp] theorem executed_nil : executed [] = [] := rfl

@[simp] theorem executed_cons (event : Event) (events : List Event) :
    executed (event :: events) = event.statement?.toList ++ executed events := by
  cases event <;> rfl

@[simp] theorem executed_append (trace events : List Event) :
    executed (trace ++ events) = executed trace ++ executed events :=
  List.filterMap_append

theorem executed_of_isReading {events : List Event} (reading : ∀ event ∈ events, event.isReading) :
    executed events = [] := by
  rw [executed, List.filterMap_eq_nil_iff]
  intro event mem
  have := reading event mem
  cases event <;> simp_all [Event.isReading, Event.statement?]

end Server

open Server (executed)

theorem World.Quiet.executed {σ : Type} {before now : σ × World} (quiet : World.Quiet before now) :
    executed now.2.trace = executed before.2.trace := by
  obtain ⟨-, -, events, trace, reading⟩ := quiet
  rw [trace, Server.executed_append, Server.executed_of_isReading reading, List.append_nil]

namespace Client

/-- The statement that a call sends, if there is a connection. -/
def Call.sent? (call : Call) (client : Client) : Option String :=
  match call with
  | .execute sql => if client.connected then some sql else none
  | _ => none

@[simp] theorem executed_setup (client : Client) : executed client.setup = [] := by
  unfold setup
  split <;> rfl

theorem executed_execute (sql : String) (client : Client) (world : World) :
    executed (after (execute sql) (client, world)).2.trace =
      executed world.trace ++ (if client.connected then some sql else none).toList := by
  rw [after_execute]
  cases client.connected <;> simp

theorem executed_perform (call : Call) (client : Client) (world : World) :
    executed (after call.perform (client, world)).2.trace =
      executed world.trace ++ (call.sent? client).toList := by
  cases call with
  | execute sql => exact executed_execute sql client world
  | connect =>
    cases connected : client.connected with
    | true => simp [Call.perform, Call.sent?, after_connect_of_connected _ _ connected]
    | false =>
      cases fault : client.engineFault world.script with
      | some broken =>
        simp [Call.perform, Call.sent?, after_connect_of_fault client world connected fault]
      | none =>
        obtain ⟨log, left⟩ := after_connect client world connected fault
        simp only [Call.perform, Call.sent?, left]
        split <;> simp
  | close =>
    simp only [Call.perform, Call.sent?, after_close]
    cases client.connected <;> cases client.hasEngine <;> simp
  | _ =>
    rw [World.Quiet.executed (quiet_perform rfl (client, world))]
    exact (List.append_nil _).symm

end Client

namespace Database

/-- The statement that a call sends, if there is a connection: the SQL that it has executed, or what
the client is asked to execute. -/
def Call.sent? (call : Call) (state : Database × World) : Option String :=
  match call with
  | .client own => own.sent? state.1.client
  | _ => if state.1.client.connected then call.rendered? state else none

theorem Call.sent?_of_unrendered {call : Call} {state : Database × World}
    (unrendered : call.rendered? state = none) (unasked : ∀ sql, call ≠ .client (.execute sql)) :
    call.sent? state = none := by
  cases call with
  | client own =>
    cases own with
    | execute sql => exact absurd rfl (unasked sql)
    | _ => rfl
  | _ => simp [sent?, unrendered]

section Step

variable (call : Call) (state : Database × World)

/-- Every call whose query can be rendered records one entry, and no other call records any. -/
theorem statistics_perform : (after call.perform state).1.statistics =
    match call.rendered? state with
    | some sql => state.1.statistics.push (entry state sql)
    | none => state.1.statistics := by
  cases rendered : call.rendered? state with
  | some sql => rw [(Call.quiet_perform rendered).1, sent]
  | none =>
    cases call with
    | client own => rw [Call.after_perform_client]
    | _ => rw [(Call.quiet_perform_of_unrendered rendered rfl).1]

theorem executed_perform : executed (after call.perform state).2.trace =
    executed state.2.trace ++ (call.sent? state).toList := by
  cases rendered : call.rendered? state with
  | some sql =>
    have sent? : call.sent? state = if state.1.client.connected then some sql else none := by
      cases call <;> simp_all [Call.sent?, Call.rendered?, Call.asked?]
    rw [(Call.quiet_perform rendered).executed, sent?]
    exact Client.executed_execute sql state.1.client state.2
  | none =>
    cases call with
    | client own =>
      rw [Call.after_perform_client]
      exact Client.executed_perform own state.1.client state.2
    | _ =>
      rw [(Call.quiet_perform_of_unrendered rendered rfl).executed]
      simp [Call.sent?, rendered]

end Step

section Run

variable (calls : List Call) (state : Database × World)

/-- The entries are the last of those that were there before and those of the run. -/
theorem queries_runAll : (runAll calls state).1.statistics.entries.map (·.query) =
    Statistics.lastOf state.1.statistics.limit
      (state.1.statistics.entries.map (·.query) ++ along Call.rendered? calls state) := by
  induction calls generalizing state with
  | nil =>
    rw [along, List.append_nil, Statistics.lastOf_of_le]
    · rfl
    · rw [List.length_map]
      exact state.1.statistics.length_le
  | cons call calls ih =>
    rw [runAll_cons, ih, along, statistics_perform]
    cases call.rendered? state with
    | none => rfl
    | some sql =>
      -- what the new entry pushes out would not be among the last ones after the run either
      simp [Statistics.map_lastOf, Statistics.lastOf_append_lastOf, entry]

theorem executed_runAll : executed (runAll calls state).2.trace =
    executed state.2.trace ++ along Call.sent? calls state := by
  induction calls generalizing state with
  | nil => exact (List.append_nil _).symm
  | cons call calls ih => rw [runAll_cons, ih, executed_perform, along, List.append_assoc]

end Run

/-- The statistics of a database mirror its executed statements: after any calls, the entries are
the last of the statements whose query could be rendered, as many as the limit allows, each with
its SQL and in order. While the client is connected the same SQL reaches the server. A call
without rendered SQL leaves the statistics alone, and sends nothing unless the client is asked
to. -/
theorem statistics_mirror_statements {settings : Settings} {options : Options}
    {given : Option Client} {target : Target} {before world : World} {database : Database}
    (created : create settings options given target before = EStateM.Result.ok database world)
    (calls : List Call) :
    let start := (database, world)
    let now := runAll calls start
    let statements := along Call.rendered? calls start
    database.statistics.limit = statedLimit settings options ∧
      now.1.statistics.entries.map (·.query) <:+ statements ∧
      now.1.statistics.entries.length = min database.statistics.limit statements.length ∧
      now.1.statistics.lastQuery = statements.getLast? ∧
      executed now.2.trace = executed world.trace ++ along Call.sent? calls start ∧
      ∀ call : Call, call.rendered? now = none →
        (after call.perform now).1.statistics = now.1.statistics ∧
          ((∀ sql, call ≠ .client (.execute sql)) →
            executed (after call.perform now).2.trace = executed now.2.trace) := by
  intro start now statements
  obtain ⟨started, -⟩ := create_eq_ok created
  obtain ⟨limit, empty⟩ := Statistics.of_empty started
  have queries : now.1.statistics.entries.map (·.query) =
      Statistics.lastOf database.statistics.limit statements := by
    rw [queries_runAll]
    simp [start, empty, statements]
  refine ⟨limit, ?_, ?_, ?_, executed_runAll calls start, fun call rendered => ⟨?_, fun own => ?_⟩⟩
  · rw [queries]
    exact List.drop_suffix _ _
  · rw [← List.length_map, queries, Statistics.length_lastOf]
  · rw [Statistics.lastQuery, ← List.getLast?_map, queries,
      Statistics.getLast?_lastOf database.statistics.limit_pos]
  · rw [statistics_perform, rendered]
  · rw [executed_perform, Call.sent?_of_unrendered rendered own, Option.toList_none,
      List.append_nil]

/-- A query that cannot be rendered leaves no trace, and one on a closed connection only its
entry. -/
theorem statistics_mirror_closed_connection :
    let calls : List Call :=
      [.run (.positional (.text "SELECT 1") []) none,
        .run (.positional (.text "SELECT ?i") []) none, .client .close,
        .get .one (.text "SELECT 2") [] none]
    let now := runAll calls (served [])
    now.1.statistics.entries.map (·.query) = ["SELECT 2"] ∧
      now.1.statistics.lastQuery = some "SELECT 2" ∧ executed now.2.trace = ["SELECT 1"] := by
  intro calls now
  have statements : along Call.rendered? calls (oneEntry, (connectedTo []).2) =
      ["SELECT 1", "SELECT 2"] := by decide +kernel
  have sending : along Call.sent? calls (oneEntry, (connectedTo []).2) = ["SELECT 1"] := by
    decide +kernel
  obtain ⟨-, window, length, last, sent, -⟩ :=
    statistics_mirror_statements (created_served []) calls
  rw [statements] at window length last
  rw [List.suffix_iff_eq_drop, List.length_map, length] at window
  exact ⟨window, last, sent.trans (by rw [sending]; rfl)⟩

end Database

end SafeSql
