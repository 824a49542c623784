import SafeSql.Proofs.Client.Failures
import SafeSql.Proofs.Database.Calls
import SafeSql.Proofs.Rendering.Failures

/-!
# One database under two reports

A database reads its report only to raise an error of the library. Under another report, in a
world with another log, whatever is called ends alike, up to the way in which that error is raised,
and leaves all but the report and the log alike.

## Main definitions

* `Database.Alike` — two databases that differ in their reports, in worlds that differ in their
  logs.
* `Database.Uniform` — an action that ends alike in them.
* `Database.Query.rendering` — what a query is rendered to.

## Main statements

* `Database.uniform_perform` — whatever is called ends alike under two reports.
* `Database.alike_runAll` — calls leave all but the report and the log alike.
-/

namespace SafeSql.Database

open SafeSql.Action (reply after Ends Agrees)
open Client (RowMode)
open Failure (Own)
open Report (StandsFor)
open World (Logged Beside)

variable {first second : Report}

/-- Two databases that differ in their reports, in worlds that differ in their logs. -/
structure Alike (first second : Report) (s t : Database × World) : Prop where
  report : s.1.report = first
  database : t.1 = { s.1 with report := second }
  world : Logged s.2 t.2

theorem Alike.trace {s t : Database × World} (alike : Alike first second s t) :
    t.2.trace = s.2.trace :=
  alike.world.trace

theorem Alike.statistics {s t : Database × World} (alike : Alike first second s t) :
    t.1.statistics = s.1.statistics := by
  rw [alike.database]

/-- An action ends alike under two reports. -/
abbrev Uniform {α : Type} (first second : Report) (action : Action (Database × World) α) : Prop :=
  Agrees (Alike first second) (StandsFor first second) action

/-- It is enough to look at one state with another report and another log. -/
theorem uniform_of_report {α : Type} {action : Action (Database × World) α}
    (each : ∀ database world log, database.report = first →
      Ends (StandsFor first second) (reply action (database, world))
          (reply action ({ database with report := second }, { world with log := log })) ∧
        Alike first second (after action (database, world))
          (after action ({ database with report := second }, { world with log := log }))) :
    Uniform first second action := by
  rintro ⟨database, world⟩ ⟨database', world'⟩ ⟨report, same, log, logged⟩
  dsimp only at report same logged
  rw [same, logged]
  exact each database world log report

section Parts

variable {α β : Type}

theorem uniform_onClient {action : Action (Client × World) α}
    (agrees : Agrees (Beside Logged) Own action) : Uniform first second (onClient action) := by
  refine agrees.within ?_ ?_ fun _ _ => Report.standsFor_of_own
  · rintro ⟨database, world⟩ ⟨database', world'⟩ ⟨report, same, logged⟩
    dsimp only at same
    subst same
    exact ⟨rfl, logged⟩
  · rintro ⟨database, world⟩ ⟨database', world'⟩ ⟨client, now⟩ ⟨client', now'⟩
      ⟨report, same, -⟩ ⟨moved, logged⟩
    dsimp only at same moved
    subst same moved
    exact ⟨report, rfl, logged⟩

theorem uniform_reportError (error : SqlError) (caller : Option String) :
    Uniform first second (reportError error caller : Action (Database × World) α) := by
  refine uniform_of_report fun database world log report => ?_
  subst report
  exact ⟨.failure (.reported _), rfl, rfl, _, rfl⟩

theorem uniform_throw {failure : Failure} (own : failure.reported? = none) :
    Uniform first second (throw failure : Action (Database × World) α) :=
  Agrees.throw (.own own)

theorem uniform_lookable (value : Value) : Uniform first second (lookable value) := by
  unfold lookable
  split
  · exact uniform_throw rfl
  · exact Agrees.pure _

theorem uniform_writable (text : Option (List Char)) :
    Uniform first second (Action.lift (writable text)) := by
  refine Agrees.lift fun failure failed => ?_
  cases text <;> cases failed
  exact .own rfl

theorem uniform_indexCell (index : Value) (row : Mapping) (caller : Option String) :
    Uniform first second (indexCell index row caller) := by
  refine (uniform_lookable index).bind fun index => ?_
  split
  · exact Agrees.pure _
  · exact (uniform_writable _).bind fun _ => uniform_reportError _ caller

variable {step : β → Value → Action (Database × World) β} {result : Nat} {mode : RowMode}

theorem uniform_eachRow (uniform : ∀ gathered row, Uniform first second (step gathered row))
    (times : Nat) (gathered : β) :
    Uniform first second (eachRow result mode step times gathered) := by
  induction times generalizing gathered with
  | zero => exact Agrees.pure gathered
  | succ times ih =>
    refine (uniform_onClient (Client.agrees_fetchRow result mode)).bind fun row => ?_
    cases row with
    | none => exact Agrees.pure gathered
    | some row => exact (uniform gathered row).bind ih

theorem uniform_gather (uniform : ∀ gathered row, Uniform first second (step gathered row))
    (start : β) : Uniform first second (gather result mode start step) := by
  refine Agrees.ensuring (Agrees.get_bind fun s t alike => ?_)
    (uniform_onClient (Client.agrees_perform (.free result)))
  -- the rows that are left are the same
  have unread : t.2.unread result = s.2.unread result := by
    obtain ⟨log, logged⟩ := alike.world
    rw [logged]
    rfl
  dsimp only
  rw [unread]
  exact uniform_eachRow uniform _ start alike

theorem uniform_firstRow : Uniform first second (firstRow result mode) :=
  Agrees.ensuring (uniform_onClient (Client.agrees_fetchRow result mode))
    (uniform_onClient (Client.agrees_perform (.free result)))

end Parts

/-- What a query is rendered to: SQL text, or an error of the library. -/
def Query.rendering (caller : Option String) (state : Database × World) :
    Query → Except Failure Rendering
  | .positional template arguments =>
    Rendering.positional (state.1.dialect state.2) template arguments caller
  | .named template values => Rendering.named (state.1.dialect state.2) template values caller

/-- A query is rendered to its text, or the error is reported. -/
theorem Query.reply_parse (query : Query) (caller : Option String) (state : Database × World) :
    reply (query.parse caller) state =
      match query.rendering caller state with
      | .ok (.ok sql) => .ok sql
      | .ok (.error error) => .error (state.1.report.failure (error.withCaller caller))
      | .error failure => .error failure := by
  have same : reply (query.parse caller) state =
      reply (settle state.1.report caller (query.rendering caller state)) state.2 := by
    rw [← Action.reply_onWorld]
    cases query <;> rfl
  rw [same]
  cases query.rendering caller state with
  | error failure => rfl
  | ok rendering => cases rendering <;> rfl

theorem Query.reported?_rendering {query : Query} {caller : Option String}
    {state : Database × World} {failure : Failure}
    (failed : query.rendering caller state = .error failure) : failure.reported? = none := by
  cases query with
  | positional => exact Rendering.reported?_positional failed
  | named => exact Rendering.reported?_named failed

theorem uniform_parse (query : Query) (caller : Option String) :
    Uniform first second (query.parse caller) := by
  refine uniform_of_report fun database world log report => ⟨?_, ?_⟩
  · rw [query.reply_parse, query.reply_parse]
    have same : query.rendering caller
        ({ database with report := second }, { world with log := log }) =
          query.rendering caller (database, world) := by
      cases query <;> rfl
    rw [same]
    cases rendered : query.rendering caller (database, world) with
    | error failure => exact .failure (.own (Query.reported?_rendering rendered))
    | ok rendering =>
      cases rendering with
      | ok sql => exact .value sql
      | error error =>
        subst report
        exact .failure (.reported _)
  · obtain ⟨_, left⟩ := query.after_parse caller (database, world)
    obtain ⟨log', left'⟩ := query.after_parse caller
      ({ database with report := second }, { world with log := log })
    rw [left, left']
    exact ⟨report, rfl, log', rfl⟩

theorem uniform_execute (sql : String) (caller : Option String) :
    Uniform first second (execute sql caller) := by
  refine uniform_of_report fun database world log report => ⟨?_, ?_⟩
  · have same : reaction ({ database with report := second }, { world with log := log }) sql =
        reaction (database, world) sql := reaction_log (database, world) sql log
    have same' : (reached ({ database with report := second }, { world with log := log }) sql).1 =
        (reached (database, world) sql).1 :=
      (congrArg Prod.fst (reached_log (database, world) sql log) :)
    rw [reply_execute, reply_execute, same, same']
    rcases Client.reply_execute_cases sql (database.client, world) with
      ⟨result, ended⟩ | ⟨text, ended⟩ | ⟨kind, text, ended⟩ | ⟨text, ended⟩ <;>
      rw [reaction, ended]
    · exact .value result
    · subst report
      exact .failure (.reported _)
    · exact .failure (.own rfl)
    · exact .failure (.own rfl)
  · obtain ⟨_, left⟩ := after_execute (database, world) sql caller
    obtain ⟨log', left'⟩ :=
      after_execute ({ database with report := second }, { world with log := log }) sql caller
    have same : sent ({ database with report := second }, { world with log := log }) sql =
        ({ (sent (World.withLog (database, world) log) sql).1 with report := second },
          (sent (World.withLog (database, world) log) sql).2) := rfl
    rw [left, left', same, sent_log]
    exact ⟨report, rfl, log', rfl⟩

theorem uniform_run (query : Query) (caller : Option String) :
    Uniform first second (query.run caller) := by
  rw [query.run_eq]
  exact (uniform_parse query caller).bind fun sql => uniform_execute sql caller

theorem uniform_get (shape : Shape) (template : Value) (arguments : List Value)
    (caller : Option String) : Uniform first second (shape.get template arguments caller) := by
  have queried : Uniform first second (query template arguments caller) :=
    uniform_run (.positional template arguments) caller
  cases shape with
  | one | row => exact queried.bind fun _ => uniform_firstRow.bind fun _ => Agrees.pure _
  | all => exact queried.bind fun _ => uniform_gather (fun _ _ => Agrees.pure _) _
  | column =>
    refine queried.bind fun _ => uniform_gather (fun _ row => ?_) _
    cases firstCell? row with
    | none => exact uniform_throw rfl
    | some cell => exact Agrees.pure _
  | indexed | indexedColumn =>
    refine queried.bind fun _ => uniform_gather (fun _ row => ?_) _
    refine (uniform_indexCell _ _ caller).bind fun cell => ?_
    exact (uniform_lookable cell).bind fun _ => Agrees.pure _
  | table =>
    refine queried.bind fun result => ?_
    refine (uniform_onClient (Client.agrees_columnNames result)).bind fun _ => ?_
    exact (uniform_gather (fun _ _ => Agrees.pure _) _).bind fun _ => Agrees.pure _

/-- Whatever is called ends alike under two reports. -/
theorem uniform_perform (call : Call) : Uniform first second call.perform := by
  cases call with
  | parse query caller => exact uniform_parse query caller
  | run query caller => exact uniform_run query caller
  | get shape template arguments caller => exact uniform_get shape template arguments caller
  | client own => exact uniform_onClient (Client.agrees_perform own)

/-- Calls leave all but the report and the log alike. -/
theorem alike_runAll (calls : List Call) {s t : Database × World} (alike : Alike first second s t) :
    Alike first second (runAll calls s) (runAll calls t) := by
  induction calls generalizing s t with
  | nil => exact alike
  | cons call calls ih => exact ih (uniform_perform call alike).2

end SafeSql.Database
