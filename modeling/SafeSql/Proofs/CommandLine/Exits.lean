import SafeSql.Proofs.CommandLine.Preview
import SafeSql.Proofs.Database.Release

/-!
# Exits of the command line

A command line with a template prints all that it has to print when it ends with the exit code
zero, and nothing when it ends in any other way. A database that was opened for a template is closed
before that, once, however the command line ends.

## Main definitions

* `Server.Event.isWork`, `Database.Works` — statements and their results on an open connection.
* `CommandLine.Closed` — a database that was opened, worked with and closed.
* `CommandLine.Prints` — what a command line with a template prints when it succeeds.
* `CommandLine.Exits` — how a command line with a template ends.

## Main statements

* `Database.works_perform` — calls leave the connection as it is.
* `CommandLine.execute_of_opened` — an execution on an open database, which is closed at the end.
* `CommandLine.unopened_or_closed` — what an execution asks of the server.
* `CommandLine.allOrNothing` — what is printed, and when.
* `CommandLine.exits` — the end of every command line with a template.
-/

namespace SafeSql

open SafeSql.Action (reply after Keeps)

/-- Whether a request is for a statement or for its result. -/
def Server.Event.isWork : Server.Event → Bool
  | .execute _ | .fetch _ | .free _ => true
  | _ => false

namespace Database

/-! ## Work on an open connection -/

/-- Statements are executed and their results are read; the connection stays as it is. -/
structure Works (before now : Database × World) : Prop where
  connected : now.1.client.connected = before.1.client.connected
  hasEngine : now.1.client.hasEngine = before.1.client.hasEngine
  trace : ∃ requests, now.2.trace = before.2.trace ++ requests ∧
    ∀ request ∈ requests, request.isWork

instance : IsPreorder (Database × World) Works where
  refl state := ⟨rfl, rfl, [], by simp⟩
  trans before now later := by
    rintro ⟨connected, hasEngine, first, trace, work⟩
      ⟨connected', hasEngine', second, trace', work'⟩
    refine ⟨connected'.trans connected, hasEngine'.trans hasEngine, first ++ second, ?_, ?_⟩
    · rw [trace', trace, List.append_assoc]
    · exact List.forall_mem_append.mpr ⟨work, work'⟩

theorem works_of_quiet {before now : Database × World} (quiet : World.Quiet before now) :
    Works before now := by
  obtain ⟨same, -, requests, trace, reading⟩ := quiet
  refine ⟨by rw [same], by rw [same], requests, trace, fun request member => ?_⟩
  have read := reading request member
  cases request <;> first | rfl | cases read

theorem works_sent (state : Database × World) (sql : String) : Works state (sent state sql) := by
  have same : (sent state sql).1.client.connected = state.1.client.connected ∧
      (sent state sql).1.client.hasEngine = state.1.client.hasEngine := by
    simp only [sent, reached, Client.after_execute]
    split
    · split <;> exact ⟨rfl, rfl⟩
    · exact ⟨rfl, rfl⟩
  refine ⟨same.1, same.2, _, trace_sent state sql, ?_⟩
  split <;> simp [Server.Event.isWork]

/-- Whatever is asked of a database but of its client, the connection stays as it is. -/
theorem works_perform (call : Call) (notOwn : call.own? = none) : Keeps Works call.perform := by
  intro state
  cases rendered : call.rendered? state with
  | none => exact works_of_quiet (Call.quiet_perform_of_unrendered rendered notOwn)
  | some sql =>
    exact trans_of Works (works_sent state sql) (works_of_quiet (Call.quiet_perform rendered))

/-- A database for the settings has opened the one connection that it has. -/
theorem opened_of_created {settings : Settings} {options : Options} {target : Target}
    {database : Database} {world now : World}
    (created : create settings options none target world = EStateM.Result.ok database now) :
    database.client.connected ∧ database.client.hasEngine ∧ ∃ url engine,
      now.trace = world.trace ++ [.createEngine url engine, .connect, .autocommit] := by
  rw [create_eq] at created
  obtain ⟨report, -, created⟩ := Action.lift_bind_eq_ok.mp created
  obtain ⟨statistics, -, created⟩ := Action.lift_bind_eq_ok.mp created
  obtain ⟨client, chosen, created⟩ := Action.lift_bind_eq_ok.mp created
  obtain ⟨base, -, created⟩ := Action.lift_bind_eq_ok.mp created
  obtain ⟨dialect, -, made⟩ := Except.bind_eq_ok.mp chosen
  cases made
  rw [opened_eq] at created
  let fresh : Client := ⟨settings.url target, dialect, false, false, false, none, none⟩
  cases fault : fresh.connectFault world.script with
  | none =>
    obtain ⟨equipped, granted⟩ := Option.or_eq_none_iff.mp fault
    rw [Client.connect_granted rfl equipped granted] at created
    cases created
    exact ⟨rfl, rfl, _, _, List.append_assoc world.trace [_] _⟩
  | some broken =>
    exfalso
    cases connecting : Client.connect (fresh, world) with
    | ok connected left =>
      have ended := (Action.of_eq_ok connecting).1
      rw [Client.reply_connect, fault] at ended
      cases ended
    | error failure left =>
      rw [connecting] at created
      cases failure <;> cases created

end Database

namespace CommandLine

/-! ## Rows -/

section Rows

variable (template : String) (arguments : Arguments)

theorem works_allRows : Keeps Database.Works (allRows template arguments) := by
  cases arguments with
  | positional values =>
    exact Database.works_perform (.get .all (.text template) values none) rfl
  | named values =>
    exact (Database.works_perform (.parse (.named (.text template) values) none) rfl).bind
      fun sql => Database.works_perform (.get .all (.text "?p") [.raw sql] none) rfl

/-- The rows of a template as JSON. -/
def rowsText (state : Database × World) : Except Failure (List Char) := do
  let rows ← reply (allRows template arguments) state
  Json.write (.list rows)

variable (state : (Console × Database) × World)

/-- Rows are printed once all of them are there and written, or nothing is. -/
theorem printRows_spec :
    let gathered := after (allRows template arguments) (state.1.2, state.2)
    let left := after (printRows template arguments) state
    reply (printRows template arguments) state =
        (rowsText template arguments (state.1.2, state.2)).map (fun _ => ()) ∧
      left.1.1.printed =
        (match rowsText template arguments (state.1.2, state.2) with
        | .ok text => state.1.1.printed ++ String.ofList text ++ "\n"
        | .error _ => state.1.1.printed) ∧
      left.1.2 = gathered.1 ∧ left.2.trace = gathered.2.trace := by
  intro gathered left
  simp only [left, rowsText]
  rw [printRows, Action.reply_bind, Action.after_bind, reply_onDatabase, after_onDatabase]
  cases reply (allRows template arguments) (state.1.2, state.2) with
  | error failure => exact ⟨rfl, rfl, rfl, rfl⟩
  | ok rows =>
    simp only [Except.ok_bind]
    cases written : Json.write (.list rows) with
    | error failure => exact ⟨rfl, rfl, rfl, rfl⟩
    | ok text => exact ⟨rfl, rfl, rfl, rfl⟩

end Rows

/-! ## Executions -/

/-- The database for a template that is executed. -/
def creation (settings : Settings) (options : Options) : Action World Database :=
  Database.create settings { Database.Options.unstated with dialect := options.dialect } none
    Target.unstated

/-- A database was opened and then only worked with, until it was closed, once. -/
structure Closed (opening trace : List Server.Event) : Prop where
  requests : ∃ requests, trace = opening ++ requests ++ [.close, .dispose] ∧
    ∀ request ∈ requests, request.isWork
  once : trace.count .close = 1
  disposed : trace.count .dispose = 1

theorem closed_of_work {url : String} {engine : List (String × String)}
    {requests : List Server.Event} (work : ∀ request ∈ requests, request.isWork) :
    let opening : List Server.Event := [.createEngine url engine, .connect, .autocommit]
    Closed opening (opening ++ requests ++ [.close, .dispose]) := by
  intro opening
  have absent (event : Server.Event) (other : event.isWork = false) : requests.count event = 0 :=
    List.count_eq_zero.mpr fun member => by simp [work event member] at other
  refine ⟨⟨requests, rfl, work⟩, ?_, ?_⟩
  · simp [opening, absent .close rfl]
  · simp [opening, absent .dispose rfl]

section Executions

variable {settings : Settings} {options : Options} {template : String} {arguments : Arguments}
  {world now : World}

section

variable (template arguments)

/-- A database that cannot be opened ends an execution. -/
theorem execute_of_unopened {failure : Failure}
    (failed : creation settings options world = EStateM.Result.error failure now) :
    execute settings options.dialect template arguments (blank, world) =
      EStateM.Result.error failure (blank, now) := by
  rw [creation] at failed
  simp only [execute, bind, EStateM.bind, Action.onWorld, Action.within, failed]

/-- The rows of a template are printed, or nothing is, and the database is closed after that. -/
theorem execute_of_opened {database : Database}
    (created : creation settings options world = EStateM.Result.ok database now) :
    let text := rowsText template arguments (database, now)
    let run := execute settings options.dialect template arguments
    reply run (blank, world) = text.map (fun _ => ()) ∧
      (after run (blank, world)).1.printed =
        (match text with
        | .ok text => String.ofList text ++ "\n"
        | .error _ => "") ∧
      ∃ requests, (after run (blank, world)).2.trace =
          now.trace ++ requests ++ [.close, .dispose] ∧
        ∀ request ∈ requests, request.isWork := by
  intro text run
  obtain ⟨ended, left⟩ := execute_of_created created template arguments blank
  let state := after (printRows template arguments) ((blank, database), now)
  obtain ⟨replied, printed, same, trace⟩ :=
    printRows_spec template arguments ((blank, database), now)
  obtain ⟨connected, hasEngine, requests, worked, work⟩ :=
    works_allRows template arguments (database, now)
  obtain ⟨opened, engine, -⟩ := Database.opened_of_created created
  have closed := (close_quiet state.1.2 state.2).1
  refine ⟨?_, ?_, requests, ?_, work⟩
  · rw [ended, Action.reply_ensuring, reply_onDatabase, closed, replied]
  · rw [left, Action.after_ensuring, after_onDatabase]
    exact printed
  · rw [left, Action.after_ensuring, after_onDatabase, Database.close, Database.after_onClient,
      Client.after_close]
    simp [same, connected, opened, hasEngine, engine, trace, worked]

end

variable (executed : options.execute) (unchecked : options.checkConnection = false)
  (stated : options.template = some template)
include executed unchecked stated

variable (settings) in
/-- A template is executed once its arguments are read. -/
theorem perform_of_executed (apart : (options.named.isSome && options.arguments.isSome) = false)
    (read : readArguments options = .ok arguments) (state : Console × World) :
    let run := execute settings options.dialect template arguments
    reply (perform settings options) state = (reply run state).map (fun _ => 0) ∧
      after (perform settings options) state = after run state := by
  intro run
  rw [perform_of_read unchecked stated apart read, if_pos executed, Action.reply_bind,
    Action.after_bind]
  cases reply run state <;> exact ⟨rfl, rfl⟩

/-- An execution ends before anything is asked of the server, with a database that is not opened,
or with one that is closed. -/
theorem unopened_or_closed (empty : world.trace = []) :
    let trace := (after (perform settings options) (blank, world)).2.trace
    trace = [] ∨
      match creation settings options world with
      | .ok _ opened => Closed opened.trace trace
      | .error _ opened => trace = opened.trace := by
  intro trace
  rcases read_or_unfit settings unchecked stated with ⟨apart, arguments, read⟩ | unfit
  · obtain ⟨-, left⟩ := perform_of_executed settings executed unchecked stated apart read
      (blank, world)
    right
    cases created : creation settings options world with
    | error failure now =>
      obtain ⟨-, unopened⟩ :=
        Action.of_eq_error (execute_of_unopened template arguments created)
      exact congrArg (·.2.trace) (left.trans unopened)
    | ok database now =>
      obtain ⟨-, -, requests, closing, work⟩ := execute_of_opened template arguments created
      obtain ⟨-, -, url, engine, opening⟩ := Database.opened_of_created created
      rw [empty, List.nil_append] at opening
      rw [← left, opening] at closing
      dsimp only
      rw [show trace = _ from closing, opening]
      exact closed_of_work work
  · obtain ⟨failure, console, -, failed⟩ := unfit
    exact .inl ((congrArg (·.2.trace) (Action.of_eq_error (failed world)).2).trans empty)

end Executions

/-! ## Templates -/

/-- What a command line with a template prints when it succeeds: the rendered SQL or, when it is
executed, the rows as JSON. -/
inductive Prints (settings : Settings) (options : Options) (template : String) (world : World) :
    String → Prop
  | sql {arguments : Arguments} {d : Dialect} {sql : String} (shown : options.execute = false)
      (read : readArguments options = .ok arguments)
      (found : Dialect.find (dialectName settings options) = .ok d)
      (rendered : arguments.rendering d template = .ok (.ok sql)) :
      Prints settings options template world (sql ++ "\n")
  | rows {arguments : Arguments} {database : Database} {now : World} {rows : List Value}
      {text : List Char} (executed : options.execute)
      (read : readArguments options = .ok arguments)
      (created : creation settings options world = EStateM.Result.ok database now)
      (gathered : reply (allRows template arguments) (database, now) = .ok rows)
      (written : Json.write (.list rows) = .ok text) :
      Prints settings options template world (String.ofList text ++ "\n")

/-- All that is to be printed is printed, and that is a success, or nothing is, and that is a
failure. -/
def AllOrNothing (settings : Settings) (options : Options) (template : String) (world : World) :
    Prop :=
  let ended := reply (perform settings options) (blank, world)
  let printed := (after (perform settings options) (blank, world)).1.printed
  (ended = .ok 0 ∧ Prints settings options template world printed) ∨
    ((∃ failure, ended = .error failure) ∧ printed = "")

section Templates

variable {settings : Settings} {options : Options} {template : String} {world : World}

theorem Prints.ne_empty {text : String} (prints : Prints settings options template world text) :
    text ≠ "" := by
  cases prints <;> simp

theorem allOrNothing_of_unfit (unfit : Unfit settings options) :
    AllOrNothing settings options template world := by
  obtain ⟨failure, console, empty, failed⟩ := unfit
  obtain ⟨ended, left⟩ := Action.of_eq_error (failed world)
  exact .inr ⟨⟨failure, ended⟩, (congrArg (·.1.printed) left).trans empty⟩

variable (unchecked : options.checkConnection = false) (stated : options.template = some template)
include unchecked stated

theorem allOrNothing_of_shown (shown : options.execute = false) :
    AllOrNothing settings options template world := by
  rcases task_or_unfit settings shown unchecked stated with
    ⟨task, rendering, rendered⟩ | unfit
  · obtain rfl : task.template = template := Option.some.inj (task.stated.symm.trans stated)
    cases rendering with
    | ok sql =>
      obtain ⟨ended, left⟩ := Action.of_eq_ok (task.shown_of_rendered shown rendered world)
      rw [String.empty_append] at left
      rw [AllOrNothing, left]
      exact .inl ⟨ended, .sql shown task.read task.found rendered⟩
    | error error =>
      obtain ⟨ended, left⟩ := Action.of_eq_error (task.shown_of_refused shown rendered world)
      exact .inr ⟨⟨_, ended⟩, congrArg (·.1.printed) left⟩
  · exact allOrNothing_of_unfit unfit

theorem allOrNothing_of_executed (executed : options.execute) :
    AllOrNothing settings options template world := by
  rcases read_or_unfit settings unchecked stated with ⟨apart, arguments, read⟩ | unfit
  · obtain ⟨ended, left⟩ := perform_of_executed settings executed unchecked stated apart read
      (blank, world)
    rw [AllOrNothing, ended, left]
    cases created : creation settings options world with
    | error failure now =>
      obtain ⟨stopped, unopened⟩ :=
        Action.of_eq_error (execute_of_unopened template arguments created)
      rw [stopped, unopened]
      exact .inr ⟨⟨failure, rfl⟩, rfl⟩
    | ok database now =>
      obtain ⟨replied, printed, -⟩ := execute_of_opened template arguments created
      rw [replied, printed]
      cases rows : rowsText template arguments (database, now) with
      | error failure => exact .inr ⟨⟨failure, rfl⟩, rfl⟩
      | ok text =>
        obtain ⟨gathered, collected, written⟩ := Except.bind_eq_ok.mp rows
        exact .inl ⟨rfl, .rows executed read created collected written⟩
  · exact allOrNothing_of_unfit unfit

theorem allOrNothing : AllOrNothing settings options template world := by
  cases executed : options.execute with
  | false => exact allOrNothing_of_shown unchecked stated executed
  | true => exact allOrNothing_of_executed unchecked stated executed

/-- No failure that becomes an exit code becomes that of a success. -/
theorem allOrNothing_guarded :
    let ended := reply (guarded settings options) (blank, world)
    let printed := (after (guarded settings options) (blank, world)).1.printed
    (ended = .ok 0 ∧ Prints settings options template world printed) ∨
      (ended ≠ .ok 0 ∧ printed = "") := by
  intro ended printed
  simp only [ended, printed, reply_guarded, after_guarded]
  refine (allOrNothing unchecked stated).imp (And.imp_left (congrArg verdict)) ?_
  rintro ⟨⟨failure, failed⟩, nothing⟩
  refine ⟨fun zero => ?_, nothing⟩
  rw [eq_of_verdict zero] at failed
  cases failed

end Templates

/-! ## Command lines -/

/-- How a command line with a template ends: with what printed, with which exit code, and with what
asked of the server. -/
structure Exits (settings : Settings) (options : Options) (template : String) (world : World)
    (outcome : Outcome) : Prop where
  /-- Something is printed with the exit code zero, and only with that. -/
  printed : outcome.printed ≠ "" ↔ outcome.result = .ok 0
  prints : outcome.result = .ok 0 → Prints settings options template world outcome.printed
  /-- Once the log is set up, an error of the library, a refused value or pattern, and an interrupt
  are exit codes. -/
  coded : ∀ registry, Log.Registry.setup (logSetup settings options) Log.Registry.start =
      EStateM.Result.ok () registry → ∀ failure,
    reply (perform settings options) (blank, world) = .error failure →
      ((∃ error, failure = .query error) ∨ (∃ refusal, failure = .refused refusal) ∨
        (∃ fault, failure = .pattern fault ∧ fault.isMalformed) → outcome.result = .ok 1) ∧
      ((∃ text, failure = .interrupt text) → outcome.result = .ok 130)
  /-- Nothing is asked of the server, or the database is closed if it could be opened. -/
  closed : options.execute → outcome.world.trace = [] ∨
    match creation settings options world with
    | .ok _ opened => Closed opened.trace outcome.world.trace
    | .error _ opened => outcome.world.trace = opened.trace

/-- A database that was opened was closed once, if anything was asked of the server. -/
theorem Exits.closed_once {settings : Settings} {options : Options} {template : String}
    {world : World} {outcome : Outcome} (exit : Exits settings options template world outcome)
    (executed : options.execute)
    (opened : ∃ database, reply (creation settings options) world = .ok database)
    (asked : outcome.world.trace ≠ []) :
    outcome.world.trace.count .close = 1 ∧ outcome.world.trace.count .dispose = 1 := by
  obtain ⟨database, created⟩ := opened
  have closed := (exit.closed executed).resolve_left asked
  rw [Action.eq_ok_of_reply created] at closed
  exact ⟨closed.once, closed.disposed⟩

end CommandLine

end SafeSql
