import SafeSql.Proofs.CommandLine.Task
import SafeSql.Proofs.Database.Recording
import SafeSql.Proofs.Database.Surfacing
import SafeSql.Proofs.Rendering.Joining

/-!
# Shown and executed statements

A template on a command line is rendered to be shown, or rendered and executed. The two go different
ways: to be shown it is rendered for a dialect, to be executed for the connection of a database,
and named values are put in before the statement is rendered once more. They come to the same.

## Main definitions

* `CommandLine.Ready` — a server that takes statements of the dialect in which they are shown.
* `CommandLine.Task.database`, `CommandLine.opened` — the database for a task, and the world.

## Main statements

* `CommandLine.Task.executed_of_rendered` — rendered SQL is executed.
* `CommandLine.Task.executing_of_refused` — an error is reported as when the template is shown.
* `CommandLine.preview_executed` — what is shown is what is executed.
-/

namespace SafeSql

open SafeSql.Action (reply after)
open Server (executed)

/-- A connection that is granted. -/
theorem Client.connect_granted {client : Client} {world : World}
    (disconnected : client.connected = false) (ready : client.engineFault world.script = none)
    (granted : world.script.nextConnection = none) :
    connect (client, world) =
      EStateM.Result.ok () ({ client with hasEngine := true, connected := true },
        { world with
          script := { world.script with connects := world.script.connects.tail }
          trace := world.trace ++ client.setup ++ [.connect, .autocommit]
          log := world.log ++
            [⟨logger, Log.debug, "Connected to " ++ client.url.masked, world.clock.time⟩] }) := by
  have ended : reply connect (client, world) = .ok () := by
    rw [reply_connect, disconnected, connectFault, ready, granted]
    rfl
  have left := Action.eq_ok_of_reply ended
  simpa [connect, openConnection, disconnected, ready, granted] using left

namespace Database

/-- Rows of rendered SQL have it executed, if there is a connection. -/
theorem executed_getAll {state : Database × World} {template : Value} {arguments : List Value}
    {caller : Option String} {sql : String} (connected : state.1.client.connected)
    (rendered : Rendering.positional (state.1.dialect state.2) template arguments caller =
      .ok (.ok sql)) :
    executed (after (getAll template arguments caller) state).2.trace =
      executed state.2.trace ++ [sql] := by
  have parsed : reply ((Query.positional template arguments).parse caller) state = .ok sql := by
    rw [Query.reply_parse, Query.rendering, rendered]
  have sent : (Call.get .all template arguments caller).sent? state = some sql := by
    simp [Call.sent?, Call.rendered?, Call.asked?, connected, parsed, Except.toOption]
  have left := executed_perform (.get .all template arguments caller) state
  rwa [sent] at left

/-- A query with an error in it is rendered to nothing, and the error is reported. -/
theorem Query.parse_refused {query : Query} {state : Database × World} {caller : Option String}
    {error : SqlError} (refused : query.rendering caller state = .ok (.error error)) :
    query.parse caller state =
      EStateM.Result.error (state.1.report.failure (error.withCaller caller))
        (state.1, state.1.report.reported (error.withCaller caller) state.2) := by
  have settled : query.parse caller state =
      Action.onWorld (settle state.1.report caller (query.rendering caller state)) state := by
    cases query <;> rfl
  rw [settled, refused]
  rfl

end Database

namespace CommandLine

/-- A template with its arguments, as a query. -/
def Arguments.query (template : String) : Arguments → Database.Query
  | .positional values => .positional (.text template) values
  | .named values => .named (.text template) values

/-- What is executed was rendered before. -/
theorem exists_rest (template : String) (arguments : Arguments) :
    ∃ rest, allRows template arguments = (arguments.query template).parse none >>= rest := by
  cases arguments with
  | positional values => exact ⟨_, bind_assoc _ _ _⟩
  | named values => exact ⟨_, rfl⟩

/-! ## The database of a task -/

/-- A source of connections can be set up for the database of the settings, its server grants the
next connection, which leaves the literals to the dialect, and the dialect of the database is the
one in which templates are shown. -/
structure Ready (settings : Settings) (options : Options) (script : Server.Script) : Prop where
  equipped : script.engines (settings.url Target.unstated).masked = none
  granted : script.nextConnection = none
  plain : script.escape = none
  dialect : Dialect.ofName? (dialectName settings options) =
    Dialect.ofName? (settings.url Target.unstated).backend

/-- The world once the database of the settings is opened. -/
def opened (settings : Settings) (world : World) : World :=
  let url := settings.url Target.unstated
  { world with
    script := { world.script with connects := world.script.connects.tail }
    trace := world.trace ++
      [.createEngine url.text (World.engineOptions url false), .connect, .autocommit]
    log := world.log ++
      [⟨Client.logger, Log.debug, "Connected to " ++ url.masked, world.clock.time⟩] }

namespace Task

variable {settings : Settings} {options : Options} (task : Task settings options)
  (statistics : Statistics) (world : World)

/-- The database on which a task is executed. -/
def database : Database where
  report := task.report
  statistics := statistics
  base := task.dialect
  client := ⟨settings.url Target.unstated, task.dialect, false, true, true, none, none⟩

variable {world}

theorem ofName : Dialect.ofName? (dialectName settings options) = some task.dialect := by
  have found := task.found
  unfold Dialect.find at found
  split at found <;> cases found
  assumption

/-- The database renders templates in the dialect in which they are shown. -/
theorem stated_dialect {client : Client} (own : client.dialect = task.dialect) :
    Database.chosenDialect settings { Database.Options.unstated with dialect := options.dialect }
      client = .ok task.dialect := by
  have found := task.found
  unfold Database.chosenDialect
  dsimp only
  unfold dialectName at found
  cases stated : options.dialect with
  | none =>
    rw [stated] at found
    cases ours : settings.templating.dialect with
    | none => simp [own]
    | some name => simpa [ours] using found
  | some name =>
    rw [stated] at found
    by_cases empty : name = ""
    · subst empty
      cases found
    · simpa [nonempty, empty] using found

theorem created (ready : Ready settings options world.script) {statistics : Statistics}
    (started : Statistics.empty settings.templating.statsLimit = .ok statistics) :
    Database.create settings { Database.Options.unstated with dialect := options.dialect } none
      Target.unstated world =
        EStateM.Result.ok (task.database statistics) (opened settings world) := by
  let client : Client :=
    ⟨settings.url Target.unstated, task.dialect, false, false, false, none, none⟩
  have chosen : Database.chosenClient settings none Target.unstated = .ok client := by
    simp only [Database.chosenClient, Client.create, Dialect.find, ← ready.dialect, task.ofName]
    rfl
  rw [Database.create_eq]
  refine Action.lift_bind_eq_ok.mpr ⟨task.report, task.made, Action.lift_bind_eq_ok.mpr
    ⟨statistics, started, Action.lift_bind_eq_ok.mpr ⟨_, chosen, Action.lift_bind_eq_ok.mpr
      ⟨task.dialect, task.stated_dialect rfl, ?_⟩⟩⟩⟩
  have equipped : client.engineFault world.script = none := ready.equipped
  rw [Database.opened_eq, Client.connect_granted rfl equipped ready.granted]
  simp [client, opened, database, Client.setup]

/-! ## The rows of a task -/

/-- The connection leaves the literals to the dialect. -/
theorem dialect_database (plain : world.script.escape = none) :
    (task.database statistics).dialect world = task.dialect := by
  simp only [Database.dialect, database, Client.escape, plain]
  rfl

/-- The template is rendered on the database as it is to be shown. -/
theorem rendering_query (plain : world.script.escape = none) :
    (task.arguments.query task.template).rendering none (task.database statistics, world) =
      task.rendering := by
  rw [rendering]
  cases task.arguments <;>
    simp only [Arguments.query, Database.Query.rendering, Arguments.rendering,
      task.dialect_database statistics plain]

/-- Rendered SQL is executed once. -/
theorem executed_allRows (plain : world.script.escape = none) {sql : String}
    (rendered : task.rendering = .ok (.ok sql)) :
    executed (after (allRows task.template task.arguments)
      (task.database statistics, world)).2.trace = executed world.trace ++ [sql] := by
  have first := (task.rendering_query statistics plain).trans rendered
  cases given : task.arguments with
  | positional values =>
    rw [given] at first
    exact Database.executed_getAll rfl first
  | named values =>
    rw [given] at first
    let query : Database.Query := .named (.text task.template) values
    have parsed : reply (query.parse none) (task.database statistics, world) = .ok sql := by
      rw [Database.Query.reply_parse, show query.rendering none _ = _ from first]
    obtain ⟨log, left⟩ := query.after_parse none (task.database statistics, world)
    have dialect : (task.database statistics).dialect { world with log := log } = task.dialect :=
      task.dialect_database statistics plain
    -- the text is rendered once more, as the value of a template that is nothing but its place
    have again : Rendering.positional ((task.database statistics).dialect { world with log := log })
        (.text "?p") [.raw sql] none = .ok (.ok sql) := by
      rw [dialect]
      exact Rendering.positional_marker (Rendering.contains_of_builtIn ⟨_, task.ofName⟩).2 rfl
    rw [show allRows task.template (.named values) =
      (query.parse none >>= fun sql => Database.getAll (.text "?p") [.raw sql] none) from rfl,
      Action.after_bind, parsed, left]
    exact Database.executed_getAll rfl again

/-- An error in the template or its arguments is reported. -/
theorem allRows_refused (plain : world.script.escape = none) {error : SqlError}
    (refused : task.rendering = .ok (.error error)) :
    allRows task.template task.arguments (task.database statistics, world) =
      EStateM.Result.error (task.report.failure (error.withCaller none))
        (task.database statistics, task.report.reported (error.withCaller none) world) := by
  have parsed :=
    Database.Query.parse_refused ((task.rendering_query statistics plain).trans refused)
  obtain ⟨rest, rows⟩ := exists_rest task.template task.arguments
  simp only [rows, bind, EStateM.bind, parsed]
  rfl

end Task

/-! ## The execution of a task -/

section Session

variable {α : Type} (state : (Console × Database) × World)

@[simp] theorem reply_onDatabase (action : Action (Database × World) α) :
    reply (onDatabase action) state = reply action (state.1.2, state.2) :=
  Action.reply_within state _ _ action

@[simp] theorem after_onDatabase (action : Action (Database × World) α) :
    after (onDatabase action) state =
      ((state.1.1, (after action (state.1.2, state.2)).1), (after action (state.1.2, state.2)).2) :=
  Action.after_within state _ _ action

/-- A database that is closed ends nothing else, says nothing and executes nothing. -/
theorem close_quiet (database : Database) (world : World) :
    reply Database.close (database, world) = .ok () ∧
      (after Database.close (database, world)).2.log = world.log ∧
      (after Database.close (database, world)).2.clock = world.clock ∧
      executed (after Database.close (database, world)).2.trace = executed world.trace := by
  rw [Database.close, Database.reply_onClient, Database.after_onClient, Client.after_close]
  refine ⟨Client.reply_close _ _, rfl, rfl, ?_⟩
  cases database.client.connected <;> cases database.client.hasEngine <;> simp

/-- Without rows nothing is printed. -/
theorem printRows_of_failed {template : String} {arguments : Arguments} {failure : Failure}
    {database : Database} {world : World}
    (failed : allRows template arguments (state.1.2, state.2) =
      EStateM.Result.error failure (database, world)) :
    printRows template arguments state =
      EStateM.Result.error failure ((state.1.1, database), world) := by
  simp only [printRows, bind, EStateM.bind, onDatabase, Action.within, failed]

/-- Rows are printed once all of them are there, which executes nothing. -/
theorem executed_printRows (template : String) (arguments : Arguments) :
    executed (after (printRows template arguments) state).2.trace =
      executed (after (allRows template arguments) (state.1.2, state.2)).2.trace := by
  rw [printRows, Action.after_bind, reply_onDatabase, after_onDatabase]
  cases reply (allRows template arguments) (state.1.2, state.2) with
  | error failure => rfl
  | ok rows =>
    cases written : Json.write (.list rows) with
    | error failure =>
      simp only [written]
      rfl
    | ok text =>
      simp only [written]
      rfl

end Session

section Execution

variable {settings : Settings} {options : Options} {world : World}

/-- A database that was created is closed in any case. -/
theorem execute_of_created {dialect : Option String} {database : Database} {now : World}
    (created : Database.create settings { Database.Options.unstated with dialect := dialect } none
      Target.unstated world = EStateM.Result.ok database now) (template : String)
    (arguments : Arguments) (console : Console) :
    let session := (printRows template arguments).ensuring (onDatabase Database.close)
    let begun := ((console, database), now)
    reply (execute settings dialect template arguments) (console, world) = reply session begun ∧
      after (execute settings dialect template arguments) (console, world) =
        ((after session begun).1.1, (after session begun).2) := by
  intro session begun
  cases ended : session begun with
  | ok value now =>
    have run : execute settings dialect template arguments (console, world) =
        EStateM.Result.ok () (now.1.1, now.2) := by
      simp only [execute, bind, EStateM.bind, Action.onWorld, Action.within, created]
      rw [show (printRows template arguments).ensuring _ _ = _ from ended]
    simp only [reply, after, run, ended, and_self]
  | error failure now =>
    have run : execute settings dialect template arguments (console, world) =
        EStateM.Result.error failure (now.1.1, now.2) := by
      simp only [execute, bind, EStateM.bind, Action.onWorld, Action.within, created]
      rw [show (printRows template arguments).ensuring _ _ = _ from ended]
    simp only [reply, after, run, ended, and_self]

namespace Task

variable (task : Task settings options) {console : Console}

theorem after_executing (state : Console × World) :
    after (perform settings options.executing) state =
      after (execute settings options.dialect task.template task.arguments) state := by
  rw [task.perform_executing, Action.after_bind]
  split <;> rfl

/-- Rendered SQL is executed, and nothing else. -/
theorem executed_of_rendered (ready : Ready settings options world.script)
    {statistics : Statistics}
    (started : Statistics.empty settings.templating.statsLimit = .ok statistics) {sql : String}
    (rendered : task.rendering = .ok (.ok sql)) :
    executed (after (perform settings options.executing) (console, world)).2.trace =
      executed world.trace ++ [sql] := by
  obtain ⟨-, left⟩ :=
    execute_of_created (task.created ready started) task.template task.arguments console
  have plain : (opened settings world).script.escape = none := ready.plain
  have opening : executed (opened settings world).trace = executed world.trace := by simp [opened]
  rw [task.after_executing, left, Action.after_ensuring, after_onDatabase,
    (close_quiet _ _).2.2.2, executed_printRows, task.executed_allRows statistics plain rendered,
    opening]

/-- An error is reported once the database is opened, and nothing is executed. -/
theorem executing_of_refused (ready : Ready settings options world.script)
    {statistics : Statistics}
    (started : Statistics.empty settings.templating.statsLimit = .ok statistics) {error : SqlError}
    (refused : task.rendering = .ok (.error error)) :
    let failure := task.report.failure (error.withCaller none)
    let left := (after (perform settings options.executing) (console, world)).2
    reply (perform settings options.executing) (console, world) = .error failure ∧
      left.log = (opened settings world).log ++
        [⟨Report.logger, task.report.level, task.report.message (error.withCaller none),
          world.clock.time⟩] ∧
      left.clock = world.clock ∧ executed left.trace = executed world.trace := by
  intro failure left
  have plain : (opened settings world).script.escape = none := ready.plain
  have rows := task.allRows_refused statistics plain refused
  let begun := ((console, task.database statistics), opened settings world)
  obtain ⟨printed, printedLeft⟩ :=
    Action.of_eq_error (@printRows_of_failed begun _ _ _ _ _ rows)
  obtain ⟨ended, sessionLeft⟩ :=
    execute_of_created (task.created ready started) task.template task.arguments console
  obtain ⟨closed, log, clock, sent⟩ := close_quiet (task.database statistics)
    (task.report.reported (error.withCaller none) (opened settings world))
  have performed :
      reply (perform settings options.executing) (console, world) = .error failure := by
    rw [task.perform_executing, Action.reply_bind, ended, Action.reply_ensuring, printedLeft,
      reply_onDatabase, closed, printed]
  have same : left = (after Database.close (task.database statistics,
      task.report.reported (error.withCaller none) (opened settings world))).2 := by
    rw [show left = (after (perform settings options.executing) (console, world)).2 from rfl,
      task.after_executing, sessionLeft, Action.after_ensuring, after_onDatabase, printedLeft]
  rw [same]
  exact ⟨performed, log, clock, sent.trans (by simp [Report.reported, opened])⟩

/-- The end is the same whether the template was to be shown or to be executed, and but for the
message that the database is opened, the same is said. -/
theorem guarded_of_refused (ready : Ready settings options world.script)
    (shown : options.execute = false) {statistics : Statistics}
    (started : Statistics.empty settings.templating.statsLimit = .ok statistics) {error : SqlError}
    (refused : task.rendering = .ok (.error error)) :
    reply (guarded settings options.executing) (blank, world) =
        reply (guarded settings options) (blank, world) ∧
      executed (after (guarded settings options.executing) (blank, world)).2.trace =
        executed world.trace ∧
      ∃ said, (after (guarded settings options) (blank, world)).2.log = world.log ++ said ∧
        (after (guarded settings options.executing) (blank, world)).2.log =
          (opened settings world).log ++ said := by
  obtain ⟨ended, left⟩ := Action.of_eq_error (task.shown_of_refused shown refused world)
  obtain ⟨ended', log, clock, sent⟩ :=
    @executing_of_refused _ _ _ task blank ready _ started _ refused
  rw [reply_guarded, reply_guarded, after_guarded, after_guarded, ended, ended', log, clock, left]
  exact ⟨rfl, sent, _, List.append_assoc .., List.append_assoc ..⟩

include task in
/-- A limit beyond what can be counted ends a task before the database is opened. -/
theorem executing_of_uncountable
    (uncountable : Statistics.maxLimit < settings.templating.statsLimit) :
    perform settings options.executing (console, world) =
      EStateM.Result.error .tooManyToCount (console, world) := by
  have stopped : Statistics.empty settings.templating.statsLimit = .error .tooManyToCount := by
    have positive : 0 < settings.templating.statsLimit.toNat := by
      unfold Statistics.maxLimit at uncountable
      omega
    rw [Statistics.empty, dif_pos positive, if_pos uncountable]
  have created : Database.create settings
      { Database.Options.unstated with dialect := options.dialect } none Target.unstated world =
        EStateM.Result.error .tooManyToCount world := by
    have made : Report.create ((none.bind nonempty).getD settings.templating.errorMode) .itself =
      .ok task.report := task.made
    rw [Database.create_eq]
    simp only [Database.Options.unstated, made, Database.statedLimit, stopped]
    rfl
  rw [task.perform_executing]
  simp only [execute, bind, EStateM.bind, Action.onWorld, Action.within, created]

end Task

end Execution

/-- What is shown of a template is what is executed: the text that is printed is the one statement
that is sent, if the statistics can be as long as the settings say. An error in the template or its
arguments is reported in the same words, with the same exit, once the database is opened, and
nothing is sent. -/
theorem preview_executed {words words' : List String} {options : Options} {settings : Settings}
    {script : Server.Script} (parsed : Options.parse words = .ok options)
    (shown : options.execute = false) (parsed' : Options.parse words' = .ok options.executing)
    (positive : 0 < settings.templating.statsLimit) (ready : Ready settings options script)
    (clock : Clock) :
    let preview := run words settings (World.start clock script)
    let execution := run words' settings (World.start clock script)
    (∀ sql, preview.result = .ok 0 → preview.printed = sql ++ "\n" →
      executed execution.world.trace =
        if settings.templating.statsLimit ≤ Statistics.maxLimit then [sql] else []) ∧
    ((∃ record ∈ preview.world.log, record.logger = Report.logger) →
      executed execution.world.trace = [] ∧
        (settings.templating.statsLimit ≤ Statistics.maxLimit →
          execution.result = preview.result ∧
            ∃ record, record.logger = Client.logger ∧
              execution.world.log = record :: preview.world.log)) := by
  intro preview execution
  cases logging : Log.Registry.setup (logSetup settings options) Log.Registry.start with
  | error failure registry =>
    have preview_eq : preview = _ := run_of_unready parsed logging _
    have execution_eq : execution = _ := run_of_unready parsed' logging _
    rw [preview_eq, execution_eq]
    exact ⟨nofun, nofun⟩
  | ok ended registry =>
    obtain ⟨result, printed, world⟩ := run_of_ready parsed logging (World.start clock script)
    obtain ⟨result', -, world'⟩ := run_of_ready parsed' logging (World.start clock script)
    constructor
    · intro sql ended text
      obtain ⟨task, rendered⟩ :=
        task_of_printed shown (result.symm.trans ended) (printed.symm.trans text)
      rw [world', after_guarded]
      split
      · obtain ⟨statistics, started⟩ := Statistics.exists_empty positive ‹_›
        exact task.executed_of_rendered ready started rendered
      · rw [(Action.of_eq_error (task.executing_of_uncountable (not_le.mp ‹_›))).2]
        rfl
    · rintro ⟨record, mem, reported⟩
      rw [world] at mem
      obtain ⟨task, error, refused⟩ := task_of_reported shown mem (by simp [World.start]) reported
      by_cases countable : settings.templating.statsLimit ≤ Statistics.maxLimit
      · obtain ⟨statistics, started⟩ := Statistics.exists_empty positive countable
        obtain ⟨same, sent, said, log, log'⟩ :=
          @Task.guarded_of_refused _ _ (World.start clock script) task ready shown _ started _
            refused
        rw [result, result', world, world']
        exact ⟨sent, fun _ => ⟨same, _, rfl, log'.trans (congrArg _ log.symm)⟩⟩
      · rw [world', after_guarded,
          (Action.of_eq_error (task.executing_of_uncountable (not_le.mp countable))).2]
        exact ⟨rfl, fun limited => absurd limited countable⟩

/-- A named value with a quote in it, which must not be escaped once more with the text. -/
theorem preview_executed_named :
    let words :=
      ["SELECT ?s:name", "--dialect", "sqlite", "--named", "\x7b\"name\": \"it's ?s\"\x7d"]
    let world := World.start .zero .idle
    (run words Database.inMemory world).printed = "SELECT 'it''s ?s'" ++ "\n" ∧
      executed (run ("--execute" :: words) Database.inMemory world).world.trace =
        ["SELECT 'it''s ?s'"] := by
  intro words world
  let options : Options :=
    { Options.none with
      template := some "SELECT ?s:name"
      named := some (.text "\x7b\"name\": \"it's ?s\"\x7d")
      dialect := some "sqlite" }
  have parsed : Options.parse words = .ok options := by decide +kernel
  have ready : Ready Database.inMemory options .idle := ⟨rfl, rfl, rfl, rfl⟩
  have run_shown : (run words Database.inMemory world).result.toOption = some 0 ∧
      (run words Database.inMemory world).printed = "SELECT 'it''s ?s'" ++ "\n" := by
    decide +kernel
  have shown : options.execute = false := rfl
  clear_value words options
  obtain ⟨ended, printed⟩ := run_shown
  have both := preview_executed parsed shown (Options.parse_execute parsed) (by decide) ready
    .zero
  exact ⟨printed, both.1 _ (Except.eq_ok_of_toOption ended) printed⟩

/-- With a limit beyond what can be counted, a statement is shown but not executed. -/
theorem shown_not_executed :
    let settings : Settings :=
      { Database.inMemory with templating := ⟨some "sqlite", "exception", 9223372036854775808⟩ }
    let world := World.start .zero .idle
    0 < settings.templating.statsLimit ∧ (run ["SELECT 1"] settings world).result = .ok 0 ∧
      (run ["SELECT 1"] settings world).printed = "SELECT 1" ++ "\n" ∧
      executed (run ["SELECT 1", "--execute"] settings world).world.trace = [] := by
  intro settings world
  have runs : (run ["SELECT 1"] settings world).result.toOption = some 0 ∧
      (run ["SELECT 1"] settings world).printed = "SELECT 1" ++ "\n" ∧
      executed (run ["SELECT 1", "--execute"] settings world).world.trace = [] := by
    decide +kernel
  exact ⟨by decide, Except.eq_ok_of_toOption runs.1, runs.2⟩

end CommandLine

end SafeSql
