import SafeSql.Proofs.Database.Modes
import SafeSql.Proofs.Database.Shapes

/-!
# How errors surface

A database that is created for one mode of reporting is the same as one for another, but for its
report: the server hears of the same requests, the statistics are the same, and every call ends
alike, up to the way in which an error of the library is raised. In no mode is an error passed over.

## Main definitions

* `Database.Options.inMode` — the options with a mode of reporting.
* `Database.Surfaces` — nothing that goes wrong in a call is passed over.
* `Database.SurfacesRefusal` — nor is the refusal of a connection.

## Main statements

* `Database.create_cases` — creations for two modes.
* `Database.surfaces` — errors surface in every state, whatever the mode.
* `Database.modes_agree` — runs in the three modes.
-/

namespace SafeSql.Database

open SafeSql.Action (reply after Ends)
open Report (StandsFor InModes Raises)

section Creation

variable {settings : Settings} {options : Options} {given : Option Client} {target : Target}

theorem reported?_empty {limit : Int} {failure : Failure}
    (failed : Statistics.empty limit = .error failure) : failure.reported? = none := by
  unfold Statistics.empty at failed
  split at failed
  · split at failed <;> cases failed
    rfl
  · cases shown : Whole.text? limit <;> rw [shown] at failed <;> cases failed <;> rfl

theorem reported?_find {name : String} {failure : Failure}
    (failed : Dialect.find name = .error failure) : failure.reported? = none := by
  unfold Dialect.find at failed
  split at failed <;> cases failed
  rfl

theorem reported?_chosenClient {failure : Failure}
    (failed : chosenClient settings given target = .error failure) : failure.reported? = none := by
  cases given with
  | some client => cases failed
  | none =>
    obtain failed | ⟨dialect, -, failed⟩ := Except.bind_eq_error.mp failed
    · exact reported?_find failed
    · cases failed

theorem reported?_chosenDialect {client : Client} {failure : Failure}
    (failed : chosenDialect settings options client = .error failure) :
    failure.reported? = none := by
  unfold chosenDialect at failed
  split at failed
  · exact reported?_find failed
  · cases failed

/-- The same settings with a mode of reporting. -/
def Options.inMode (options : Options) (mode : String) (raised : Report.Raised) : Options :=
  { options with errorMode := some mode, raised := raised }

theorem create_inMode {mode : String} {raised : Report.Raised} {report : Report} (named : mode ≠ "")
    (made : Report.create mode raised = .ok report) :
    create settings (options.inMode mode raised) given target = (do
      let statistics ← Action.lift (Statistics.empty (statedLimit settings options))
      let client ← Action.lift (chosenClient settings given target)
      let base ← Action.lift (chosenDialect settings options client)
      opened report statistics base client) := by
  have stated : ((some mode).bind nonempty).getD settings.templating.errorMode = mode := by
    simp [nonempty, named]
  rw [create_eq]
  simp only [Options.inMode, stated, made]
  rfl

/-- A database is opened once its client is connected, and a refusal is reported. -/
theorem opened_eq (report : Report) (statistics : Statistics) (base : Dialect) (client : Client)
    (before : World) : opened report statistics base client before =
      match Client.connect (client, before) with
      | .ok () (connected, world) => .ok ⟨report, statistics, base, connected⟩ world
      | .error (.driver text) (_, world) =>
        report.surface (SqlError.of (.connection text) none) none world
      | .error failure (_, world) => .error failure world := by
  simp only [opened, connectClient, bind, EStateM.bind, Action.outcome]
  cases Client.connect (client, before) with
  | ok value state => rfl
  | error failure state => cases failure <;> rfl

theorem opened_cases (first second : Report) (statistics : Statistics) (base : Dialect)
    (client : Client) (before : World) :
    (∃ connected world, opened first statistics base client before =
        EStateM.Result.ok ⟨first, statistics, base, connected⟩ world ∧
      opened second statistics base client before =
        EStateM.Result.ok ⟨second, statistics, base, connected⟩ world) ∨
    ∃ failure failure' world world', StandsFor first second failure failure' ∧
      World.Logged world world' ∧
      opened first statistics base client before = EStateM.Result.error failure world ∧
      opened second statistics base client before = EStateM.Result.error failure' world' := by
  rw [opened_eq, opened_eq]
  cases connecting : Client.connect (client, before) with
  | ok value state => exact .inl ⟨_, _, rfl, rfl⟩
  | error failure state =>
    right
    have own : failure.reported? = none := by
      have ended : .error failure = reply Client.connect (client, before) := by
        rw [reply, connecting]
      rw [Client.reply_connect] at ended
      split at ended
      · cases ended
      · split at ended
        · cases ended
        · rw [Except.error.inj ended]
          exact (Server.Breakdown.own_raised _).2
    cases failure with
    | driver text => exact ⟨_, _, _, _, .reported _, ⟨_, rfl⟩, rfl, rfl⟩
    | query | application | abort => cases own
    | _ => exact ⟨_, _, state.2, state.2, .own own, ⟨_, rfl⟩, rfl, rfl⟩

/-- Two creations that differ in their reports make databases that do, or fail alike. -/
theorem create_cases {mode mode' : String} {raised raised' : Report.Raised}
    {first second : Report} (named : mode ≠ "") (named' : mode' ≠ "")
    (made : Report.create mode raised = .ok first)
    (made' : Report.create mode' raised' = .ok second) (before : World) :
    (∃ statistics base connected world,
      create settings (options.inMode mode raised) given target before =
        EStateM.Result.ok ⟨first, statistics, base, connected⟩ world ∧
      create settings (options.inMode mode' raised') given target before =
        EStateM.Result.ok ⟨second, statistics, base, connected⟩ world) ∨
    ∃ failure failure' world world', StandsFor first second failure failure' ∧
      World.Logged world world' ∧
      create settings (options.inMode mode raised) given target before =
        EStateM.Result.error failure world ∧
      create settings (options.inMode mode' raised') given target before =
        EStateM.Result.error failure' world' := by
  rw [create_inMode named made, create_inMode named' made']
  cases started : Statistics.empty (statedLimit settings options) with
  | error failure =>
    exact .inr ⟨_, _, _, _, .own (reported?_empty started), ⟨before.log, rfl⟩, rfl, rfl⟩
  | ok statistics =>
    cases chosen : chosenClient settings given target with
    | error failure =>
      exact .inr ⟨_, _, _, _, .own (reported?_chosenClient chosen), ⟨before.log, rfl⟩, rfl, rfl⟩
    | ok client =>
      simp only [Action.lift, pure_bind]
      cases named : chosenDialect settings options client with
      | error failure =>
        exact .inr ⟨_, _, _, _, .own (reported?_chosenDialect named), ⟨before.log, rfl⟩, rfl, rfl⟩
      | ok base =>
        rcases opened_cases first second statistics base client before with
          ⟨connected, world, opened, opened'⟩ |
          ⟨failure, failure', world, world', related, logged, opened, opened'⟩
        · exact .inl ⟨statistics, base, connected, world, opened, opened'⟩
        · exact .inr ⟨failure, failure', world, world', related, logged, opened, opened'⟩

/-- All of a database but its report. -/
def withoutReport (database : Database) : Statistics × Dialect × Client :=
  (database.statistics, database.base, database.client)

variable (settings options given target) in
/-- Creations for two modes end alike, and what they make differs in its report only. -/
theorem create_agrees {mode mode' : String} {raised raised' : Report.Raised} {first second : Report}
    (named : mode ≠ "") (named' : mode' ≠ "") (made : Report.create mode raised = .ok first)
    (made' : Report.create mode' raised' = .ok second) (before : World) :
    let creation := create settings (options.inMode mode raised) given target
    let creation' := create settings (options.inMode mode' raised') given target
    Ends (StandsFor first second) ((reply creation before).map withoutReport)
        ((reply creation' before).map withoutReport) ∧
      World.Logged (after creation before) (after creation' before) ∧
      ∀ database database' world world', creation before = EStateM.Result.ok database world →
        creation' before = EStateM.Result.ok database' world' →
        Alike first second (database, world) (database', world') := by
  dsimp only
  rcases create_cases named named' made made' before with
    ⟨statistics, base, connected, world, run, run'⟩ |
    ⟨failure, failure', world, world', related, logged, run, run'⟩
  · rw [(Action.of_eq_ok run).1, (Action.of_eq_ok run').1, (Action.of_eq_ok run).2,
      (Action.of_eq_ok run').2]
    refine ⟨.value _, ⟨world.log, rfl⟩, fun database database' now now' made made' => ?_⟩
    cases run.symm.trans made
    cases run'.symm.trans made'
    exact ⟨rfl, rfl, world.log, rfl⟩
  · rw [(Action.of_eq_error run).1, (Action.of_eq_error run').1, (Action.of_eq_error run).2,
      (Action.of_eq_error run').2]
    exact ⟨.failure related, logged, fun _ _ _ _ made => nomatch run.symm.trans made⟩

/-- A refused connection is reported, and a database is connected. -/
structure SurfacesRefusal (settings : Settings) (options : Options) (given : Option Client)
    (target : Target) (report : Report) (creation : Action World Database) (before : World) :
    Prop where
  refused : ∀ statistics client base text,
    Statistics.empty (statedLimit settings options) = .ok statistics →
    chosenClient settings given target = .ok client →
    chosenDialect settings options client = .ok base →
    reply Client.connect (client, before) = .error (.driver text) →
    reply creation before = .error (report.failure (SqlError.of (.connection text) none))
  connected : ∀ database, reply creation before = .ok database →
    ∃ client, chosenClient settings given target = .ok client ∧
      reply Client.connect (client, before) = .ok ()

theorem surfacesRefusal {mode : String} {raised : Report.Raised} {report : Report}
    (named : mode ≠ "") (made : Report.create mode raised = .ok report) (before : World) :
    SurfacesRefusal settings options given target report
      (create settings (options.inMode mode raised) given target) before where
  refused statistics client base text started chosen stated refused := by
    rw [create_inMode named made]
    simp only [Action.reply_bind, Action.reply_lift, Action.after_lift, started, chosen, stated]
    rw [reply, opened_eq]
    cases connecting : Client.connect (client, before) with
    | ok value state => simp [reply, connecting] at refused
    | error failure state =>
      rw [reply, connecting] at refused
      cases refused
      rfl
  connected database created := by
    cases run : create settings (options.inMode mode raised) given target before with
    | error failure world => simp [reply, run] at created
    | ok database world =>
      obtain ⟨-, client, report, chosen, connected⟩ := create_eq_ok run
      refine ⟨client, chosen, ?_⟩
      cases connecting : Client.connect (client, before) with
      | ok value state => simp [reply, connecting]
      | error failure state =>
        simp only [connectClient, bind, EStateM.bind, Action.outcome, connecting] at connected
        cases failure <;> cases connected

end Creation

section Calls

/-- The query that a call renders, and the caller. -/
def Call.query? : Call → Option (Query × Option String)
  | .parse query caller => some (query, caller)
  | call => call.asked?

variable {call : Call} {query : Query} {caller : Option String} {state : Database × World}

theorem Call.query?_eq_some (asked : call.query? = some (query, caller)) :
    call = .parse query caller ∨ call.asked? = some (query, caller) := by
  cases call with
  | parse =>
    cases asked
    exact .inl rfl
  | _ => exact .inr asked

theorem Query.rendering_of_parsed {sql : String}
    (parsed : reply (query.parse caller) state = .ok sql) :
    query.rendering caller state = .ok (.ok sql) := by
  rw [query.reply_parse] at parsed
  split at parsed <;> cases parsed
  assumption

/-- An error in a query is reported, whatever the query is rendered for. -/
theorem Call.reply_perform_of_error {error : SqlError} (asked : call.query? = some (query, caller))
    (failed : query.rendering caller state = .ok (.error error)) :
    reply call.perform state = .error (state.1.report.failure (error.withCaller caller)) := by
  have parsed : reply (query.parse caller) state =
      .error (state.1.report.failure (error.withCaller caller)) := by
    rw [query.reply_parse, failed]
  obtain rfl | asked := Call.query?_eq_some asked
  · exact parsed
  · obtain ⟨finish, performed, -⟩ := Call.exists_finish asked
    rw [performed, Action.reply_bind, (query.run_of_unparsed parsed).1]

/-- A call that has a query executed answers only if that was rendered and executed. -/
theorem Call.executed_of_reply_perform {answer : call.Answer}
    (asked : call.asked? = some (query, caller)) (ended : reply call.perform state = .ok answer) :
    ∃ sql result, query.rendering caller state = .ok (.ok sql) ∧
      reply (Client.execute sql) (state.1.client, state.2) = .ok result := by
  obtain ⟨finish, performed, -⟩ := Call.exists_finish asked
  rw [performed, Action.reply_bind] at ended
  cases parsed : reply (query.parse caller) state with
  | error failure =>
    rw [(query.run_of_unparsed parsed).1] at ended
    cases ended
  | ok sql =>
    rw [(query.run_of_parsed parsed).1, reply_execute] at ended
    cases executed : reaction state sql with
    | ok result => exact ⟨sql, result, Query.rendering_of_parsed parsed, executed⟩
    | error failure =>
      rw [executed] at ended
      cases failure <;> cases ended

end Calls

section Index

variable {report : Report} {caller : Option String} {index : Value} {kept : Value → Value}
  {answers : List (Except Failure Value)} {row : Value}

theorem isSome_of_cellOf {cell : Value} {row : Mapping}
    (found : cellOf report caller index row = .ok cell) : (row.find? index).isSome := by
  obtain ⟨key, looked, found⟩ := Except.bind_eq_ok.mp found
  obtain rfl : index = key := by
    unfold lookedUp at looked
    split at looked <;> cases looked
    rfl
  cases present : row.find? index with
  | some cell => rfl
  | none =>
    rw [present] at found
    obtain ⟨shown, -, found⟩ := Except.bind_eq_ok.mp found
    cases found

theorem through_eq_ok {β : Type} {f : β → Value → Except Failure β} {start gathered : β}
    (ended : through f start answers = .ok gathered) (member : .ok row ∈ answers) :
    ∃ before now, f before row = .ok now := by
  induction answers generalizing start with
  | nil => cases member
  | cons answer answers ih =>
    obtain ⟨next, stepped, ended⟩ := Except.bind_eq_ok.mp ended
    cases member with
    | head => exact ⟨start, next, stepped⟩
    | tail _ member => exact ih ended member

/-- Rows are gathered by a column only if all of them have it. -/
theorem isSome_of_through {gathered : Mapping}
    (ended : through (takeUnder report caller index kept) [] answers = .ok gathered)
    (member : .ok row ∈ answers) : ((entries row).find? index).isSome := by
  obtain ⟨before, now, taken⟩ := through_eq_ok ended member
  obtain ⟨cell, found, -⟩ := Except.bind_eq_ok.mp taken
  exact isSome_of_cellOf found

theorem takeUnder_of_missing (missing : (entries row).find? index = none)
    (hashable : index.lookupFault? = none) {shown : List Char}
    (writable : index.plain? = some shown) (gathered : Mapping) :
    takeUnder report caller index kept gathered row =
      .error (missingIndex report caller index shown (entries row)) := by
  simp [takeUnder, cellOf, lookedUp, hashable, missing, SafeSql.writable, writable]

theorem through_of_missing {rest : List (Except Failure Value)} (first : answers = .ok row :: rest)
    (missing : (entries row).find? index = none) (hashable : index.lookupFault? = none)
    {shown : List Char} (writable : index.plain? = some shown) :
    through (takeUnder report caller index kept) [] answers =
      .error (missingIndex report caller index shown (entries row)) := by
  rw [first, through, List.foldlM_cons, Except.ok_bind,
    takeUnder_of_missing missing hashable writable]
  rfl

end Index

/-- Nothing that goes wrong in a call is passed over: an error in a query, a refused statement and a
missing index are reported, and a call that ends with an answer had none of them. -/
structure Surfaces (state : Database × World) : Prop where
  rendering : ∀ (call : Call) query caller error, call.query? = some (query, caller) →
    query.rendering caller state = .ok (.error error) →
    ∃ told : SqlError, told.cause = error.cause ∧
      reply call.perform state = .error (state.1.report.failure told)
  execution : ∀ (call : Call) sql text, call.rendered? state = some sql →
    reply (Client.execute sql) (state.1.client, state.2) = .error (.driver text) →
    ∃ (told : SqlError) (words : String), told.cause = .execution words sql ∧
      reply call.perform state = .error (state.1.report.failure told)
  missingIndex : ∀ index template arguments caller rows row rest shown,
    Brings state (.positional template arguments) caller rows →
    rows.answers .named = .ok row :: rest → (entries row).find? index = none →
    index.lookupFault? = none → index.plain? = some shown →
    ∃ told : SqlError,
      told.cause = .missingIndex index (String.ofList shown) (columnTexts (entries row)) ∧
      reply ((Shape.indexed index).get template arguments caller) state =
        .error (state.1.report.failure told) ∧
      reply ((Shape.indexedColumn index).get template arguments caller) state =
        .error (state.1.report.failure told)
  rendered : ∀ (query : Query) caller sql, reply (query.parse caller) state = .ok sql →
    query.rendering caller state = .ok (.ok sql)
  executed : ∀ (call : Call) query caller answer, call.asked? = some (query, caller) →
    reply call.perform state = .ok answer →
    ∃ sql result, query.rendering caller state = .ok (.ok sql) ∧
      reply (Client.execute sql) (state.1.client, state.2) = .ok result
  indexed : ∀ index (shape : Shape) template arguments caller rows answer,
    shape = .indexed index ∨ shape = .indexedColumn index →
    Brings state (.positional template arguments) caller rows →
    reply (shape.get template arguments caller) state = .ok answer →
    ∀ row, .ok row ∈ rows.answers .named → ((entries row).find? index).isSome

theorem surfaces (state : Database × World) : Surfaces state where
  rendering call query caller error asked failed :=
    ⟨_, SqlError.cause_withCaller error caller, Call.reply_perform_of_error asked failed⟩
  execution call sql text rendered refused := by
    obtain ⟨caller, reported⟩ := Call.reply_perform_of_driver rendered refused
    exact ⟨_, _, SqlError.cause_withCaller _ _, reported⟩
  missingIndex index template arguments caller rows row rest shown brings answers missing hashable
      writable :=
    ⟨_, SqlError.cause_withCaller _ _,
      (Shape.reply_of_brings brings).trans (through_of_missing answers missing hashable writable),
      (Shape.reply_of_brings brings).trans (through_of_missing answers missing hashable writable)⟩
  rendered query caller sql parsed := Query.rendering_of_parsed parsed
  executed call query caller answer asked ended := Call.executed_of_reply_perform asked ended
  indexed index shape template arguments caller rows answer shaped brings ended row member := by
    rw [Shape.reply_of_brings brings] at ended
    obtain rfl | rfl := shaped <;> exact isSome_of_through ended member

/-- A database in the three modes of reporting. The mode is no matter for its creation and for what
is called afterwards, but for the way in which an error of the library is raised: the requests to
the server and the statistics are the same, calls that succeed have the same results, and an error
is raised in all three with the same message, behind which the end of the program has a word of its
own. Any other failure is the same. In no mode is an error passed over. -/
theorem modes_agree (settings : Settings) (options : Options) (given : Option Client)
    (target : Target) (before : World) (also : Bool) :
    let itself := create settings (options.inMode "exception" .itself) given target
    let application := create settings (options.inMode "exception" .application) given target
    let abort := create settings
      (options.inMode "error" (if also then .application else .itself)) given target
    ((after application before).trace = (after itself before).trace ∧
      (after abort before).trace = (after itself before).trace ∧
      InModes ((reply itself before).map withoutReport)
        ((reply application before).map withoutReport) ((reply abort before).map withoutReport) ∧
      SurfacesRefusal settings options given target ⟨.exception, false⟩ itself before ∧
      SurfacesRefusal settings options given target ⟨.exception, true⟩ application before ∧
      SurfacesRefusal settings options given target ⟨.error, also⟩ abort before) ∧
    ∀ first second third world world' world'',
      itself before = EStateM.Result.ok first world →
      application before = EStateM.Result.ok second world' →
      abort before = EStateM.Result.ok third world'' →
      ∀ calls (call : Call),
        let s := runAll calls (first, world)
        let t := runAll calls (second, world')
        let u := runAll calls (third, world'')
        (t.2.trace = s.2.trace ∧ u.2.trace = s.2.trace) ∧
        (t.1.statistics = s.1.statistics ∧ u.1.statistics = s.1.statistics) ∧
        InModes (reply call.perform s) (reply call.perform t) (reply call.perform u) ∧
        (∀ message,
          (Raises .query message (reply call.perform s) ↔
            Raises .application message (reply call.perform t)) ∧
          (Raises .query message (reply call.perform s) ↔
            Raises .abort (message ++ ", thrown") (reply call.perform u))) ∧
        Surfaces s ∧ Surfaces t ∧ Surfaces u := by
  intro itself application abort
  have exception : "exception" ≠ "" := by decide
  have error : "error" ≠ "" := by decide
  have first : Report.create "exception" .itself = .ok ⟨.exception, false⟩ := rfl
  have second : Report.create "exception" .application = .ok ⟨.exception, true⟩ := rfl
  have third : Report.create "error" (if also then .application else .itself) =
      .ok ⟨.error, also⟩ := by
    cases also <;> rfl
  obtain ⟨ends, logged, alike⟩ :=
    create_agrees settings options given target exception exception first second before
  obtain ⟨ends', logged', alike'⟩ :=
    create_agrees settings options given target exception error first third before
  refine ⟨⟨logged.trace, logged'.trace, Report.inModes_of_ends ends ends',
    surfacesRefusal exception first before, surfacesRefusal exception second before,
    surfacesRefusal error third before⟩, ?_⟩
  intro database database' database'' world world' world'' run run' run'' calls call s t u
  have same : Alike ⟨.exception, false⟩ ⟨.exception, true⟩ s t :=
    alike_runAll calls (alike _ _ _ _ run run')
  have same' : Alike ⟨.exception, false⟩ ⟨.error, also⟩ s u :=
    alike_runAll calls (alike' _ _ _ _ run run'')
  have modes := Report.inModes_of_ends (uniform_perform call same).1 (uniform_perform call same').1
  exact ⟨⟨same.trace, same'.trace⟩, ⟨same.statistics, same'.statistics⟩, modes, modes.raises_iff,
    surfaces s, surfaces t, surfaces u⟩

/-- A refused statement is reported with one error in all three modes. -/
theorem modes_agree_refusal :
    let call := Call.run (.positional (.text "SELECT 1") []) none
    let world := (connectedTo [⟨Binary64.zero false, .error (.refusal "locked")⟩]).2
    let ended (report : Report) := reply call.perform ({ oneEntry with report := report }, world)
    ∃ (error : SqlError) (words : String), error.cause = .execution words "SELECT 1" ∧
      ended ⟨.exception, false⟩ = .error (.query error) ∧
      ended ⟨.exception, true⟩ = .error (.application error) ∧
      ended ⟨.error, false⟩ = .error (.abort error) := by
  intro call world ended
  obtain ⟨-, runs⟩ := modes_agree inMemory .unstated
    (some (connectedTo [⟨Binary64.zero false, .error (.refusal "locked")⟩]).1) .unstated world false
  obtain ⟨-, -, modes, -, surfaces, -⟩ :=
    runs oneEntry { oneEntry with report := ⟨.exception, true⟩ }
      { oneEntry with report := ⟨.error, false⟩ } world world world rfl rfl rfl [] call
  have rendered : call.rendered? (oneEntry, world) = some "SELECT 1" := by decide +kernel
  obtain ⟨error, words, cause, reported⟩ := surfaces.execution call _ "locked" rendered rfl
  refine ⟨error, words, cause, reported, ?_⟩
  have modes : InModes (ended ⟨.exception, false⟩) (ended ⟨.exception, true⟩)
      (ended ⟨.error, false⟩) := modes
  have reported : ended ⟨.exception, false⟩ = .error (.query error) := reported
  rw [reported] at modes
  generalize ended ⟨.exception, true⟩ = application at modes
  generalize ended ⟨.error, false⟩ = abort at modes
  cases modes with
  | reported => exact ⟨rfl, rfl⟩
  | own unreported => cases unreported

end SafeSql.Database
