import SafeSql.Proofs.Callers
import SafeSql.Proofs.Database.Surfacing
import SafeSql.Proofs.Rendering.Outcome

/-!
# Callers of a database

Whatever is asked of a database under a name, every error of the library that ends it tells that
name, once, and so does the last message in the log. An error in a query, a refused statement and a
missing index are told so.

## Main definitions

* `Database.Told` — an error tells who called, and so does the log.
* `Database.Names` — an action that ends with no other errors.
* `Database.Blames` — an action that ends with such an error.
* `Database.Attributes` — what goes wrong with calls under a name.

## Main statements

* `Database.names_perform` — every call ends with such errors only.
* `Database.attributes` — what goes wrong is reported under the name.
* `Database.callers_told` — who called is told once, whatever an error passes through.
-/

namespace SafeSql.Database

open SafeSql.Action (reply after Agrees)
open Callers (Layer Passes Tells firstNamed)
open Client (RowMode)
open Failure (Own)
open World (Beside Logged)

variable {α β : Type} {name : String}

/-- An error that a failure reports tells who called, and the failure is the last thing that the log
says. -/
structure Told (name : String) (failure : Failure) (error : SqlError) (world : World) : Prop where
  tells : ∃ cause, Tells cause (some name) error
  logged : world.log.getLast?.map (·.message) = some failure.message

/-- An action ends with no other errors of the library than those that tell who called. -/
def Names (name : String) (action : Action (Database × World) α) : Prop :=
  ∀ state failure error, reply action state = .error failure → failure.reported? = some error →
    Told name failure error (after action state).2

/-- An action ends with no errors of the library at all. -/
def Unreported {σ : Type} (action : Action σ α) : Prop :=
  ∀ state failure, reply action state = .error failure → failure.reported? = none

/-! ## Actions without errors of the library -/

theorem unreported_of_agrees {action : Action (Client × World) α}
    (agrees : Agrees (Beside Logged) Own action) : Unreported action := by
  rintro ⟨client, world⟩ failure ended
  have alike : Beside Logged (client, world) (client, world) := ⟨rfl, world.log, rfl⟩
  have ends := (agrees alike).1
  rw [ended] at ends
  cases ends with
  | failure own => exact own.2

theorem unreported_onClient {action : Action (Client × World) α}
    (agrees : Agrees (Beside Logged) Own action) : Unreported (onClient action) := by
  intro state failure ended
  rw [reply_onClient] at ended
  exact unreported_of_agrees agrees _ failure ended

theorem Names.of_unreported {action : Action (Database × World) α}
    (unreported : Unreported action) : Names name action := by
  intro state failure error ended reported
  rw [unreported state failure ended] at reported
  cases reported

theorem names_pure (a : α) : Names name (pure a : Action (Database × World) α) :=
  .of_unreported fun _ _ ended => nomatch ended

theorem names_throw {failure : Failure} (own : failure.reported? = none) :
    Names name (throw failure : Action (Database × World) α) :=
  .of_unreported fun _ _ ended => Except.error.inj ended ▸ own

/-! ## Steps -/

theorem Names.bind {action : Action (Database × World) α}
    {f : α → Action (Database × World) β} (first : Names name action)
    (rest : ∀ a, Names name (f a)) : Names name (action >>= f) := by
  intro state failure error ended reported
  rw [Action.reply_bind] at ended
  rw [Action.after_bind]
  cases replied : reply action state with
  | ok a =>
    rw [replied] at ended
    exact rest a _ failure error ended reported
  | error failure' =>
    rw [replied] at ended
    obtain rfl := Except.error.inj ended
    exact first state failure' error replied reported

/-- What is done in any case adds nothing to the log. -/
theorem Names.ensuring {action : Action (Database × World) α}
    {last : Action (Database × World) Unit} (names : Names name action)
    (unreported : Unreported last)
    (silent : ∀ state, (after last state).2.log = state.2.log) :
    Names name (action.ensuring last) := by
  intro state failure error ended reported
  rw [Action.reply_ensuring] at ended
  cases given : reply last (after action state) with
  | ok =>
    rw [given] at ended
    obtain ⟨tells, logged⟩ := names state failure error ended reported
    exact ⟨tells, by rwa [Action.after_ensuring, silent]⟩
  | error failure' =>
    rw [given] at ended
    rw [← Except.error.inj ended, unreported _ _ given] at reported
    cases reported

theorem names_get_bind {f : Database × World → Action (Database × World) α}
    (each : ∀ state, Names name (f state)) : Names name (get >>= f) :=
  fun state => each state state

/-! ## Reports -/

theorem withCaller_some (called : name ≠ "") (cause : SqlError.Cause) :
    (SqlError.of cause none).withCaller (some name) = .of cause (some name) := by
  have named : SqlError.isNamed (some name) = true := Callers.isNamed_iff.mpr ⟨name, rfl, called⟩
  exact if_pos (by rw [named]; rfl)

theorem withCaller_again (called : name ≠ "") (cause : SqlError.Cause) :
    ((SqlError.of cause none).withCaller (some name)).withCaller (some name) =
      .of cause (some name) := by
  rw [withCaller_some called]
  exact if_neg (by simp [SqlError.of])

/-- What a report raises tells who called when the error does, and so does the log. -/
theorem told_surface {report : Report} {cause : SqlError.Cause} {given error : SqlError}
    {world : World} {failure : Failure}
    (same : given.withCaller (some name) = .of cause (some name))
    (ended : reply (report.surface given (some name) : Action World α) world = .error failure)
    (reported : failure.reported? = some error) :
    Told name failure error (after (report.surface given (some name) : Action World α) world) := by
  obtain rfl : report.failure (given.withCaller (some name)) = failure := Except.error.inj ended
  rw [same, report.reported?_failure] at reported
  obtain rfl := Option.some.inj reported
  refine ⟨⟨cause, Callers.tells_of cause (some name)⟩, ?_⟩
  rw [Report.surface, Action.after_bind, World.reply_say, Action.after_throw, World.after_say]
  simp [Report.message]

/-- An error without a caller is reported under the name. -/
theorem names_reportError (called : name ≠ "") (cause : SqlError.Cause) :
    Names name (reportError (.of cause none) (some name) : Action (Database × World) α) := by
  refine names_get_bind fun ⟨database, _⟩ => ?_
  intro state failure error ended reported
  rw [Action.reply_onWorld] at ended
  rw [Action.after_onWorld]
  exact told_surface (withCaller_some called cause) ended reported

/-- So is the error that rendering under the name has for its outcome. -/
theorem names_settle (called : name ≠ "") (report : Report) {outcome : Except Failure Rendering}
    (held : ∀ error, outcome = .ok (.error error) →
      ∃ cause, error = (SqlError.of cause none).withCaller (some name))
    (own : ∀ failure, outcome = .error failure → failure.reported? = none) :
    Names name
      ((settle report (some name) outcome).onWorld : Action (Database × World) String) := by
  intro state failure error ended reported
  rw [Action.reply_onWorld] at ended
  rw [Action.after_onWorld]
  cases outcome with
  | error failure' =>
    obtain rfl : failure' = failure := Except.error.inj ended
    rw [own failure' rfl] at reported
    cases reported
  | ok rendering =>
    cases rendering with
    | ok sql => cases ended
    | error given =>
      obtain ⟨cause, rfl⟩ := held given rfl
      exact told_surface (withCaller_again called cause) ended reported

/-! ## Calls -/

theorem names_parse (called : name ≠ "") (query : Query) :
    Names name (query.parse (some name)) := by
  cases query with
  | positional template arguments =>
    refine names_get_bind fun ⟨database, world⟩ => names_settle called _ ?_ ?_
    · exact fun error held => Rendering.held_positional held
    · exact fun failure failed => Rendering.reported?_positional failed
  | named template values =>
    refine names_get_bind fun ⟨database, world⟩ => names_settle called _ ?_ ?_
    · exact fun error held => Rendering.held_named held
    · exact fun failure failed => Rendering.reported?_named failed

theorem unreported_measured (sql : String) : Unreported (measured sql) := by
  intro state failure ended
  rw [reply_measured] at ended
  cases given : reaction state sql with
  | ok result =>
    rw [given] at ended
    cases ended
  | error failure' =>
    have own := unreported_of_agrees (Client.agrees_execute sql) _ _ given
    rw [given] at ended
    cases failure' with
    | driver => cases ended
    | _ =>
      rw [← Except.error.inj ended]
      exact own

theorem names_execute (called : name ≠ "") (sql : String) :
    Names name (execute sql (some name)) := by
  rw [execute, ← measured]
  refine (Names.of_unreported (unreported_measured sql)).bind fun outcome => ?_
  cases outcome with
  | ok result => exact names_pure result
  | error words => exact names_reportError called _

theorem names_run (called : name ≠ "") (query : Query) : Names name (query.run (some name)) := by
  rw [query.run_eq]
  exact (names_parse called query).bind fun sql => names_execute called sql

theorem names_lookable (value : Value) : Names name (lookable value) := by
  unfold lookable
  split
  · exact names_throw rfl
  · exact names_pure value

theorem names_writable (text : Option (List Char)) : Names name (Action.lift (writable text)) := by
  refine .of_unreported fun state failure ended => ?_
  rw [Action.reply_lift] at ended
  cases text <;> cases ended
  rfl

theorem names_indexCell (called : name ≠ "") (index : Value) (row : Mapping) :
    Names name (indexCell index row (some name)) := by
  refine (names_lookable index).bind fun index => ?_
  split
  · exact names_pure _
  · exact (names_writable _).bind fun shown => names_reportError called _

variable {step : β → Value → Action (Database × World) β} {result : Nat} {mode : RowMode}

theorem names_eachRow (names : ∀ gathered row, Names name (step gathered row)) (times : Nat)
    (gathered : β) : Names name (eachRow result mode step times gathered) := by
  induction times generalizing gathered with
  | zero => exact names_pure gathered
  | succ times ih =>
    refine (Names.of_unreported (unreported_onClient (Client.agrees_fetchRow result mode))).bind
      fun row => ?_
    cases row with
    | none => exact names_pure gathered
    | some row => exact (names gathered row).bind ih

theorem names_gather (names : ∀ gathered row, Names name (step gathered row)) (start : β) :
    Names name (gather result mode start step) := by
  refine Names.ensuring (names_get_bind fun ⟨_, world⟩ => names_eachRow names _ start)
    (unreported_onClient (Client.agrees_perform (.free result))) fun state => ?_
  rw [after_onClient]
  rfl

theorem names_firstRow : Names name (firstRow result mode) := by
  refine Names.ensuring (.of_unreported (unreported_onClient (Client.agrees_fetchRow result mode)))
    (unreported_onClient (Client.agrees_perform (.free result))) fun state => ?_
  rw [after_onClient]
  rfl

theorem names_get (called : name ≠ "") (shape : Shape) (template : Value) (arguments : List Value) :
    Names name (shape.get template arguments (some name)) := by
  have queried : Names name (query template arguments (some name)) :=
    names_run called (.positional template arguments)
  cases shape with
  | one | row => exact queried.bind fun _ => names_firstRow.bind fun _ => names_pure _
  | all => exact queried.bind fun _ => names_gather (fun _ _ => names_pure _) _
  | column =>
    refine queried.bind fun _ => names_gather (fun _ row => ?_) _
    cases firstCell? row with
    | none => exact names_throw rfl
    | some cell => exact names_pure _
  | indexed | indexedColumn =>
    refine queried.bind fun _ => names_gather (fun _ row => ?_) _
    refine (names_indexCell called _ _).bind fun cell => ?_
    exact (names_lookable cell).bind fun _ => names_pure _
  | table =>
    refine queried.bind fun result => ?_
    refine (Names.of_unreported
      (unreported_onClient (Client.agrees_columnNames result))).bind fun _ => ?_
    exact (names_gather (fun _ _ => names_pure _) _).bind fun _ => names_pure _

/-- Whatever is asked of a database under a name, the errors of the library that it ends with tell
that name, and so does the log. -/
theorem names_perform (called : name ≠ "") {call : Call} {query : Query}
    (asked : call.query? = some (query, some name)) : Names name call.perform := by
  cases call with
  | parse query caller =>
    cases asked
    exact names_parse called query
  | run query caller =>
    cases asked
    exact names_run called query
  | get shape template arguments caller =>
    cases asked
    exact names_get called shape template arguments
  | client => cases asked

/-! ## What goes wrong -/

/-- An action ends with the report of an error with a cause, which tells who called, and so does the
last message in the log. -/
def Blames (name : String) (cause : SqlError.Cause) (state : Database × World)
    (action : Action (Database × World) α) : Prop :=
  ∃ error, reply action state = .error (state.1.report.failure error) ∧
    Tells cause (some name) error ∧
    (after action state).2.log.getLast?.map (·.message) = some (state.1.report.message error)

section Blames

variable {call : Call} {query : Query} {state : Database × World} {error : SqlError}

theorem query?_of_asked {caller : Option String} (asked : call.asked? = some (query, caller)) :
    call.query? = some (query, caller) := by
  cases call with
  | parse => cases asked
  | _ => exact asked

/-- What reports an error is raised as the report says. -/
theorem eq_failure_of_reported {failure : Failure}
    (ended : reply call.perform state = .error failure)
    (reported : failure.reported? = some error) : failure = state.1.report.failure error := by
  have alike : Alike state.1.report state.1.report state state := ⟨rfl, rfl, state.2.log, rfl⟩
  have ends := (uniform_perform call alike).1
  rw [ended] at ends
  cases ends with
  | failure related =>
    cases related with
    | reported error' =>
      rw [Report.reported?_failure] at reported
      rw [Option.some.inj reported]
    | own unreported =>
      rw [unreported] at reported
      cases reported

theorem blames_of_reply (called : name ≠ "") (asked : call.query? = some (query, some name))
    (ended : reply call.perform state = .error (state.1.report.failure error)) :
    Blames name error.cause state call.perform := by
  obtain ⟨⟨cause, tells⟩, logged⟩ := names_perform called asked state _ error ended
    (state.1.report.reported?_failure error)
  exact ⟨error, ended, tells.caused ▸ tells, logged⟩

end Blames

section Index

variable {report : Report} {caller : Option String} {index : Value} {kept : Value → Value}
  {row : Value} {before rest : List (Except Failure Value)}

/-- A row has a column whose cell can be a key. -/
def Keyed (index : Value) (answer : Except Failure Value) : Prop :=
  ∃ row cell, answer = .ok row ∧ (entries row).find? index = some cell ∧ cell.lookupFault? = none

theorem takeUnder_of_found {cell : Value} (hashable : index.lookupFault? = none)
    (found : (entries row).find? index = some cell) (as_key : cell.lookupFault? = none)
    (gathered : Mapping) :
    takeUnder report caller index kept gathered row = .ok (gathered.insert cell (kept row)) := by
  simp [takeUnder, cellOf, lookedUp, hashable, found, as_key]

/-- The first row without the column is reported, once those before it were gathered. -/
theorem through_of_missing_later (hashable : index.lookupFault? = none)
    (keyed : ∀ answer ∈ before, Keyed index answer) (missing : (entries row).find? index = none)
    {shown : List Char} (writable : index.plain? = some shown) (gathered : Mapping) :
    through (takeUnder report caller index kept) gathered (before ++ .ok row :: rest) =
      .error (missingIndex report caller index shown (entries row)) := by
  induction before generalizing gathered with
  | nil =>
    rw [List.nil_append, through, List.foldlM_cons, Except.ok_bind,
      takeUnder_of_missing missing hashable writable]
    rfl
  | cons answer before ih =>
    obtain ⟨⟨earlier, cell, rfl, found, as_key⟩, keyed_rest⟩ := List.forall_mem_cons.mp keyed
    rw [List.cons_append, through, List.foldlM_cons, Except.ok_bind,
      takeUnder_of_found hashable found as_key, Except.ok_bind]
    exact ih keyed_rest _

end Index

/-- What goes wrong with a call under a name is reported under it: an error in a query, a refused
statement and a missing index. No other error of the library is reported under another name. -/
structure Attributes (name : String) (state : Database × World) : Prop where
  only : ∀ (call : Call) query failure error, call.query? = some (query, some name) →
    reply call.perform state = .error failure → failure.reported? = some error →
    failure = state.1.report.failure error ∧ Blames name error.cause state call.perform
  rendering : ∀ (call : Call) query error, call.query? = some (query, some name) →
    query.rendering (some name) state = .ok (.error error) →
    Blames name error.cause state call.perform
  execution : ∀ (call : Call) query sql text, call.asked? = some (query, some name) →
    reply (query.parse (some name)) state = .ok sql →
    reply (Client.execute sql) (state.1.client, state.2) = .error (.driver text) →
    ∃ words, Blames name (.execution words sql) state call.perform
  missingIndex : ∀ index (shape : Shape) template arguments rows before row rest shown,
    shape = .indexed index ∨ shape = .indexedColumn index →
    Brings state (.positional template arguments) (some name) rows →
    rows.answers .named = before ++ .ok row :: rest → (∀ answer ∈ before, Keyed index answer) →
    (entries row).find? index = none → index.lookupFault? = none → index.plain? = some shown →
    Blames name (.missingIndex index (String.ofList shown) (columnTexts (entries row))) state
      (shape.get template arguments (some name))

theorem attributes (called : name ≠ "") (state : Database × World) : Attributes name state where
  only call query failure error asked ended reported := by
    have raised := eq_failure_of_reported ended reported
    exact ⟨raised, blames_of_reply called asked (raised ▸ ended)⟩
  rendering call query error asked failed := by
    have blames := blames_of_reply called asked (Call.reply_perform_of_error asked failed)
    rwa [SqlError.cause_withCaller] at blames
  execution call query sql text asked parsed refused := by
    have ended := Call.reply_perform_of_refused asked parsed refused
    have blames := blames_of_reply called (query?_of_asked asked) ended
    rw [SqlError.cause_withCaller] at blames
    exact ⟨_, blames⟩
  missingIndex index shape template arguments rows before row rest shown shaped brings answers keyed
      missing hashable writable := by
    have ended : reply (shape.get template arguments (some name)) state =
        .error (Database.missingIndex state.1.report (some name) index shown (entries row)) := by
      rw [Shape.reply_of_brings brings]
      obtain rfl | rfl := shaped <;>
      · rw [Shape.read, answers]
        exact through_of_missing_later hashable keyed missing writable []
    have blames := @blames_of_reply name (.get shape template arguments (some name))
      (.positional template arguments) state _ called rfl ended
    rwa [SqlError.cause_withCaller] at blames

/-- Who called is told once. A layer attaches its caller to the error that it hands on, and changes
nothing else; an error that passed through any layers, in any order, tells the first caller who has
a name, the one who made it included, and says so once at the end of its text and its message. Under
a name, an error in a query, a refused statement and a missing index are therefore reported with
that name, in what is raised and in the log, and no error of the library is reported without it. -/
theorem callers_told :
    (∀ (layer : Layer) caller world error handed,
      layer.HandsOn caller world error handed ↔ handed = error.withCaller caller) ∧
    (∀ cause caller layers error, Passes layers (SqlError.of cause caller) error →
      Tells cause (firstNamed caller (layers.map (·.2))) error) ∧
    ∀ name, name ≠ "" → ∀ state, Attributes name state :=
  ⟨fun _ _ _ _ _ => Callers.handsOn_iff,
    fun cause caller _ _ passes => Callers.tells_of_passes (Callers.tells_of cause caller) passes,
    fun _ called state => attributes called state⟩

/-- Two rows, the second of which has no cell in the only column. -/
def cutShort : Server.Rows :=
  ⟨some ["id"], [[.int 1], []], -1, .null, none⟩

theorem callers_told_cutShort :
    let name := "reports.py:42"
    let cause : SqlError.Cause := .stated .arityMismatch "too few"
    let layers : List (Layer × Option String) :=
      [(.direct, none), (.rendering, some ""), (.check ⟨.exception, true⟩, some name),
        (.surface ⟨.error, false⟩, some "late.py:1")]
    let state := served [⟨Binary64.zero false, .ok cutShort⟩]
    let refusing := served [⟨Binary64.zero false, .error (.refusal "locked")⟩]
    (∃ error, Passes layers (SqlError.of cause (some "")) error ∧ Tells cause (some name) error) ∧
    (∃ cause : SqlError.Cause, cause.family = .arityMismatch ∧
      Blames name cause state (Call.run (.positional (.text "SELECT ?i") []) (some name)).perform) ∧
    (∃ words, Blames name (.execution words "SELECT 1") refusing
      (Call.get .all (.text "SELECT 1") [] (some name)).perform) ∧
    Blames name (.missingIndex (.text "id") "id" []) state
      ((Shape.indexed (.text "id")).get (.text "SELECT 1") [] (some name)) := by
  intro name cause layers state refusing
  obtain ⟨hands, passed, attributed⟩ := callers_told
  have called : name ≠ "" := by decide
  refine ⟨?_, ?_, ?_, ?_⟩
  · have passes : Passes layers (SqlError.of cause (some "")) _ :=
      .step state.2 ((hands ..).mpr rfl) (.step state.2 ((hands ..).mpr rfl)
        (.step state.2 ((hands ..).mpr rfl) (.step state.2 ((hands ..).mpr rfl) (.done _))))
    exact ⟨_, passes, passed _ _ _ _ passes⟩
  · let query : Query := .positional (.text "SELECT ?i") []
    let segments : List Template.Segment :=
      [.literal "SELECT ".toList, .placeholder ⟨.integer, none, 7⟩]
    have text : Rendering.templateText (.text "SELECT ?i") = .ok "SELECT ?i" := rfl
    have read : Template.segments (state.1.dialect state.2) "SELECT ?i" = .ok segments := by
      decide +kernel
    have few : Rendering.Mismatched (Template.placeholders segments) [] := by decide
    obtain ⟨fault, refused⟩ := Rendering.positional_of_mismatched text read few (some name)
    have blames := (attributed name called state).rendering (.run query (some name)) query _ rfl
      (refused [] rfl)
    rw [SqlError.cause_withCaller] at blames
    exact ⟨_, rfl, blames⟩
  · have rendered : (Call.get .all (.text "SELECT 1") [] (some name)).rendered? refusing =
        some "SELECT 1" := by
      decide +kernel
    obtain ⟨_, _, ⟨⟩, parsed⟩ := Call.exists_query rendered
    exact (attributed name called refusing).execution _ _ _ "locked" rfl parsed rfl
  · have rendered : (Call.get .all (.text "SELECT 1") [] (some name)).rendered? state =
        some "SELECT 1" := by
      decide +kernel
    obtain ⟨_, _, ⟨⟩, parsed⟩ := Call.exists_query rendered
    have brings : Brings state (.positional (.text "SELECT 1") []) (some name) cutShort :=
      ⟨⟨_, 0, parsed, rfl⟩, rfl⟩
    have keyed : Keyed (.text "id") (.ok (.map [(.text "id", .int 1)] none)) :=
      ⟨_, .int 1, rfl, by simp [entries, Mapping.find?, Value.same_text], rfl⟩
    exact (attributed name called state).missingIndex (.text "id") _ _ _ _
      [.ok (.map [(.text "id", .int 1)] none)] (.map [] none) [] "id".toList (.inl rfl) brings rfl
      (by simpa using keyed) rfl rfl rfl

end SafeSql.Database
