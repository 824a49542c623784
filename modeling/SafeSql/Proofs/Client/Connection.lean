import SafeSql.Proofs.Client.Calls

/-!
# The connection of a client

Seen from the server, a client goes through the states of a small machine: it sets up a source of
connections once, opens a connection only while none is open, and sends statements only while one
is. The requests of a client are a run of that machine, whatever is asked of the client, and the
machine ends in the state that the client is in.

## Main definitions

* `Server.Link`, `Server.Link.step`, `Server.Link.run` — the machine.
* `Server.openConnections` — how many connections a trace leaves open.
* `Client.link` — the state of the machine that a client is in.
* `Client.Answers` — how a client takes the calls that concern its connection.

## Main statements

* `Server.Link.connected_of_run`, `Server.Link.engines_of_run` — what a run of the machine opens.
* `Client.follows_perform`, `Client.follows_runAll` — the requests of a client are such a run.
* `Client.connection_machine` — the connection of a client after any calls.
-/

namespace SafeSql

open SafeSql.Action (reply after Keeps)

namespace Server

/-- What a server has in store, how far a client is connected to it, and what the last statement
brought that was executed. -/
structure Link where
  script : Script
  hasEngine : Bool
  connected : Bool
  lastRows : Option Rows

/-- How many connections are open after a trace: those that were granted, less those that were
closed. -/
def openConnections : List (Option Breakdown) → List Event → Int
  | _, [] => 0
  | connects, .connect :: events =>
    connects.head?.join.isNone.toInt + openConnections connects.tail events
  | connects, .close :: events => openConnections connects events - 1
  | connects, _ :: events => openConnections connects events

@[simp] def Event.createsEngine : Event → Bool
  | .createEngine .. => true
  | _ => false

namespace Link

/-- The link after a request. A request that is out of order, as a statement without a connection
or a connection beside another one, has no state after it. -/
def step (link : Link) : Event → Option Link
  | .createEngine .. => if link.hasEngine then none else some { link with hasEngine := true }
  | .noEngine url =>
    if !link.hasEngine && (link.script.engines url).isSome then some link else none
  | .connect =>
    if link.hasEngine && !link.connected then
      some { link with
        script := { link.script with connects := link.script.connects.tail }
        connected := link.script.nextConnection.isNone }
    else none
  | .autocommit => if link.connected then some link else none
  | .execute _ =>
    if link.connected then
      some { link with
        script := { link.script with replies := link.script.replies.tail }
        lastRows :=
          match link.script.nextReply.outcome with
          | .ok rows => some rows
          | .error _ => link.lastRows }
    else none
  | .close => if link.connected then some { link with connected := false } else none
  | .dispose => if link.hasEngine && !link.connected then some link else none
  | .fetch _ | .free _ => some link

def run (link : Link) (events : List Event) : Option Link :=
  events.foldlM step link

variable {link later : Link} {events : List Event}

@[simp] theorem run_nil : link.run [] = some link := rfl

@[simp] theorem run_cons (event : Event) (events : List Event) :
    link.run (event :: events) = (link.step event).bind (·.run events) := rfl

theorem run_append (first second : List Event) :
    link.run (first ++ second) = (link.run first).bind (·.run second) :=
  List.foldlM_append

theorem run_of_isReading (reading : ∀ event ∈ events, event.isReading) :
    link.run events = some link := by
  induction events with
  | nil => rfl
  | cons event events ih =>
    obtain ⟨first, rest⟩ := List.forall_mem_cons.mp reading
    have same : link.step event = some link := by
      cases event <;> first | rfl | nomatch first
    rw [run_cons, same, Option.bind_some, ih rest]

/-- A run opens one connection more than it closes, or as many. -/
theorem connected_of_run (run : link.run events = some later) :
    later.connected.toInt = link.connected.toInt + openConnections link.script.connects events := by
  induction events generalizing link with
  | nil =>
    cases run
    simp [openConnections]
  | cons event events ih =>
    rw [run_cons, Option.bind_eq_some_iff] at run
    obtain ⟨next, stepped, run⟩ := run
    rw [ih run]
    obtain ⟨script, hasEngine, connected, lastRows⟩ := link
    cases event <;> grind [step, openConnections, Script.nextConnection]

/-- A run sets up a source of connections where there is none, and no other one. -/
theorem engines_of_run (run : link.run events = some later) :
    later.hasEngine.toNat = link.hasEngine.toNat + events.countP Event.createsEngine := by
  induction events generalizing link with
  | nil =>
    cases run
    rfl
  | cons event events ih =>
    rw [run_cons, Option.bind_eq_some_iff] at run
    obtain ⟨next, stepped, run⟩ := run
    rw [ih run]
    obtain ⟨script, hasEngine, connected, lastRows⟩ := link
    cases event <;> grind [step, Event.createsEngine]

/-- A run that begins without a connection never has more than one open. -/
theorem openConnections_of_run (disconnected : link.connected = false)
    (run : link.run events = some later) :
    openConnections link.script.connects events = later.connected.toInt := by
  rw [connected_of_run run, disconnected]
  exact (Int.zero_add _).symm

/-- Whatever a run ends with, it gets that far in order. -/
theorem exists_of_run_append {first second : List Event}
    (run : link.run (first ++ second) = some later) :
    ∃ between, link.run first = some between ∧ between.run second = some later := by
  rwa [run_append, Option.bind_eq_some_iff] at run

end Link

end Server

namespace World

/-- The results stay what they are, however far they were read. -/
def SameRows (before now : World) : Prop :=
  now.cursors.map (·.rows) = before.cursors.map (·.rows)

instance : IsPreorder World SameRows where
  refl _ := rfl
  trans _ _ _ first second := second.trans first

theorem rows_cursor (world : World) (result : Nat) :
    (world.cursor result).rows =
      ((world.cursors.map (·.rows))[result]?).getD Server.Rows.none := by
  rw [cursor, List.getElem?_map]
  cases world.cursors[result]? <;> rfl

theorem sameRows_fetch (result : Nat) : Keeps SameRows (fetch result) := by
  intro world
  rw [after_fetch, SameRows]
  dsimp only
  split
  · rfl
  split
  · rfl
  · rw [List.map_set]
    by_cases known : result < world.cursors.length
    · have same : world.cursor result = world.cursors[result] := by simp [cursor, known]
      have bound : result < (world.cursors.map (·.rows)).length := by simpa using known
      have rows : world.cursors[result].rows = (world.cursors.map (·.rows))[result] := by simp
      rw [same, rows, List.set_getElem_self]
    · exact List.set_eq_of_length_le (by simpa using known)

theorem sameRows_free (result : Nat) : Keeps SameRows (free result) :=
  fun _ => rfl

end World

namespace Client

/-- The state of the machine that a client is in. -/
def link (state : Client × World) : Server.Link where
  script := state.2.script
  hasEngine := state.1.hasEngine
  connected := state.1.connected
  lastRows := state.1.lastResult.bind fun result => (state.2.cursors.map (·.rows))[result]?

/-- The requests that are made meanwhile are in order, and lead to where the client is. -/
def Follows (before now : Client × World) : Prop :=
  ∃ events, now.2.trace = before.2.trace ++ events ∧ (link before).run events = some (link now)

instance : IsPreorder (Client × World) Follows where
  refl state := ⟨[], by simp⟩
  trans before now later := by
    rintro ⟨first, traceFirst, runFirst⟩ ⟨second, traceSecond, runSecond⟩
    refine ⟨first ++ second, ?_, ?_⟩
    · rw [traceSecond, traceFirst, List.append_assoc]
    · rw [Server.Link.run_append, runFirst, Option.bind_some, runSecond]

theorem follows_connect : Keeps Follows connect := by
  rintro ⟨client, world⟩
  cases connected : client.connected with
  | true =>
    rw [after_connect_of_connected client world connected]
    exact refl_of Follows _
  | false =>
    cases fault : client.engineFault world.script with
    | some broken =>
      rw [after_connect_of_fault client world connected fault]
      refine ⟨[.noEngine client.url.masked], rfl, ?_⟩
      obtain ⟨engine, reason⟩ := engineFault_eq_some.mp fault
      cases broken <;> simp [link, Server.Link.step, connected, engine, reason, told]
    | none =>
      obtain ⟨log, left⟩ := after_connect client world connected fault
      rw [left]
      refine ⟨client.setup ++ .connect :: _, List.append_assoc .., ?_⟩
      cases engine : client.hasEngine <;> cases next : world.script.nextConnection with
      | none => simp [setup, link, Server.Link.step, connected, engine, next]
      | some broken =>
        cases broken <;> simp [setup, link, Server.Link.step, connected, engine, next]

theorem follows_execute (sql : String) : Keeps Follows (execute sql) := by
  rintro ⟨client, world⟩
  rw [after_execute]
  split
  next connected =>
    refine ⟨[.execute sql], by simp, ?_⟩
    cases outcome : world.script.nextReply.outcome with
    | ok rows => simp [link, Server.Link.step, connected, outcome]
    | error broken => cases broken <;> simp [link, Server.Link.step, connected, outcome]
  · exact refl_of Follows _

theorem follows_close : Keeps Follows close := by
  rintro ⟨client, world⟩
  rw [after_close]
  refine ⟨_, List.append_assoc .., ?_⟩
  cases connected : client.connected <;> cases engine : client.hasEngine <;>
    simp [link, Server.Link.step, connected, engine]

theorem follows_perform (call : Call) : Keeps Follows call.perform := by
  have reading (same : call.isReading) : Keeps Follows call.perform := by
    intro state
    obtain ⟨client, script, events, trace, reading⟩ := quiet_perform same state
    obtain ⟨-, rows⟩ := beside_perform World.sameRows_fetch World.sameRows_free same state
    refine ⟨events, trace, ?_⟩
    rw [Server.Link.run_of_isReading reading, link, link, client, script, rows]
  cases call with
  | connect => exact follows_connect
  | execute sql => exact follows_execute sql
  | close => exact follows_close
  | _ => exact reading rfl

/-- The state to which calls lead, one after another. -/
def runAll (calls : List Call) (state : Client × World) : Client × World :=
  calls.foldl (fun state call => after call.perform state) state

theorem follows_runAll (calls : List Call) (state : Client × World) :
    Follows state (runAll calls state) := by
  induction calls generalizing state with
  | nil => exact refl_of Follows state
  | cons call calls ih => exact trans_of Follows (follows_perform call state) (ih _)

/-- What is read of the last statement that was executed is read of its result. -/
theorem read_lastRows {α : Type} (read : Server.Rows → α) (state : Client × World) :
    ((link state).lastRows.map read).getD (read .none) =
      match state.1.lastResult with
      | none => read .none
      | some result => read (state.2.cursor result).rows := by
  rw [link]
  cases state.1.lastResult with
  | none => rfl
  | some result =>
    simp only [World.rows_cursor, Option.bind_some]
    cases (state.2.cursors.map (·.rows))[result]? <;> rfl

/-- How a client takes the calls that concern its connection. -/
structure Answers (state : Client × World) : Prop where
  /-- Without a connection a statement is refused, and nothing is asked of the server. -/
  execute_disconnected (sql : String) : state.1.connected = false →
    reply (execute sql) state = .error (.driver notConnected) ∧ after (execute sql) state = state
  connect_connected : state.1.connected → reply connect state = .ok () ∧ after connect state = state
  /-- Without a connection there is one afterwards exactly when there is a source of connections,
  or one can be set up, and the server grants it. -/
  connect_disconnected : state.1.connected = false →
    (after connect state).1.connected = (state.1.connectFault state.2.script).isNone ∧
      (reply connect state = .ok () ↔ state.1.connectFault state.2.script = none)
  close : reply close state = .ok () ∧
    (after close state).1 = { state.1 with connected := false } ∧
    (after close state).2.trace = state.2.trace ++ (if state.1.connected then [.close] else []) ++
      (if state.1.hasEngine then [.dispose] else [])
  /-- A statement that fails leaves everything but the last error, and what the last statement
  brought that was executed. -/
  execute_failed (sql : String) (failure : Failure) : reply (execute sql) state = .error failure →
    (∃ error, (after (execute sql) state).1 = { state.1 with lastError := error }) ∧
      (link (after (execute sql) state)).lastRows = (link state).lastRows
  affectedRows : reply affectedRows state =
    .ok (((link state).lastRows.map (·.rowCount)).getD (-1))
  insertId : reply insertId state = .ok (((link state).lastRows.map (·.lastRowId)).getD .null)

theorem answers (state : Client × World) : Answers state := by
  obtain ⟨client, world⟩ := state
  constructor
  case execute_disconnected =>
    intro sql disconnected
    rw [reply_execute, after_execute]
    simp_all
  case connect_connected =>
    intro connected
    rw [reply_connect, after_connect_of_connected client world connected]
    simp_all
  case connect_disconnected =>
    intro disconnected
    rw [reply_connect, connectFault]
    cases fault : client.engineFault world.script with
    | some broken =>
      rw [after_connect_of_fault client world disconnected fault]
      cases broken <;> simp_all [told]
    | none =>
      obtain ⟨log, left⟩ := after_connect client world disconnected fault
      rw [left]
      cases next : world.script.nextConnection with
      | none => simp_all
      | some broken => cases broken <;> simp_all
  case close => exact ⟨reply_close client world, by rw [after_close], by rw [after_close]⟩
  case execute_failed =>
    intro sql failure failed
    rw [reply_execute] at failed
    rw [after_execute]
    obtain ⟨url, dialect, echo, hasEngine, connected, lastResult, lastError⟩ := client
    cases connected with
    | false => exact ⟨⟨lastError, rfl⟩, rfl⟩
    | true =>
      cases outcome : world.script.nextReply.outcome with
      | ok rows => simp [outcome] at failed
      | error broken =>
        constructor
        · cases broken with
          | refusal text => exact ⟨some text, rfl⟩
          | outage => exact ⟨lastError, rfl⟩
        · cases broken <;> simp [link, outcome]
  case affectedRows =>
    have brought : ((link (client, world)).lastRows.map (·.rowCount)).getD (-1) = _ :=
      read_lastRows (·.rowCount) (client, world)
    rw [brought]
    cases last : client.lastResult <;> simp [affectedRows, last, Server.Rows.none]
  case insertId =>
    have brought : ((link (client, world)).lastRows.map (·.lastRowId)).getD .null = _ :=
      read_lastRows (·.lastRowId) (client, world)
    rw [brought]
    cases last : client.lastResult <;> simp [insertId, last, Server.Rows.none]

/-- The connection of a client, whatever is asked of the client from the moment when it is made,
and whatever the server does. Its requests are in order. At no time is more than one connection
open, and one is open whenever a statement reaches the server. A source of connections is set
up once at most, and not at all where one was given. The calls are answered as the state of the
connection says, and what the last statement brought that was executed is known across all
others. -/
theorem connection_machine {url : Url} {echo given : Bool} {client : Client}
    (made : create url echo given = .ok client) (clock : Clock) (script : Server.Script)
    (calls : List Call) :
    let now := runAll calls (client, World.start clock script)
    (⟨script, given, false, none⟩ : Server.Link).run now.2.trace = some (link now) ∧
      (∀ before later, now.2.trace = before ++ later →
        Server.openConnections script.connects before ∈ [0, 1]) ∧
      (∀ before sql later, now.2.trace = before ++ .execute sql :: later →
        Server.openConnections script.connects before = 1) ∧
      now.2.trace.countP Server.Event.createsEngine ≤ (if given then 0 else 1) ∧
      Answers now := by
  intro now
  have run : (⟨script, given, false, none⟩ : Server.Link).run now.2.trace = some (link now) := by
    obtain ⟨dialect, -, fresh⟩ := Except.bind_eq_ok.mp made
    cases fresh
    obtain ⟨events, trace, run⟩ := follows_runAll calls
      (⟨url, dialect, echo, given, false, none, none⟩, World.start clock script)
    rwa [show now.2.trace = events from trace]
  refine ⟨run, ?_, ?_, ?_, answers now⟩
  · intro before later trace
    rw [trace] at run
    obtain ⟨between, run, -⟩ := Server.Link.exists_of_run_append run
    rw [Server.Link.openConnections_of_run rfl run]
    cases between.connected <;> decide
  · intro before sql later trace
    rw [trace] at run
    obtain ⟨between, run, rest⟩ := Server.Link.exists_of_run_append run
    -- the machine does not take a statement without a connection
    have connected : between.connected = true := by
      cases connected : between.connected with
      | true => rfl
      | false => simp [Server.Link.step, connected] at rest
    rw [Server.Link.openConnections_of_run rfl run, connected]
    rfl
  · have engines := Server.Link.engines_of_run run
    have atMost := Bool.toNat_le (link now).hasEngine
    cases given with
    | true =>
      rw [if_pos rfl]
      simp only [Bool.toNat_true] at engines
      omega
    | false =>
      rw [if_neg Bool.false_ne_true]
      simp only [Bool.toNat_false] at engines
      omega

/-- A client without a connection, for a database in memory. -/
def inMemory : Client :=
  ⟨⟨"sqlite", none, none, none, none, some ":memory:", []⟩, .sqlite, false, false, false, none,
    none⟩

/-- A statement that was executed is known after a refused one, and on a new connection from the
same source. -/
theorem connection_machine_reconnected :
    let calls : List Call :=
      [.connect, .execute "DELETE FROM t", .execute "SELECT", .close, .execute "SELECT 1", .connect]
    let replies : List Server.Reply :=
      [⟨Binary64.zero false, .ok ⟨none, [], 3, .null, none⟩⟩,
        ⟨Binary64.zero false, .error (.refusal "syntax error")⟩]
    let script : Server.Script := { Server.Script.idle with replies := replies }
    let now := runAll calls (inMemory, World.start .zero script)
    create inMemory.url false false = .ok inMemory ∧
      now.2.trace.countP Server.Event.createsEngine ≤ 1 ∧ now.1.connected ∧
      reply affectedRows now = .ok 3 := by
  intro calls replies script now
  have made : create inMemory.url false false = .ok inMemory := rfl
  obtain ⟨-, -, -, engines, answers⟩ :=
    connection_machine made .zero script calls
  refine ⟨made, engines, by decide +kernel, ?_⟩
  rw [answers.affectedRows]
  rfl

end Client

end SafeSql
