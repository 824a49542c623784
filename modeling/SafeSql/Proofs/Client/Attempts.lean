import SafeSql.Client
import SafeSql.Proofs.Actions

/-!
# Attempts to connect and to execute

What the requests of a client to the server bring: how an attempt to connect, to execute a
statement or to read a row ends, what reaches the server, and what the client remembers of it.

## Main definitions

* `Server.Breakdown.raised` — the failure that a breakdown of the server is for a client.
* `Server.Script.nextConnection`, `Server.Script.nextReply` — what the server has in store.
* `Client.engineFault`, `Client.connectFault` — what stands in the way of a connection.
* `Client.setup` — the requests that set up a source of connections.

## Main statements

* `World.reply_connect`, `World.reply_execute`, `World.reply_fetch` — what requests bring.
* `World.reply_pause`, `World.after_pause` — a pause, unless the clock refuses to make it.
* `Client.reply_connect`, `Client.after_connect`, `Client.after_connect_of_fault`,
  `Client.after_close` — the connection.
* `Client.reply_execute`, `Client.after_execute` — an attempt to execute a statement.
* `Client.reply_execute_cases` — the ways in which such an attempt ends.
-/

namespace SafeSql

open SafeSql.Action (reply after)

/-- The failure that a breakdown of the server is for a client. -/
def Server.Breakdown.raised : Server.Breakdown → Failure
  | .refusal text => .driver text
  | .outage cause => cause.raised

/-- How the next attempt to connect goes. -/
def Server.Script.nextConnection (script : Server.Script) : Option Server.Breakdown :=
  script.connects.head?.join

/-- What the server answers to the next statement. -/
def Server.Script.nextReply (script : Server.Script) : Server.Reply :=
  script.replies.headD Server.Reply.none

namespace World

variable (world : World)

@[simp] theorem reply_nextConnect : reply nextConnect world = .ok world.script.nextConnection := by
  obtain ⟨clock, ⟨connects, replies, escape, engines⟩, cursors, trace, log, pauses⟩ := world
  cases connects <;> rfl

@[simp] theorem after_nextConnect : after nextConnect world =
    { world with script := { world.script with connects := world.script.connects.tail } } := by
  obtain ⟨clock, ⟨connects, replies, escape, engines⟩, cursors, trace, log, pauses⟩ := world
  cases connects <;> rfl

@[simp] theorem reply_nextReply : reply nextReply world = .ok world.script.nextReply := by
  obtain ⟨clock, ⟨connects, replies, escape, engines⟩, cursors, trace, log, pauses⟩ := world
  cases replies <;> rfl

@[simp] theorem after_nextReply : after nextReply world =
    { world with script := { world.script with replies := world.script.replies.tail } } := by
  obtain ⟨clock, ⟨connects, replies, escape, engines⟩, cursors, trace, log, pauses⟩ := world
  cases replies <;> rfl

@[simp] theorem reply_say (logger : String) (level : Log.Level) (message : String) :
    reply (say logger level message) world = .ok () := rfl

@[simp] theorem after_say (logger : String) (level : Log.Level) (message : String) :
    after (say logger level message) world =
      { world with log := world.log ++ [⟨logger, level, message, world.clock.time⟩] } := rfl

@[simp] theorem reply_request (event : Server.Event) : reply (request event) world = .ok () := rfl

@[simp] theorem after_request (event : Server.Event) :
    after (request event) world = { world with trace := world.trace ++ [event] } := rfl

@[simp] theorem reply_pause (length : Pause) : reply (pause length) world =
    match world.clock.refuses length with
    | none => .ok ()
    | some fault => .error (.pause fault) := by
  cases refused : world.clock.refuses length <;> simp [pause, advance, refused]

@[simp] theorem after_pause (length : Pause) : after (pause length) world =
    match world.clock.refuses length with
    | none =>
      { world with
        pauses := world.pauses ++ [length]
        clock := world.clock.advance length.seconds }
    | some _ => world := by
  cases refused : world.clock.refuses length <;> simp [pause, advance, refused]

@[simp] theorem reply_breakdown {α : Type} (broken : Server.Breakdown) :
    reply (breakdown broken : Action World (Except String α)) world =
      match broken with
      | .refusal text => .ok (.error text)
      | _ => .error broken.raised := by
  cases broken <;> rfl

@[simp] theorem after_breakdown {α : Type} (broken : Server.Breakdown) :
    after (breakdown broken : Action World (Except String α)) world = world := by
  cases broken <;> rfl

@[simp] theorem reply_createEngine (url : Url) (echo : Bool) :
    reply (createEngine url echo) world =
      match world.script.engines url.masked with
      | none => .ok (.ok ())
      | some (.refusal text) => .ok (.error text)
      | some broken => .error broken.raised := by
  cases broken : world.script.engines url.masked with
  | none => simp [createEngine, broken]
  | some broken' => cases broken' <;> simp [createEngine, broken]

@[simp] theorem after_createEngine (url : Url) (echo : Bool) :
    after (createEngine url echo) world =
      { world with
        trace := world.trace ++
          [match world.script.engines url.masked with
            | none => .createEngine url.text (engineOptions url echo)
            | some _ => .noEngine url.masked] } := by
  cases broken : world.script.engines url.masked <;> simp [createEngine, broken]

@[simp] theorem reply_connect : reply connect world =
    match world.script.nextConnection with
    | none => .ok (.ok ())
    | some (.refusal text) => .ok (.error text)
    | some broken => .error broken.raised := by
  have script : (after (request .connect) world).script = world.script := rfl
  rw [connect, Action.reply_bind, reply_request]
  dsimp only
  rw [Action.reply_bind, reply_nextConnect, script]
  cases world.script.nextConnection with
  | none => rfl
  | some broken => cases broken <;> rfl

@[simp] theorem after_connect : after connect world =
    { world with
      script := { world.script with connects := world.script.connects.tail }
      trace := world.trace ++ [.connect] } := by
  have script : (after (request .connect) world).script = world.script := rfl
  rw [connect, Action.after_bind, reply_request]
  dsimp only
  rw [Action.after_bind, reply_nextConnect, after_nextConnect, script]
  cases world.script.nextConnection <;> simp

@[simp] theorem reply_execute (sql : String) :
    reply (execute sql) world =
      match world.script.nextReply.outcome with
      | .ok _ => .ok (.ok world.cursors.length)
      | .error (.refusal text) => .ok (.error text)
      | .error broken => .error broken.raised := by
  cases outcome : world.script.nextReply.outcome with
  | ok rows => simp [execute, advance, outcome]
  | error broken => cases broken <;> simp [execute, advance, outcome]

@[simp] theorem after_execute (sql : String) :
    after (execute sql) world =
      { world with
        clock := world.clock.advance world.script.nextReply.took
        script := { world.script with replies := world.script.replies.tail }
        trace := world.trace ++ [.execute sql]
        cursors :=
          match world.script.nextReply.outcome with
          | .ok rows => world.cursors ++ [⟨rows, 0⟩]
          | .error _ => world.cursors } := by
  cases outcome : world.script.nextReply.outcome with
  | ok rows => simp [execute, advance, outcome]
  | error broken => simp [execute, advance, outcome]

section Reading

variable (result : Nat)

theorem cursor_request (event : Server.Event) :
    (after (request event) world).cursor result = world.cursor result := rfl

/-- The next row, unless the reading fails; there is none after the last one. -/
@[simp] theorem reply_fetch : reply (fetch result) world =
    match (world.cursor result).rows.outage? (world.cursor result).read with
    | some outage => .error outage.raised
    | none => .ok (world.cursor result).rows.rows[(world.cursor result).read]? := by
  rw [← cursor_request world result (.fetch result)]
  simp only [fetch, Action.reply_bind, reply_request, Action.reply_get, Action.after_get]
  generalize (after (request (.fetch result)) world).cursor result = cursor
  cases cursor.rows.outage? cursor.read with
  | some outage => rfl
  | none => cases cursor.rows.rows[cursor.read]? <;> rfl

@[simp] theorem after_fetch : after (fetch result) world =
    { world with
      trace := world.trace ++ [.fetch result]
      cursors :=
        match (world.cursor result).rows.outage? (world.cursor result).read with
        | some _ => world.cursors
        | none =>
          match (world.cursor result).rows.rows[(world.cursor result).read]? with
          | none => world.cursors
          | some _ =>
            world.cursors.set result
              ⟨(world.cursor result).rows, (world.cursor result).read + 1⟩ } := by
  rw [← cursor_request world result (.fetch result)]
  simp only [fetch, Action.after_bind, reply_request, Action.reply_get, Action.after_get]
  generalize (after (request (.fetch result)) world).cursor result = cursor
  cases cursor.rows.outage? cursor.read with
  | some outage => rfl
  | none => cases cursor.rows.rows[cursor.read]? <;> rfl

end Reading

end World

namespace Client

variable (client : Client) (world : World)

/-- The requests that set up a source of connections, when there is none. -/
def setup : List Server.Event :=
  if client.hasEngine then []
  else [.createEngine client.url.text (World.engineOptions client.url client.echo)]

/-- Why there is no source of connections and none can be set up. -/
def engineFault (script : Server.Script) : Option Server.Breakdown :=
  if client.hasEngine then none else script.engines client.url.masked

/-- What stands in the way of a connection: there is nothing to ask for one, or the server does not
grant it. -/
def connectFault (script : Server.Script) : Option Server.Breakdown :=
  (client.engineFault script).or script.nextConnection

variable {client} in
theorem engineFault_eq_some {script : Server.Script} {broken : Server.Breakdown} :
    client.engineFault script = some broken ↔
      client.hasEngine = false ∧ script.engines client.url.masked = some broken := by
  cases engine : client.hasEngine <;> simp [engineFault, engine]

@[simp] theorem reply_ensureEngine : reply ensureEngine (client, world) =
    match client.engineFault world.script with
    | none => .ok (.ok ())
    | some (.refusal text) => .ok (.error text)
    | some broken => .error broken.raised := by
  cases engine : client.hasEngine with
  | true => simp [ensureEngine, engineFault, engine]
  | false =>
    cases fault : world.script.engines client.url.masked with
    | none => simp [ensureEngine, engineFault, engine, fault]
    | some broken => cases broken <;> simp [ensureEngine, engineFault, engine, fault]

@[simp] theorem after_ensureEngine : after ensureEngine (client, world) =
    match client.engineFault world.script with
    | none =>
      ({ client with hasEngine := true }, { world with trace := world.trace ++ client.setup })
    | some _ =>
      (client, { world with trace := world.trace ++ [.noEngine client.url.masked] }) := by
  obtain ⟨url, dialect, echo, hasEngine, connected, lastResult, lastError⟩ := client
  cases hasEngine with
  | true => simp [ensureEngine, engineFault, setup]
  | false =>
    cases fault : world.script.engines url.masked with
    | none => simp [ensureEngine, engineFault, setup, fault]
    | some broken => cases broken <;> simp [ensureEngine, engineFault, fault]

/-- An attempt to connect ends as the server answers it, unless there is a connection. -/
theorem reply_connect : reply connect (client, world) =
    if client.connected then .ok ()
    else
      match client.connectFault world.script with
      | none => .ok ()
      | some broken => .error broken.raised := by
  cases connected : client.connected with
  | true => simp [connect, connected]
  | false =>
    cases fault : client.engineFault world.script with
    | some broken =>
      cases broken <;>
        simp [connect, openConnection, connected, connectFault, fault, Server.Breakdown.raised]
    | none =>
      cases next : world.script.nextConnection with
      | none => simp [connect, openConnection, connected, connectFault, fault, next]
      | some broken =>
        cases broken <;>
          simp [connect, openConnection, connected, connectFault, fault, next,
            Server.Breakdown.raised]

theorem after_connect_of_connected (connected : client.connected) :
    after connect (client, world) = (client, world) := by
  simp [connect, connected]

/-- A client without a connection sets up a source of connections and asks it for one. It keeps
the words of a refusal. -/
theorem after_connect (disconnected : client.connected = false)
    (ready : client.engineFault world.script = none) :
    ∃ log, after connect (client, world) =
      (match world.script.nextConnection with
        | none => { client with hasEngine := true, connected := true }
        | some (.refusal text) => { client with hasEngine := true, lastError := some text }
        | some _ => { client with hasEngine := true },
        { world with
          script := { world.script with connects := world.script.connects.tail }
          trace := world.trace ++ client.setup ++ .connect ::
            (if world.script.nextConnection = none then [.autocommit] else [])
          log := log }) := by
  cases next : world.script.nextConnection with
  | none => exact ⟨_, by simp [connect, openConnection, disconnected, ready, next]; rfl⟩
  | some broken =>
    refine ⟨world.log, ?_⟩
    cases broken <;> simp [connect, openConnection, disconnected, ready, next]

/-- The client keeps the words of a refusal. -/
def told : Server.Breakdown → Client
  | .refusal text => { client with lastError := some text }
  | .outage _ => client

/-- Where no source of connections can be set up, none is asked for a connection. -/
theorem after_connect_of_fault (disconnected : client.connected = false)
    {broken : Server.Breakdown} (fault : client.engineFault world.script = some broken) :
    after connect (client, world) =
      (client.told broken,
        { world with trace := world.trace ++ [.noEngine client.url.masked] }) := by
  cases broken <;> simp [connect, openConnection, disconnected, fault, told]

@[simp] theorem reply_close : reply close (client, world) = .ok () := by
  cases connected : client.connected <;> cases engine : client.hasEngine <;>
    simp [close, connected, engine]

theorem after_close : after close (client, world) =
    ({ client with connected := false },
      { world with
        trace := world.trace ++ (if client.connected then [.close] else []) ++
          (if client.hasEngine then [.dispose] else []) }) := by
  obtain ⟨url, dialect, echo, hasEngine, connected, lastResult, lastError⟩ := client
  cases connected <;> cases hasEngine <;> simp [close]

/-- An attempt to execute a statement ends as the server answers it, if there is a connection. -/
theorem reply_execute (sql : String) :
    reply (execute sql) (client, world) =
      if client.connected then
        match world.script.nextReply.outcome with
        | .ok _ => .ok world.cursors.length
        | .error broken => .error broken.raised
      else .error (.driver notConnected) := by
  cases connected : client.connected with
  | false => simp [execute, connected]
  | true =>
    cases outcome : world.script.nextReply.outcome with
    | ok rows => simp [execute, connected, outcome]
    | error broken =>
      cases broken <;> simp [execute, connected, outcome, Server.Breakdown.raised]

/-- A statement brings a result, is refused, fails or is interrupted. -/
theorem reply_execute_cases (sql : String) (state : Client × World) :
    (∃ result, reply (execute sql) state = .ok result) ∨
      (∃ text, reply (execute sql) state = .error (.driver text)) ∨
      (∃ kind text, reply (execute sql) state = .error (.server kind text)) ∨
      ∃ text, reply (execute sql) state = .error (.interrupt text) := by
  obtain ⟨client, world⟩ := state
  rw [reply_execute]
  cases client.connected with
  | false => simp
  | true =>
    cases world.script.nextReply.outcome with
    | ok rows => simp
    | error broken =>
      rcases broken with text | ⟨⟨kind, text⟩ | text⟩ <;>
        simp [Server.Breakdown.raised, Server.Outage.raised]

/-- The client keeps the words of a refusal, and forgets them once a statement is executed. -/
theorem after_execute (sql : String) :
    after (execute sql) (client, world) =
      if client.connected then
        (match world.script.nextReply.outcome with
          | .ok _ => { client with lastError := none, lastResult := some world.cursors.length }
          | .error (.refusal text) => { client with lastError := some text }
          | .error _ => client,
          after (World.execute sql) world)
      else (client, world) := by
  cases connected : client.connected with
  | false => simp [execute, connected]
  | true =>
    cases outcome : world.script.nextReply.outcome with
    | ok rows => simp [execute, connected, outcome]
    | error broken => cases broken <;> simp [execute, connected, outcome]

end Client

end SafeSql
