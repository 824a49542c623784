import SafeSql.Proofs.Client.Attempts

/-!
# Calls of a client

Everything that can be asked of a client, and what the client remembers of it: its last error is
the last refusal that its requests to the server met with, unless a statement was executed since.

## Main definitions

* `Client.Call`, `Client.Call.perform` — what can be asked of a client.
* `World.Reads`, `World.Quiet` — a step that only reads results.
* `Server.hear`, `Server.lastRefusal` — what requests meet with, and the last refusal among it.
* `Client.Remembers` — the last error of a client follows its requests to the server.
* `Client.Session` — a client and the world as calls lead to them.

## Main statements

* `Client.remembers_perform` — a client remembers the last refusal, whatever is asked of it.
* `Client.Session.heard` — the last error of a client is the last refusal.
-/

namespace SafeSql

open SafeSql.Action (reply after Keeps)

/-- Whether a request goes through a result, rather than to the connection. -/
def Server.Event.isReading : Server.Event → Bool
  | .fetch _ | .free _ => true
  | _ => false

namespace World

/-- Nothing reaches the server but requests for the rows of results. -/
structure Reads (before now : World) : Prop where
  script : now.script = before.script
  trace : ∃ events, now.trace = before.trace ++ events ∧ ∀ event ∈ events, event.isReading

instance : IsPreorder World Reads where
  refl world := ⟨rfl, [], by simp⟩
  trans before now later := by
    rintro ⟨script, events, trace, reading⟩ ⟨script', events', trace', reading'⟩
    refine ⟨script'.trans script, events ++ events', ?_, ?_⟩
    · rw [trace', trace, List.append_assoc]
    · intro event mem
      rcases List.mem_append.mp mem with mem | mem
      · exact reading event mem
      · exact reading' event mem

theorem reads_say (logger : String) (level : Log.Level) (message : String) :
    Keeps Reads (say logger level message) :=
  fun _ => ⟨rfl, [], by simp⟩

theorem reads_fetch (result : Nat) : Keeps Reads (fetch result) := by
  intro world
  exact ⟨by simp, [.fetch result], by simp, by simp [Server.Event.isReading]⟩

theorem reads_free (result : Nat) : Keeps Reads (free result) :=
  fun _ => ⟨rfl, [.free result], rfl, by simp [Server.Event.isReading]⟩

/-- The world changes in a certain way only, and the state beside it stays as it is. -/
def Beside {σ : Type} (R : World → World → Prop) (before now : σ × World) : Prop :=
  now.1 = before.1 ∧ R before.2 now.2

instance {σ : Type} {R : World → World → Prop} [IsPreorder World R] :
    IsPreorder (σ × World) (Beside R) where
  refl _ := ⟨rfl, refl_of R _⟩
  trans _ _ _ first second := ⟨second.1.trans first.1, trans_of R first.2 second.2⟩

theorem beside_onWorld {σ α : Type} {R : World → World → Prop} {action : Action World α}
    (kept : Keeps R action) : Keeps (Beside R) (Action.onWorld action : Action (σ × World) α) :=
  kept.within fun _ _ kept => ⟨rfl, kept⟩

/-- Only results are read, and the state beside the world stays as it is. -/
def Quiet {σ : Type} (before now : σ × World) : Prop :=
  now.1 = before.1 ∧ Reads before.2 now.2

instance {σ : Type} : IsPreorder (σ × World) Quiet :=
  inferInstanceAs (IsPreorder (σ × World) (Beside Reads))

theorem quiet_onWorld {σ α : Type} {action : Action World α} (reads : Keeps Reads action) :
    Keeps Quiet (Action.onWorld action : Action (σ × World) α) :=
  beside_onWorld reads

end World

namespace Server

/-- A request meets with what the server has in store, and its refusals are remembered. A statement
that is executed makes up for the refusals before it. -/
def hear : Script × Option String → Event → Script × Option String
  | (script, refusal), .noEngine url =>
    (script,
      match script.engines url with
      | some (.refusal text) => some text
      | _ => refusal)
  | (script, refusal), .connect =>
    ({ script with connects := script.connects.tail },
      match script.nextConnection with
      | some (.refusal text) => some text
      | _ => refusal)
  | (script, refusal), .execute _ =>
    ({ script with replies := script.replies.tail },
      match script.nextReply.outcome with
      | .ok _ => none
      | .error (.refusal text) => some text
      | .error _ => refusal)
  | heard, _ => heard

/-- The last refusal that the requests of a trace met with, unless a statement was executed
since. -/
def lastRefusal (script : Script) (trace : List Event) : Option String :=
  (trace.foldl hear (script, none)).2

theorem hear_of_isReading {event : Event} (reading : event.isReading)
    (heard : Script × Option String) : hear heard event = heard := by
  cases event <;> simp_all [Event.isReading, hear]

theorem foldl_hear_of_isReading {events : List Event}
    (reading : ∀ event ∈ events, event.isReading) (heard : Script × Option String) :
    events.foldl hear heard = heard := by
  induction events with
  | nil => rfl
  | cons event events ih =>
    obtain ⟨first, rest⟩ := List.forall_mem_cons.mp reading
    rw [List.foldl_cons, hear_of_isReading first, ih rest]

end Server

namespace Client

/-- The last error of a client follows the requests that are made meanwhile. -/
def Remembers (before now : Client × World) : Prop :=
  ∃ events, now.2.trace = before.2.trace ++ events ∧
    events.foldl Server.hear (before.2.script, before.1.lastError) =
      (now.2.script, now.1.lastError)

instance : IsPreorder (Client × World) Remembers where
  refl state := ⟨[], by simp⟩
  trans before now later := by
    rintro ⟨first, traceFirst, heardFirst⟩ ⟨second, traceSecond, heardSecond⟩
    refine ⟨first ++ second, ?_, ?_⟩
    · rw [traceSecond, traceFirst, List.append_assoc]
    · rw [List.foldl_append, heardFirst, heardSecond]

/-- Reading results brings no news of statements. -/
theorem remembers_of_quiet {before now : Client × World} (quiet : World.Quiet before now) :
    Remembers before now := by
  obtain ⟨client, script, events, trace, reading⟩ := quiet
  exact ⟨events, trace, by rw [Server.foldl_hear_of_isReading reading, script, client]⟩

theorem remembers_onWorld {α : Type} {action : Action World α} (reads : Keeps World.Reads action) :
    Keeps Remembers (Action.onWorld action : Action (Client × World) α) :=
  fun state => remembers_of_quiet (World.quiet_onWorld reads state)

@[simp] theorem foldl_hear_setup (client : Client) (heard : Server.Script × Option String) :
    client.setup.foldl Server.hear heard = heard := by
  unfold setup
  split <;> rfl

/-- A refused connection is remembered, and an open one makes up for no refusal. -/
theorem remembers_connect : Keeps Remembers connect := by
  rintro ⟨client, world⟩
  cases connected : client.connected with
  | true =>
    rw [after_connect_of_connected client world connected]
    exact refl_of Remembers _
  | false =>
    cases fault : client.engineFault world.script with
    | some broken =>
      rw [after_connect_of_fault client world connected fault]
      refine ⟨[.noEngine client.url.masked], rfl, ?_⟩
      have driver := (engineFault_eq_some.mp fault).2
      cases broken <;> simp [Server.hear, driver, told]
    | none =>
      obtain ⟨log, left⟩ := after_connect client world connected fault
      rw [left]
      refine ⟨client.setup ++ .connect :: _, List.append_assoc .., ?_⟩
      cases next : world.script.nextConnection with
      | none => simp [next, Server.hear]
      | some broken => cases broken <;> simp [next, Server.hear]

/-- A refused statement is remembered, and an executed one makes up for the refusals before. -/
theorem remembers_execute (sql : String) : Keeps Remembers (execute sql) := by
  rintro ⟨client, world⟩
  rw [after_execute]
  split
  · refine ⟨[.execute sql], ?_⟩
    cases outcome : world.script.nextReply.outcome with
    | ok rows => simp [outcome, Server.hear]
    | error broken => cases broken <;> simp [outcome, Server.hear]
  · exact refl_of Remembers _

theorem remembers_close : Keeps Remembers close := by
  rintro ⟨client, world⟩
  rw [after_close]
  refine ⟨_, List.append_assoc .., ?_⟩
  cases client.connected <;> cases client.hasEngine <;> rfl

/-- What can be asked of a client. -/
inductive Call
  | connect
  | execute (sql : String)
  | escape (text : List Char)
  | fetchRow (result : Nat) (mode : RowMode)
  | columnNames (result : Nat)
  | affectedRows
  | insertId
  | rowCount (result : Nat)
  | lastError
  | free (result : Nat)
  | close

namespace Call

/-- The answer to a call that does not fail. -/
abbrev Answer : Call → Type
  | .connect | .free _ | .close => Unit
  | .execute _ => Nat
  | .escape _ => List Char
  | .fetchRow .. => Option Value
  | .columnNames _ => List String
  | .affectedRows | .rowCount _ => Int
  | .insertId => Value
  | .lastError => Option String

def perform : (call : Call) → Action (Client × World) call.Answer
  | .connect => Client.connect
  | .execute sql => Client.execute sql
  | .escape text => do
    let (client, world) ← get
    return client.escape world text
  | .fetchRow result mode => Client.fetchRow result mode
  | .columnNames result => Client.columnNames result
  | .affectedRows => Client.affectedRows
  | .insertId => Client.insertId
  | .rowCount result => Client.rowCount result
  | .lastError => do
    let (client, _) ← get
    return client.lastError
  | .free result => Client.free result
  | .close => Client.close

/-- Whether the call asks for nothing but what the client knows and for the rows of results. -/
def isReading : Call → Bool
  | .connect | .execute _ | .close => false
  | _ => true

end Call

section Reading

variable {R : World → World → Prop} [IsPreorder World R]

theorem beside_fetchRow {result : Nat} (kept : Keeps R (World.fetch result)) (mode : RowMode) :
    Keeps (World.Beside R) (fetchRow result mode) := by
  refine World.beside_onWorld ((Keeps.get.bind fun _ => Keeps.pure _).bind fun columns => ?_)
  cases columns with
  | none => exact Keeps.pure _
  | some columns =>
    refine kept.bind fun row => ?_
    cases row with
    | none => exact Keeps.pure _
    | some cells => cases mode <;> exact Keeps.pure _

theorem beside_columnNames (result : Nat) : Keeps (World.Beside R) (columnNames result) :=
  (World.beside_onWorld (Keeps.get.bind fun _ => Keeps.pure _)).bind fun _ => Keeps.pure _

/-- What the requests for the rows of results keep, a call that makes no others keeps. -/
theorem beside_perform (fetch : ∀ result, Keeps R (World.fetch result))
    (free : ∀ result, Keeps R (World.free result)) {call : Call} (reading : call.isReading) :
    Keeps (World.Beside R) call.perform := by
  cases call with
  | connect | execute _ | close => nomatch reading
  | fetchRow result mode => exact beside_fetchRow (fetch result) mode
  | columnNames result => exact beside_columnNames result
  | free result => exact World.beside_onWorld (free result)
  | affectedRows | insertId =>
    refine Keeps.get.bind fun ⟨client, world⟩ => ?_
    dsimp only
    split <;> exact Keeps.pure _
  | escape | rowCount | lastError => exact Keeps.get.bind fun _ => Keeps.pure _

end Reading

theorem quiet_fetchRow (result : Nat) (mode : RowMode) :
    Keeps World.Quiet (fetchRow result mode) :=
  beside_fetchRow (World.reads_fetch result) mode

theorem quiet_columnNames (result : Nat) : Keeps World.Quiet (columnNames result) :=
  beside_columnNames result

theorem quiet_free (result : Nat) : Keeps World.Quiet (free result) :=
  World.quiet_onWorld (World.reads_free result)

theorem quiet_perform {call : Call} (reading : call.isReading) :
    Keeps World.Quiet call.perform :=
  beside_perform World.reads_fetch World.reads_free reading

theorem remembers_perform (call : Call) : Keeps Remembers call.perform := by
  cases call with
  | connect => exact remembers_connect
  | execute sql => exact remembers_execute sql
  | close => exact remembers_close
  | _ => exact fun state => remembers_of_quiet (quiet_perform rfl state)

/-- A client and the world as calls lead to them, from the moment when the client was made. -/
inductive Session (script : Server.Script) : Client × World → Prop
  | start {url : Url} {echo hasEngine : Bool} {client : Client} (clock : Clock)
      (made : create url echo hasEngine = .ok client) :
      Session script (client, World.start clock script)
  | call {state : Client × World} (before : Session script state) (call : Call) :
      Session script (after call.perform state)

/-- What the requests along a trace met with is what is gone from the script, and the last refusal
among it is the last error of the client. -/
def Heard (script : Server.Script) (state : Client × World) : Prop :=
  state.2.trace.foldl Server.hear (script, none) = (state.2.script, state.1.lastError)

theorem Heard.of_remembers {script : Server.Script} {before now : Client × World}
    (heard : Heard script before) (remembers : Remembers before now) : Heard script now := by
  obtain ⟨events, trace, newHeard⟩ := remembers
  rw [Heard, trace, List.foldl_append, heard, newHeard]

theorem heard_of_create {url : Url} {echo hasEngine : Bool} {client : Client}
    (made : create url echo hasEngine = .ok client) (clock : Clock) (script : Server.Script) :
    Heard script (client, World.start clock script) := by
  obtain ⟨dialect, -, fresh⟩ := Except.bind_eq_ok.mp made
  cases fresh
  rfl

theorem Session.heard {script : Server.Script} {state : Client × World}
    (session : Session script state) : Heard script state := by
  induction session with
  | start clock made => exact heard_of_create made clock script
  | call before call ih => exact ih.of_remembers (remembers_perform call _)

end Client

end SafeSql
