import SafeSql.Proofs.Database.Entries

/-!
# The refusal that is reported

A database passes a refused statement on in the words that its client remembers. These are the
words of the last refusal that the client met with since it executed a statement, wherever calls
led to. They are those of the statement itself while there is a connection; without one the
statement is refused by the client, which does not remember it, and an older refusal is reported
if there is one.

## Main statements

* `Database.remembers_perform` — the last error follows the requests, whatever is called.
* `Database.Session.heard` — the last error of the client is the last refusal.
* `Database.words_of_connected`, `Database.words_of_disconnected` — the words that are passed on.
* `Database.reported_iff` — when the words are those of the refused statement.
-/

namespace SafeSql.Database

open SafeSql.Action (reply after)
open Client (Heard Remembers)

variable {script : Server.Script} {state : Database × World} {sql text : String}

/-- The client of a database, with the world. -/
def clientOf (state : Database × World) : Client × World :=
  (state.1.client, state.2)

theorem remembers_of_quiet {before now : Database × World} (quiet : World.Quiet before now) :
    Remembers (clientOf before) (clientOf now) :=
  Client.remembers_of_quiet ⟨congrArg client quiet.1, quiet.2⟩

theorem remembers_perform (call : Call) (state : Database × World) :
    Remembers (clientOf state) (clientOf (after call.perform state)) := by
  cases rendered : call.rendered? state with
  | some sql =>
    have executed : Remembers (clientOf state) (clientOf (sent state sql)) :=
      Client.remembers_execute sql (clientOf state)
    exact trans_of Remembers executed (remembers_of_quiet (Call.quiet_perform rendered))
  | none =>
    cases call with
    | client own =>
      rw [Call.after_perform_client]
      exact Client.remembers_perform own (clientOf state)
    | _ => exact remembers_of_quiet (Call.quiet_perform_of_unrendered rendered rfl)

theorem heard_of_create {settings : Settings} {options : Options} {given : Option Client}
    {target : Target} {before world : World} {database : Database}
    (created : create settings options given target before = EStateM.Result.ok database world)
    (heard : ∀ client, chosenClient settings given target = .ok client →
      Heard script (client, before)) : Heard script (clientOf (database, world)) := by
  obtain ⟨-, client, report, chosen, connected⟩ := create_eq_ok created
  have remembers := remembers_connectClient report (client, before)
  rw [after, connected] at remembers
  exact (heard client chosen).of_remembers remembers

/-- Wherever calls lead to, the last error of the client is the last refusal that its requests met
with. -/
theorem Session.heard (session : Session script state) : Heard script (clientOf state) := by
  induction session with
  | own clock created =>
    exact heard_of_create created fun client made => Client.heard_of_create made clock script
  | given before created =>
    refine heard_of_create created fun client chosen => ?_
    cases chosen
    exact before.heard
  | call before call ih => exact ih.of_remembers (remembers_perform call _)

theorem Session.lastRefusal (session : Session script state) :
    Server.lastRefusal script state.2.trace = state.1.client.lastError :=
  congrArg Prod.snd session.heard

section Words

/-- While there is a connection a refusal is passed on in its own words. -/
theorem words_of_connected (connected : state.1.client.connected)
    (refused : reaction state sql = .error (.driver text)) :
    state.2.script.nextReply.outcome = .error (.refusal text) ∧
      words (reached state sql).1 text = text := by
  rw [reaction, Client.reply_execute, if_pos connected] at refused
  rw [reached, Client.after_execute, if_pos connected]
  cases outcome : state.2.script.nextReply.outcome with
  | ok rows => simp [outcome] at refused
  | error broken =>
    cases broken with
    | refusal own =>
      obtain rfl : own = text := by simpa [outcome, Server.Breakdown.raised] using refused
      refine ⟨rfl, ?_⟩
      simp only [words, Option.bind_some, nonempty]
      split <;> rfl
    | outage cause =>
      cases cause <;> simp [outcome, Server.Breakdown.raised, Server.Outage.raised] at refused

/-- Without a connection the client refuses, and does not remember it. -/
theorem words_of_disconnected (disconnected : state.1.client.connected = false)
    (refused : reaction state sql = .error (.driver text)) :
    text = Client.notConnected ∧
      words (reached state sql).1 text = words state.1.client Client.notConnected := by
  rw [reaction, Client.reply_execute, disconnected] at refused
  rw [reached, Client.after_execute, disconnected]
  cases refused
  exact ⟨rfl, rfl⟩

/-- Other words than the given ones are passed on if and only if the client remembers some. -/
theorem words_eq_iff (client : Client) (text : String) :
    (words client text = text ↔
      client.lastError = none ∨ client.lastError = some "" ∨ client.lastError = some text) ∧
      (words client text = text ∨ client.lastError = some (words client text)) := by
  cases remembered : client.lastError with
  | none => simp [words, remembered]
  | some other =>
    by_cases empty : other = ""
    · simp [words, remembered, nonempty, empty]
    · simp [words, remembered, nonempty, empty]

end Words

/-- A call whose statement the client refuses reports an error about that statement, and has an
entry with the same words. These are the words of the refusal itself if and only if there is a
connection, or no other refusal was met with since a statement was executed; else they are the
words of that refusal. -/
theorem reported_iff {call : Call} (session : Session script state)
    (rendered : call.rendered? state = some sql)
    (refused : reply (Client.execute sql) (state.1.client, state.2) = .error (.driver text)) :
    ∃ words error entry,
      reply call.perform state = .error (state.1.report.failure error) ∧
      error.cause = .execution words sql ∧
      (after call.perform state).1.statistics = state.1.statistics.push entry ∧
      entry.query = sql ∧ entry.error = some words ∧
      (if state.1.client.connected then
        state.2.script.nextReply.outcome = .error (.refusal text) else text = Client.notConnected) ∧
      (words = text ↔ state.1.client.connected ∨
        Server.lastRefusal script state.2.trace ∈ [none, some "", some Client.notConnected]) ∧
      (words = text ∨ Server.lastRefusal script state.2.trace = some words) := by
  obtain ⟨caller, reported⟩ := Call.reply_perform_of_driver rendered refused
  refine ⟨_, _, entry state sql, reported, SqlError.cause_withCaller _ _, ?_, rfl, ?_, ?_⟩
  · rw [statistics_perform, rendered]
  · rw [entry, reaction, refused]
    rfl
  -- the last error before the call decides, as the client does not change it without a connection
  rw [session.lastRefusal]
  cases connected : state.1.client.connected with
  | true =>
    obtain ⟨outcome, same⟩ := words_of_connected connected refused
    simp [outcome, same]
  | false =>
    obtain ⟨rfl, same⟩ := words_of_disconnected connected refused
    rw [same]
    simpa using words_eq_iff state.1.client Client.notConnected

/-- A statement that the server refuses is reported in the words of the server. -/
theorem reported_own_refusal :
    ∃ error, reply (Call.run (.positional (.text "SELECT 1") []) none).perform
        (served [⟨Binary64.zero false, .error (.refusal "locked")⟩]) = .error (.query error) ∧
      error.cause = .execution "locked" "SELECT 1" := by
  obtain ⟨words, error, entry, reported, cause, -, -, -, -, same, -⟩ :=
    @reported_iff _ (served [⟨Binary64.zero false, .error (.refusal "locked")⟩]) "SELECT 1" "locked"
      (.run (.positional (.text "SELECT 1") []) none) (session_served _) (by decide +kernel) rfl
  obtain rfl := same.mpr (.inl rfl)
  exact ⟨error, reported, cause⟩

/-- After a refusal and without a connection, a statement is reported in the words of that
refusal. -/
theorem older_refusal_reported :
    let state := runAll [.run (.positional (.text "SELECT 1") []) none, .client .close]
      (served [⟨Binary64.zero false, .error (.refusal "no such table: t")⟩])
    reply (Client.execute "SELECT 2") (state.1.client, state.2) =
        .error (.driver Client.notConnected) ∧
      (match reply (Call.run (.positional (.text "SELECT 2") []) none).perform state with
        | .error (.query error) => error.cause.rejected?
        | _ => none) = some ("no such table: t", "SELECT 2") ∧
      (after (Call.run (.positional (.text "SELECT 2") []) none).perform
        state).1.statistics.entries.map (·.error) = [some "no such table: t"] := by
  intro state
  have disconnected : state.1.client.connected = false := by decide +kernel
  refine ⟨?_, by decide +kernel, by decide +kernel⟩
  rw [Client.reply_execute, disconnected]
  rfl

end SafeSql.Database
