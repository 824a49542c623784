import SafeSql.Database.Basic
import SafeSql.Proofs.Client.Attempts
import SafeSql.Proofs.Statistics

/-!
# Execution and its entry

What the execution of a statement does to a database: how it ends, what the client knows
afterwards, and the one entry that the statistics get, whichever way it ends.

## Main definitions

* `Database.reaction`, `Database.reached` — how the client executes a statement, and what it leaves.
* `Database.words` — the words in which a database passes on a refusal.
* `Database.noted`, `Database.settled` — what an attempt notes, and what it comes to.
* `Database.entry`, `Database.sent` — the entry for a statement, and the state with this entry.

## Main statements

* `Database.reply_execute`, `Database.after_execute` — an execution with its entry.
-/

namespace SafeSql

open SafeSql.Action (reply after)

/-- The state with another log. -/
def World.withLog {σ : Type} (state : σ × World) (log : List Log.Record) : σ × World :=
  (state.1, { state.2 with log := log })

namespace Database

section Parts

variable {α : Type} (state : Database × World)

@[simp] theorem reply_onClient (action : Action (Client × World) α) :
    reply (onClient action) state = reply action (state.1.client, state.2) :=
  Action.reply_within state _ _ action

@[simp] theorem after_onClient (action : Action (Client × World) α) :
    after (onClient action) state =
      ({ state.1 with client := (after action (state.1.client, state.2)).1 },
        (after action (state.1.client, state.2)).2) :=
  Action.after_within state _ _ action

@[simp] theorem reply_onStatistics (action : Action (Statistics × World) α) :
    reply (onStatistics action) state = reply action (state.1.statistics, state.2) :=
  Action.reply_within state _ _ action

@[simp] theorem after_onStatistics (action : Action (Statistics × World) α) :
    after (onStatistics action) state =
      ({ state.1 with statistics := (after action (state.1.statistics, state.2)).1 },
        (after action (state.1.statistics, state.2)).2) :=
  Action.after_within state _ _ action

/-- An error is reported with the caller attached to it. -/
@[simp] theorem reply_reportError (error : SqlError) (caller : Option String) :
    reply (reportError error caller : Action (Database × World) α) state =
      .error (state.1.report.failure (error.withCaller caller)) := rfl

end Parts

section Attempt

variable (state : Database × World) (sql : String) (caller : Option String)

/-- How the client of a database executes a statement. -/
def reaction : Except Failure Nat :=
  reply (Client.execute sql) (state.1.client, state.2)

/-- The client and the world after a statement. -/
def reached : Client × World :=
  after (Client.execute sql) (state.1.client, state.2)

/-- The words in which a refusal is passed on: those that the client remembers, else those with
which it refused. -/
def words (client : Client) (text : String) : String :=
  (client.lastError.bind nonempty).getD text

/-- What an attempt notes about an error. -/
def noted (client : Client) : Except Failure Nat → Option String
  | .error (.driver text) => some (words client text)
  | _ => none

/-- What an attempt comes to. -/
def settled (client : Client) : Except Failure Nat → Except Failure (Except String Nat)
  | .ok result => .ok (.ok result)
  | .error (.driver text) => .ok (.error (words client text))
  | .error failure => .error failure

/-- An attempt does not fail: a failure of the client is what it comes to. -/
theorem reply_attempt : reply (attempt sql) state =
    .ok (noted (reached state sql).1 (reaction state sql),
      settled (reached state sql).1 (reaction state sql)) := by
  rw [attempt, Action.reply_bind, Action.reply_outcome, reply_onClient, ← reaction,
    Action.after_outcome, after_onClient]
  cases reaction state sql with
  | ok result => rfl
  | error failure => cases failure <;> rfl

theorem after_attempt : after (attempt sql) state =
    ({ state.1 with client := (reached state sql).1 }, (reached state sql).2) := by
  rw [attempt, Action.after_bind, Action.reply_outcome, reply_onClient, ← reaction,
    Action.after_outcome, after_onClient]
  cases reaction state sql with
  | ok result => rfl
  | error failure => cases failure <;> rfl

/-- The entry for the execution of a statement. -/
def entry : Statistics.Entry where
  query := sql
  start := state.2.clock.time
  timer := (reached state sql).2.clock.counter.sub state.2.clock.counter
  error := Statistics.entryError (noted (reached state sql).1 (reaction state sql))
    (settled (reached state sql).1 (reaction state sql))

/-- The database and the world once a statement was sent, with the entry for it. -/
def sent : Database × World :=
  ({ state.1 with
      statistics := state.1.statistics.push (entry state sql)
      client := (reached state sql).1 },
    (reached state sql).2)

/-- An attempt with its entry. -/
def measured : Action (Database × World) (Except String Nat) :=
  Statistics.measure (Action.onWorld World.now) (onStatistics ∘ Statistics.record) sql (attempt sql)

theorem reply_measured :
    reply (measured sql) state = settled (reached state sql).1 (reaction state sql) :=
  Statistics.reply_measure (fun _ _ => rfl) (reply_attempt state sql)

theorem after_measured : ∃ log, after (measured sql) state =
    World.withLog (sent state sql) log := by
  rw [measured, Statistics.after_measure (fun _ _ => rfl) (reply_attempt state sql), after_attempt]
  exact ⟨_, rfl⟩

/-- An execution ends as the client ends it, except that a refusal is reported as an error. -/
theorem reply_execute : reply (execute sql caller) state =
    match reaction state sql with
    | .ok result => .ok result
    | .error (.driver text) =>
      .error (state.1.report.failure
        ((SqlError.of (.execution (words (reached state sql).1 text) sql) none).withCaller caller))
    | .error failure => .error failure := by
  obtain ⟨log, left⟩ := after_measured state sql
  -- only a refusal is left to report once the entry was made
  rw [execute, ← measured, Action.reply_bind, reply_measured, left]
  cases reaction state sql with
  | ok result => rfl
  | error failure => cases failure <;> rfl

/-- However it ends, an execution leaves its entry, and beyond that nothing but messages in the
log. -/
theorem after_execute : ∃ log, after (execute sql caller) state =
    World.withLog (sent state sql) log := by
  obtain ⟨log, left⟩ := after_measured state sql
  rw [execute, ← measured, Action.after_bind, reply_measured, left]
  cases reaction state sql with
  | ok result => exact ⟨_, rfl⟩
  | error failure => cases failure <;> exact ⟨_, rfl⟩

variable (log : List Log.Record)

theorem reaction_log :
    reaction (World.withLog state log) sql = reaction state sql := by
  simp only [reaction, World.withLog, Client.reply_execute]

theorem reached_log : reached (World.withLog state log) sql =
    World.withLog (reached state sql) log := by
  simp only [reached, World.withLog, Client.after_execute, World.after_execute]
  split <;> rfl

/-- What was written to the log before has no bearing on a statement. -/
theorem sent_log : sent (World.withLog state log) sql =
    World.withLog (sent state sql) log := by
  simp only [sent, entry, reached_log, reaction_log]
  rfl

end Attempt

end Database

end SafeSql
