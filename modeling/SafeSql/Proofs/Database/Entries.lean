import SafeSql.Proofs.Database.Recording

/-!
# What an entry says about an error

The entry for a statement has an error whenever the statement fails, unless an interrupt ends it: an
interrupt is no ordinary failure, and what was measured then leaves the error that was noted
before, which is none for a statement.

## Main definitions

* `Statistics.Block`, `Statistics.measured` — a block of the program, and the block with its entry.

## Main statements

* `Database.entry_error_eq_none_iff` — when the entry for a statement has no error.
* `Statistics.measured_failed` — the entry for a block that fails.
* `Database.entry_errors` — both.
-/

namespace SafeSql

open SafeSql.Action (reply after)

namespace Statistics

variable {α : Type}

/-- A block of the program: what it notes about an error, what it comes to, and the state that it
leaves. -/
abbrev Block (α : Type) :=
  Statistics × World → (Option String × Except Failure α) × (Statistics × World)

/-- A block with its entry in the statistics. -/
def measured (query : String) (block : Block α) : Action (Statistics × World) α :=
  measure (Action.onWorld World.now) record query fun state => .ok (block state).1 (block state).2

/-- A block that fails has an entry, and its failure is passed on. The entry has the text of the
failure when that is an ordinary one, and else what the block noted. -/
theorem measured_failed (query : String) (block : Block α) (state : Statistics × World)
    {failure : Failure} (failed : (block state).1.2 = .error failure) :
    reply (measured query block) state = .error failure ∧
      ∃ entry, (after (measured query block) state).1 = (block state).2.1.push entry ∧
        entry.query = query ∧
        entry.error = if failure.isOrdinary then some failure.message else (block state).1.1 := by
  have ended : reply (fun state => .ok (block state).1 (block state).2) state =
      .ok ((block state).1.1, .error failure) := by
    rw [← failed]
    rfl
  have left :
      after (fun state => .ok (block state).1 (block state).2) state = (block state).2 := rfl
  refine ⟨reply_measure (fun _ _ => rfl) ended, ?_⟩
  rw [measured, after_measure (fun _ _ => rfl) ended, after_record, left]
  exact ⟨_, rfl, rfl, rfl⟩

end Statistics

namespace Database

variable (state : Database × World) (sql : String)

theorem entry_error_eq_none_iff : (entry state sql).error = none ↔
    (∃ result, reaction state sql = .ok result) ∨
      ∃ text, reaction state sql = .error (.interrupt text) := by
  rcases Client.reply_execute_cases sql (state.1.client, state.2) with
    ⟨result, ended⟩ | ⟨text, ended⟩ | ⟨kind, text, ended⟩ | ⟨text, ended⟩ <;>
    simp [entry, reaction, ended, noted, settled, Statistics.entryError, Failure.isOrdinary]

/-- What the entries say about errors. A call whose query can be rendered has one entry, which has
no error if and only if its statement brings a result or is interrupted. A block that is left by a
failure has the text of that failure in its entry if and only if the failure is an ordinary one
or the block noted just that text, and the failure is passed on. -/
theorem entry_errors {call : Call} {state : Database × World} {sql : String}
    (rendered : call.rendered? state = some sql)
    {α : Type} (query : String) (block : Statistics.Block α) (start : Statistics × World)
    {failure : Failure} (failed : (block start).1.2 = .error failure) :
    (∃ entry, (after call.perform state).1.statistics = state.1.statistics.push entry ∧
      entry.query = sql ∧
      (entry.error = none ↔
        (∃ result, reply (Client.execute sql) (state.1.client, state.2) = .ok result) ∨
          ∃ text, reply (Client.execute sql) (state.1.client, state.2) =
            .error (.interrupt text))) ∧
    reply (Statistics.measured query block) start = .error failure ∧
      ∃ entry, (after (Statistics.measured query block) start).1 = (block start).2.1.push entry ∧
        entry.query = query ∧
        (entry.error = some failure.message ↔
          failure.isOrdinary ∨ (block start).1.1 = some failure.message) := by
  obtain ⟨propagates, measured, pushed, same, error⟩ :=
    Statistics.measured_failed query block start failed
  refine ⟨⟨entry state sql, ?_, rfl, entry_error_eq_none_iff state sql⟩, propagates, measured,
    pushed, same, ?_⟩
  · rw [statistics_perform, rendered]
  · rw [error]
    cases failure.isOrdinary <;> simp

/-- A statement that is refused has an entry with an error, as has a block that fails. -/
theorem entry_errors_refusal :
    (∃ entry, (after (Call.run (.positional (.text "SELECT 1") []) none).perform
          (served [⟨Binary64.zero false, .error (.refusal "locked")⟩])).1.statistics =
          oneEntry.statistics.push entry ∧
        entry.query = "SELECT 1" ∧ entry.error ≠ none) ∧
      ∃ entry, (after
          (Statistics.measured "SELECT 1" fun state =>
            ((none, (.error (.server .runtime "gone") : Except Failure Nat)), state))
          (oneEntry.statistics, (served []).2)).1 = oneEntry.statistics.push entry ∧
        entry.error = some "gone" := by
  have rendered : (Call.run (.positional (.text "SELECT 1") []) none).rendered?
      (served [⟨Binary64.zero false, .error (.refusal "locked")⟩]) = some "SELECT 1" := by
    decide +kernel
  obtain ⟨⟨entry, pushed, same, error⟩, -, measured, added, -, text⟩ := entry_errors rendered
    "SELECT 1"
    (fun state => ((none, (.error (.server .runtime "gone") : Except Failure Nat)), state))
    (oneEntry.statistics, (served []).2) rfl
  refine ⟨⟨entry, pushed, same, ?_⟩, measured, added, text.mpr (.inl rfl)⟩
  rw [ne_eq, error]
  rintro (⟨result, ended⟩ | ⟨text, ended⟩) <;> cases ended

/-- A statement that is interrupted brings no result, and yet its entry has no error. -/
theorem no_entry_error_of_interrupt :
    let state := served [⟨Binary64.zero false, .error (.outage (.interrupt "stopped"))⟩]
    reply (Client.execute "SELECT 1") (state.1.client, state.2) = .error (.interrupt "stopped") ∧
      (after (Call.run (.positional (.text "SELECT 1") []) none).perform
        state).1.statistics.entries.map (fun entry => (entry.query, entry.error)) =
          [("SELECT 1", none)] :=
  ⟨rfl, by decide +kernel⟩

end Database

end SafeSql
