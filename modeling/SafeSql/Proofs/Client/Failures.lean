import SafeSql.Proofs.Client.Calls
import SafeSql.Proofs.Reports

/-!
# Failures of a client

A client takes no notice of what was logged, and it leaves the errors of the library to its
database: whatever is asked of it, it ends alike whatever the log says, and fails with a failure of
its own.

## Main definitions

* `World.Logged` — two worlds that differ in what was logged.

## Main statements

* `Client.agrees_perform` — whatever is asked of a client, it ends alike whatever the log says.
-/

namespace SafeSql

open SafeSql.Action (reply after Ends Agrees)

open Failure (Own)

theorem Server.Outage.own_raised (outage : Server.Outage) : Own outage.raised outage.raised := by
  cases outage <;> exact ⟨rfl, rfl⟩

theorem Server.Breakdown.own_raised (broken : Server.Breakdown) :
    Own broken.raised broken.raised := by
  cases broken with
  | refusal => exact ⟨rfl, rfl⟩
  | outage outage => exact outage.own_raised

namespace World

/-- Two worlds that differ in nothing but what was logged. -/
def Logged (s t : World) : Prop :=
  ∃ log, t = { s with log := log }

theorem Logged.trace {s t : World} (logged : Logged s t) : t.trace = s.trace := by
  obtain ⟨log, rfl⟩ := logged
  rfl

theorem agrees_columns (result : Nat) : Agrees Logged Own (columns result) := by
  rintro world _ ⟨log, rfl⟩
  exact ⟨.value _, log, rfl⟩

theorem agrees_fetch (result : Nat) : Agrees Logged Own (fetch result) := by
  rintro world _ ⟨log, rfl⟩
  rw [reply_fetch, after_fetch, reply_fetch, after_fetch]
  refine ⟨.of_eq rfl fun failure failed => ?_, log, rfl⟩
  split at failed <;> cases failed
  exact Server.Outage.own_raised _

/-- It is enough to look at one state with another log. -/
theorem agrees_of_log {σ α : Type} {action : Action (σ × World) α}
    (each : ∀ state world log,
      Ends Own (reply action (state, world)) (reply action (state, { world with log := log })) ∧
        Beside Logged (after action (state, world))
          (after action (state, { world with log := log }))) :
    Agrees (Beside Logged) Own action := by
  rintro ⟨state, world⟩ ⟨state', world'⟩ ⟨same, log, logged⟩
  dsimp only at same logged
  subst same logged
  exact each _ world log

theorem agrees_onWorld {σ α : Type} {action : Action World α} (agrees : Agrees Logged Own action) :
    Agrees (Beside Logged) Own (Action.onWorld action : Action (σ × World) α) :=
  agrees.within (fun _ _ alike => alike.2) (fun _ _ _ _ alike left => ⟨alike.1, left⟩)
    fun _ _ own => own

end World

open World (Logged Beside)

namespace Client

theorem agrees_connect : Agrees (Beside Logged) Own connect := by
  refine World.agrees_of_log fun client world log => ?_
  constructor
  · refine .of_eq (by rw [reply_connect, reply_connect]) fun failure failed => ?_
    rw [reply_connect] at failed
    split at failed
    · cases failed
    · split at failed <;> cases failed
      exact Server.Breakdown.own_raised _
  · cases connected : client.connected with
    | true =>
      rw [after_connect_of_connected _ _ connected, after_connect_of_connected _ _ connected]
      exact ⟨rfl, log, rfl⟩
    | false =>
      cases fault : client.engineFault world.script with
      | some broken =>
        rw [after_connect_of_fault client world connected fault,
          after_connect_of_fault client { world with log := log } connected fault]
        exact ⟨rfl, log, rfl⟩
      | none =>
        obtain ⟨_, left⟩ := after_connect client world connected fault
        obtain ⟨log', left'⟩ := after_connect client { world with log := log } connected fault
        rw [left, left']
        exact ⟨rfl, log', rfl⟩

theorem agrees_execute (sql : String) : Agrees (Beside Logged) Own (execute sql) := by
  refine World.agrees_of_log fun client world log => ?_
  constructor
  · refine .of_eq (by rw [reply_execute, reply_execute]) fun failure failed => ?_
    rw [reply_execute] at failed
    split at failed
    · split at failed <;> cases failed
      exact Server.Breakdown.own_raised _
    · cases failed
      exact ⟨rfl, rfl⟩
  · rw [after_execute, after_execute, World.after_execute, World.after_execute]
    split <;> exact ⟨rfl, log, rfl⟩

theorem agrees_close : Agrees (Beside Logged) Own close := by
  refine World.agrees_of_log fun client world log => ?_
  rw [reply_close, reply_close, after_close, after_close]
  exact ⟨.value (), rfl, log, rfl⟩

theorem agrees_fetchRow (result : Nat) (mode : RowMode) :
    Agrees (Beside Logged) Own (fetchRow result mode) := by
  refine World.agrees_onWorld ((World.agrees_columns result).bind fun columns => ?_)
  cases columns with
  | none => exact Agrees.pure _
  | some columns =>
    refine (World.agrees_fetch result).bind fun row => ?_
    cases row with
    | none => exact Agrees.pure _
    | some cells => cases mode <;> exact Agrees.pure _

theorem agrees_columnNames (result : Nat) : Agrees (Beside Logged) Own (columnNames result) :=
  (World.agrees_onWorld (World.agrees_columns result)).bind fun _ => Agrees.pure _

/-- Whatever is asked of a client, it ends alike whatever the log says, and reports nothing. -/
theorem agrees_perform (call : Call) : Agrees (Beside Logged) Own call.perform := by
  cases call with
  | connect => exact agrees_connect
  | execute sql => exact agrees_execute sql
  | close => exact agrees_close
  | fetchRow result mode => exact agrees_fetchRow result mode
  | columnNames result => exact agrees_columnNames result
  | affectedRows | insertId =>
    refine World.agrees_of_log fun client world log => ?_
    obtain ⟨url, dialect, echo, hasEngine, connected, lastResult, lastError⟩ := client
    cases lastResult <;> exact ⟨.value _, rfl, log, rfl⟩
  | _ => exact World.agrees_of_log fun client world log => ⟨.value _, rfl, log, rfl⟩

end Client

end SafeSql
