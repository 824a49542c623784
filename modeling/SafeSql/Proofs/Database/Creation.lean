import SafeSql.Database.Basic
import SafeSql.Proofs.Client.Calls
import SafeSql.Proofs.Statistics

/-!
# Creation of a database

A database is created from what its settings and options state: statistics without entries, and
a client that was asked to connect.

## Main definitions

* `Database.statedLimit`, `Database.chosenClient`, `Database.chosenDialect` — what is stated.
* `Database.opened` — a database of such parts, once its client is connected.

## Main statements

* `Database.create_eq` — the steps of a creation.
* `Database.create_eq_ok` — what is known of a database that was created.
-/

namespace SafeSql

open SafeSql.Action (Keeps)

theorem Report.reads_surface {α : Type} (report : Report) (error : SqlError)
    (caller : Option String) : Keeps World.Reads (report.surface error caller : Action World α) :=
  (World.reads_say _ _ _).bind fun _ => Keeps.throw _

namespace Database

variable {settings : Settings} {options : Options} {given : Option Client} {target : Target}
  {before world : World} {database : Database}

def statedLimit (settings : Settings) (options : Options) : Int :=
  match options.statsLimit with
  | none | some 0 => settings.templating.statsLimit
  | some limit => limit

/-- The client of a database: the given one, or one that is made for the target. -/
def chosenClient (settings : Settings) (given : Option Client) (target : Target) :
    Except Failure Client :=
  match given with
  | some client => .ok client
  | none => Client.create (settings.url target) false false

/-- The dialect of templates: the one that is stated, or that of the client. -/
def chosenDialect (settings : Settings) (options : Options) (client : Client) :
    Except Failure Dialect :=
  match (options.dialect.bind nonempty).or settings.templating.dialect with
  | some name => Dialect.find name
  | none => .ok client.dialect

def opened (report : Report) (statistics : Statistics) (base : Dialect) (client : Client) :
    Action World Database := fun world =>
  match connectClient report (client, world) with
  | .ok () (client, world) => .ok ⟨report, statistics, base, client⟩ world
  | .error failure (_, world) => .error failure world

theorem create_eq : create settings options given target = (do
    let report ← Action.lift (Report.create
      ((options.errorMode.bind nonempty).getD settings.templating.errorMode) options.raised)
    let statistics ← Action.lift (Statistics.empty (statedLimit settings options))
    let client ← Action.lift (chosenClient settings given target)
    let base ← Action.lift (chosenDialect settings options client)
    opened report statistics base client) := by
  unfold create chosenDialect
  cases given <;> cases (options.dialect.bind nonempty).or settings.templating.dialect <;> rfl

theorem opened_eq_ok {report : Report} {statistics : Statistics} {base : Dialect} {client : Client}
    (run : opened report statistics base client before = EStateM.Result.ok database world) :
    database.statistics = statistics ∧
      connectClient report (client, before) = EStateM.Result.ok () (database.client, world) := by
  unfold opened at run
  split at run
  · rename_i connected
    cases run
    exact ⟨rfl, connected⟩
  · cases run

/-- A database that was created has statistics as stated and the client that was chosen, which is
connected. -/
theorem create_eq_ok
    (created : create settings options given target before = EStateM.Result.ok database world) :
    Statistics.empty (statedLimit settings options) = .ok database.statistics ∧
      ∃ client report, chosenClient settings given target = .ok client ∧
        connectClient report (client, before) = EStateM.Result.ok () (database.client, world) := by
  rw [create_eq] at created
  obtain ⟨report, -, created⟩ := Action.lift_bind_eq_ok.mp created
  obtain ⟨statistics, started, created⟩ := Action.lift_bind_eq_ok.mp created
  obtain ⟨client, chosen, created⟩ := Action.lift_bind_eq_ok.mp created
  obtain ⟨base, -, created⟩ := Action.lift_bind_eq_ok.mp created
  obtain ⟨same, connected⟩ := opened_eq_ok created
  rw [same]
  exact ⟨started, client, report, chosen, connected⟩

/-- An attempt to connect that fails is reported, and remembered as any other. -/
theorem remembers_connectClient (report : Report) :
    Keeps Client.Remembers (connectClient report) := by
  refine Client.remembers_connect.outcome.bind fun outcome => ?_
  split
  · exact Keeps.pure ()
  · exact Client.remembers_onWorld (report.reads_surface _ _)
  · exact Keeps.throw _

end Database

end SafeSql
