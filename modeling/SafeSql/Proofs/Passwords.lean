import SafeSql.Availability
import SafeSql.Proofs.Agreement
import SafeSql.Proofs.Client.Connection

/-!
# Passwords stay hidden

Whoever sees what is returned, logged, raised or remembered cannot tell one password from another:
two runs with two passwords differ only in what reaches the database itself.

## Main definitions

* `Environment.OtherPassword`, `Target.OtherPassword`, `Url.OtherPassword` — nothing but the
  password is another one.
* `World.Asked` — two worlds that differ in what the database was asked.
* `Settings.connectionString` — the URL of the configured database as it may be shown.

## Main statements

* `Availability.parallel_check`, `Availability.parallel_wait` — waiting for a database.
* `Client.parallel_perform`, `Client.parallel_runAll` — whatever is asked of a client.
* `Settings.passwords_hidden` — two runs with two passwords look the same.
-/

namespace SafeSql

open SafeSql.Action (reply after Parallel)

/-! ## Two passwords -/

/-- The same password, which may be missing, or two that are not empty. -/
inductive EitherPassword : Option String → Option String → Prop
  | same (password : Option String) : EitherPassword password password
  | other {p q : String} (hp : p ≠ "") (hq : q ≠ "") : EitherPassword (some p) (some q)

/-- Of two passwords that are not empty there is one in both, and else the same in both. -/
theorem EitherPassword.nonempty {password password' : Option String}
    (either : EitherPassword password password') :
    EitherPassword (nonempty (password.getD "")) (nonempty (password'.getD "")) := by
  cases either with
  | same => exact .same _
  | other hp hq => simpa [SafeSql.nonempty, hp, hq] using .other hp hq

theorem EitherPassword.getD {password password' : Option String} {p q : String}
    (either : EitherPassword password password')
    (default : EitherPassword (SafeSql.nonempty p) (SafeSql.nonempty q)) :
    EitherPassword (SafeSql.nonempty (password.getD p)) (SafeSql.nonempty (password'.getD q)) := by
  cases either with
  | same password =>
    cases password with
    | none => exact default
    | some password => exact .same _
  | other hp hq => exact (EitherPassword.other hp hq).nonempty

/-- Two environments that differ in nothing but the password. -/
structure Environment.OtherPassword (environment environment' : Environment) : Prop where
  rest : ∀ name, name ≠ "SAFESQL_PASSWORD" → environment'.lookup name = environment.lookup name
  password : EitherPassword (environment.lookup "SAFESQL_PASSWORD")
    (environment'.lookup "SAFESQL_PASSWORD")

/-- Two callers that say the same about a database but for the password. -/
structure Target.OtherPassword (target target' : Target) : Prop where
  rest : target' = { target with password := target'.password }
  password : EitherPassword target.password target'.password

/-- Two URLs that differ in nothing but the password. -/
inductive Url.OtherPassword : Url → Url → Prop
  | same (url : Url) : OtherPassword url url
  | other (url : Url) (p q : String) :
    OtherPassword { url with password := some p } { url with password := some q }

namespace Url.OtherPassword

theorem of_eitherPassword {url url' : Url} (rest : url' = { url with password := url'.password })
    (either : EitherPassword url.password url'.password) : OtherPassword url url' := by
  obtain ⟨drivername, username, password, host, port, database, query⟩ := url
  rw [rest]
  generalize url'.password = password' at either
  cases either with
  | same => exact .same _
  | other => exact .other ⟨drivername, username, none, host, port, database, query⟩ _ _

theorem ite (c : Prop) [Decidable c] {first first' second second' : Url}
    (yes : OtherPassword first second) (no : OtherPassword first' second') :
    OtherPassword (if c then first else first') (if c then second else second') := by
  split
  · exact yes
  · exact no

variable {url url' : Url}

theorem masked (other : OtherPassword url url') : url'.masked = url.masked := by
  cases other with
  | same => rfl
  | other url p q => exact url.masked_eq_of_password

theorem port (other : OtherPassword url url') : url'.port = url.port := by
  cases other <;> rfl

theorem backend (other : OtherPassword url url') : url'.backend = url.backend := by
  cases other <;> rfl

end Url.OtherPassword

/-! ## The world -/

namespace World

/-- Two worlds that differ in nothing but what the database was asked. -/
def Asked (s t : World) : Prop :=
  ∃ trace, t = { s with trace := trace }

theorem parallel_request (event event' : Server.Event) :
    Parallel Asked (request event) (request event') := by
  rintro world _ ⟨trace, rfl⟩
  exact ⟨rfl, _, rfl⟩

theorem parallel_say (logger : String) (level : Log.Level) (message : String) :
    Parallel Asked (say logger level message) (say logger level message) := by
  rintro world _ ⟨trace, rfl⟩
  exact ⟨rfl, trace, rfl⟩

theorem parallel_pause (length : Pause) : Parallel Asked (pause length) (pause length) := by
  rintro world _ ⟨trace, rfl⟩
  rw [reply_pause, reply_pause, after_pause, after_pause]
  refine ⟨rfl, trace, ?_⟩
  dsimp only
  split <;> rfl

theorem parallel_createEngine {url url' : Url} (other : url.OtherPassword url') (echo : Bool) :
    Parallel Asked (createEngine url echo) (createEngine url' echo) := by
  rintro world _ ⟨trace, rfl⟩
  rw [reply_createEngine, reply_createEngine, after_createEngine, after_createEngine, other.masked]
  exact ⟨rfl, _, rfl⟩

theorem parallel_connect : Parallel Asked connect connect := by
  rintro world _ ⟨trace, rfl⟩
  rw [reply_connect, reply_connect, after_connect, after_connect]
  exact ⟨rfl, _, rfl⟩

theorem parallel_execute (sql : String) : Parallel Asked (execute sql) (execute sql) := by
  rintro world _ ⟨trace, rfl⟩
  rw [reply_execute, reply_execute, after_execute, after_execute]
  exact ⟨rfl, _, rfl⟩

theorem parallel_columns (result : Nat) : Parallel Asked (columns result) (columns result) := by
  rintro world _ ⟨trace, rfl⟩
  exact ⟨rfl, trace, rfl⟩

theorem parallel_fetch (result : Nat) : Parallel Asked (fetch result) (fetch result) := by
  rintro world _ ⟨trace, rfl⟩
  rw [reply_fetch, reply_fetch, after_fetch, after_fetch]
  exact ⟨rfl, _, rfl⟩

end World

open World (Asked)

/-! ## Waiting for a database -/

namespace Availability

theorem parallel_tryConnection : Parallel Asked tryConnection tryConnection := by
  refine World.parallel_connect.bind fun connected => ?_
  cases connected with
  | ok => exact (World.parallel_request _ _).bind fun _ => Parallel.pure true
  | error text => exact (World.parallel_say _ _ _).bind fun _ => Parallel.pure false

/-- Whether a database accepts connections shows nothing of its URL. -/
theorem parallel_check {url url' : Url} (other : url.OtherPassword url') :
    Parallel Asked (check url) (check url') := by
  refine (World.parallel_createEngine other false).bind fun made => ?_
  cases made with
  | ok => exact parallel_tryConnection.ensuring (World.parallel_request _ _)
  | error text => exact Parallel.throw _

theorem parallel_attempts {url url' : Url} (other : url.OtherPassword url') (retries : Int)
    (delay : Pause) (left : Nat) :
    Parallel Asked (attempts url retries delay left) (attempts url' retries delay left) := by
  induction left with
  | zero => exact Parallel.pure false
  | succ left ih =>
    refine (parallel_check other).bind fun available => Parallel.ite _ ?_ (Parallel.ite _ ?_ ih)
    · exact (Parallel.lift _).bind fun _ => (World.parallel_say _ _ _).bind fun _ =>
        Parallel.pure true
    · exact (Parallel.lift _).bind fun _ => (Parallel.lift _).bind fun _ =>
        (World.parallel_say _ _ _).bind fun _ => (World.parallel_pause delay).bind fun _ => ih

/-- Waiting for a database shows its URL without the password. -/
theorem parallel_wait {url url' : Url} (other : url.OtherPassword url') (retries : Int)
    (delay : Pause) : Parallel Asked (wait url retries delay) (wait url' retries delay) := by
  rw [wait, wait, place, place, other.masked, other.port]
  refine (Parallel.lift _).bind fun _ => (World.parallel_say _ _ _).bind fun _ =>
    (parallel_attempts other retries delay retries.toNat).bind fun available =>
      Parallel.ite _ (Parallel.pure ()) ?_
  exact (Parallel.lift _).bind fun _ => (World.parallel_say _ _ _).bind fun _ => Parallel.throw _

end Availability

/-! ## Clients -/

namespace Client

/-- Two clients that differ in nothing but the password, in worlds that differ in what the database
was asked. -/
def OtherPassword (state state' : Client × World) : Prop :=
  ∃ url, state.1.url.OtherPassword url ∧ state'.1 = { state.1 with url := url } ∧
    Asked state.2 state'.2

theorem parallel_onWorld {α : Type} {action action' : Action World α}
    (parallel : Parallel Asked action action') :
    Parallel OtherPassword (Action.onWorld action) (Action.onWorld action') := by
  refine parallel.within ?_ ?_
  · rintro state state' ⟨url, other, client, asked⟩
    exact asked
  · rintro state state' world world' ⟨url, other, client, -⟩ asked
    exact ⟨url, other, client, asked⟩

/-- A change of a client that has nothing to do with its URL. -/
theorem parallel_modify (change : Client → Client)
    (url : ∀ client, (change client).url = client.url)
    (rest : ∀ client url, change { client with url := url } = { change client with url := url }) :
    Parallel OtherPassword (modify fun (client, world) => (change client, world))
      (modify fun (client, world) => (change client, world)) := by
  refine Parallel.modify ?_
  rintro ⟨client, world⟩ ⟨_, world'⟩ ⟨url', other, rfl, asked⟩
  exact ⟨url', (url client).symm ▸ other, rest client url', asked⟩

theorem parallel_ensureEngine : Parallel OtherPassword ensureEngine ensureEngine := by
  refine Parallel.get_bind ?_
  rintro ⟨client, world⟩ ⟨_, world'⟩ ⟨url, other, rfl, asked⟩
  refine Parallel.ite _ (Parallel.pure _) ?_
  refine (parallel_onWorld (World.parallel_createEngine other client.echo)).bind fun made => ?_
  cases made with
  | error text => exact Parallel.pure _
  | ok =>
    exact (parallel_modify (fun client => { client with hasEngine := true }) (fun _ => rfl)
      fun _ _ => rfl).bind fun _ => Parallel.pure _

theorem parallel_openConnection : Parallel OtherPassword openConnection openConnection := by
  refine parallel_ensureEngine.bind fun made => ?_
  cases made with
  | error text => exact Parallel.pure _
  | ok => exact parallel_onWorld World.parallel_connect

theorem parallel_connect : Parallel OtherPassword connect connect := by
  refine Parallel.get_bind ?_
  rintro ⟨client, world⟩ ⟨_, world'⟩ ⟨url, other, rfl, asked⟩
  refine Parallel.ite _ (Parallel.pure _) (parallel_openConnection.bind fun connected => ?_)
  cases connected with
  | error text =>
    exact (parallel_modify (fun client => { client with lastError := some text }) (fun _ => rfl)
      fun _ _ => rfl).bind fun _ => Parallel.throw _
  | ok =>
    refine (parallel_onWorld (World.parallel_request _ _)).bind fun _ =>
      (parallel_modify (fun client => { client with connected := true }) (fun _ => rfl)
        fun _ _ => rfl).bind fun _ => ?_
    dsimp only
    rw [other.masked]
    exact parallel_onWorld (World.parallel_say _ _ _)

theorem parallel_execute (sql : String) : Parallel OtherPassword (execute sql) (execute sql) := by
  refine Parallel.get_bind ?_
  rintro ⟨client, world⟩ ⟨_, world'⟩ ⟨url, other, rfl, asked⟩
  refine Parallel.ite _ (Parallel.throw _) ?_
  refine (parallel_onWorld (World.parallel_execute sql)).bind fun result => ?_
  cases result with
  | error text =>
    exact (parallel_modify (fun client => { client with lastError := some text }) (fun _ => rfl)
      fun _ _ => rfl).bind fun _ => Parallel.throw _
  | ok result =>
    exact (parallel_modify
      (fun client => { client with lastError := none, lastResult := some result }) (fun _ => rfl)
      fun _ _ => rfl).bind fun _ => Parallel.pure _

theorem parallel_fetchRow (result : Nat) (mode : RowMode) :
    Parallel OtherPassword (fetchRow result mode) (fetchRow result mode) := by
  refine parallel_onWorld ((World.parallel_columns result).bind fun columns => ?_)
  cases columns with
  | none => exact Parallel.pure _
  | some columns =>
    refine (World.parallel_fetch result).bind fun row => ?_
    cases row with
    | none => exact Parallel.pure _
    | some cells => cases mode <;> exact Parallel.pure _

theorem parallel_close : Parallel OtherPassword close close := by
  refine Parallel.get_bind ?_
  rintro ⟨client, world⟩ ⟨_, world'⟩ ⟨url, other, rfl, asked⟩
  have dispose : Parallel OtherPassword
      (if client.hasEngine then Action.onWorld (World.request .dispose) else pure ())
      (if client.hasEngine then Action.onWorld (World.request .dispose) else pure ()) :=
    Parallel.ite _ (parallel_onWorld (World.parallel_request _ _)) (Parallel.pure _)
  refine Parallel.ite _ ?_ dispose
  exact (parallel_onWorld (World.parallel_request _ _)).bind fun _ =>
    (parallel_modify (fun client => { client with connected := false }) (fun _ => rfl)
      fun _ _ => rfl).bind fun _ => dispose

/-- Whatever is asked of a client shows nothing of the password. -/
theorem parallel_perform (call : Call) : Parallel OtherPassword call.perform call.perform := by
  cases call with
  | connect => exact parallel_connect
  | execute sql => exact parallel_execute sql
  | close => exact parallel_close
  | fetchRow result mode => exact parallel_fetchRow result mode
  | columnNames result =>
    exact (parallel_onWorld (World.parallel_columns result)).bind fun _ => Parallel.pure _
  | free result => exact parallel_onWorld (World.parallel_request _ _)
  | affectedRows | insertId =>
    refine Parallel.get_bind ?_
    rintro ⟨⟨_, _, _, _, _, lastResult, _⟩, world⟩ ⟨_, _⟩ ⟨url, other, rfl, trace, rfl⟩
    cases lastResult <;> exact Parallel.pure _
  | escape | rowCount | lastError =>
    refine Parallel.get_bind ?_
    rintro ⟨client, world⟩ ⟨_, _⟩ ⟨url, other, rfl, trace, rfl⟩
    exact Parallel.pure _

/-- There is no client for either URL, or clients that differ in nothing but the password. -/
theorem create_cases {url url' : Url} (other : url.OtherPassword url') (echo hasEngine : Bool) :
    (∃ failure, create url echo hasEngine = .error failure ∧
      create url' echo hasEngine = .error failure) ∨
    ∃ client, create url echo hasEngine = .ok client ∧
      create url' echo hasEngine = .ok { client with url := url' } ∧
      ∀ world, OtherPassword (client, world) ({ client with url := url' }, world) := by
  rw [create, create, other.backend]
  cases Dialect.find url.backend with
  | error failure => exact .inl ⟨failure, rfl, rfl⟩
  | ok dialect =>
    exact .inr ⟨_, rfl, rfl, fun world => ⟨url', other, rfl, world.trace, rfl⟩⟩

theorem parallel_runAll (calls : List Call) {state state' : Client × World}
    (alike : OtherPassword state state') :
    OtherPassword (runAll calls state) (runAll calls state') := by
  induction calls generalizing state state' with
  | nil => exact alike
  | cons call calls ih => exact ih (parallel_perform call alike).2

end Client

/-! ## Settings -/

namespace Settings

/-- What the settings say about their database. -/
def Database.target (database : Database) : Target :=
  ⟨some database.drivername, some database.host, database.port, some database.user,
    some database.password, some database.database, some database.charset⟩

/-- The URL of the configured database as it may be shown. -/
def connectionString (settings : Settings) : String :=
  (settings.url settings.database.target).masked

/-- To say about a database what the settings say is to say nothing. -/
theorem url_target (settings : Settings) :
    settings.url settings.database.target = settings.url Target.unstated := by
  have drivername : ((some settings.database.drivername).bind nonempty).getD
      settings.database.drivername = settings.database.drivername := by
    rw [Option.bind_some, nonempty]
    split <;> rfl
  simp only [url, Database.target, Target.unstated, drivername, Option.getD_some, Option.or_self,
    Option.bind_none, Option.getD_none, Option.none_or]
  rfl

def withPassword (settings : Settings) (password : String) : Settings :=
  { settings with database := { settings.database with password := password } }

section Environments

variable {environment environment' : Environment} {settings settings' : Settings}

theorem password_of_ofEnvironment (found : ofEnvironment environment = .ok settings) :
    settings.database.password = (environment.lookup "SAFESQL_PASSWORD").getD "" := by
  obtain ⟨port, -, found⟩ := Except.bind_eq_ok.mp found
  obtain ⟨statsLimit, -, found⟩ := Except.bind_eq_ok.mp found
  cases found
  rfl

theorem ofEnvironment_of_rest
    (rest : ∀ name, name ≠ "SAFESQL_PASSWORD" →
      environment'.lookup name = environment.lookup name) :
    ofEnvironment environment' = (ofEnvironment environment).map
      fun settings => settings.withPassword ((environment'.lookup "SAFESQL_PASSWORD").getD "") := by
  unfold ofEnvironment
  simp (disch := decide) only [rest]
  cases ((environment.lookup "SAFESQL_PORT").bind nonempty).mapM whole with
  | error failure => rfl
  | ok port =>
    cases whole ((environment.lookup "SAFESQL_STATS_LIMIT").getD "100") <;> rfl

/-- Settings that differ in nothing but the password, of which there is one in both or in none. -/
def OtherPassword (settings settings' : Settings) : Prop :=
  settings' = settings.withPassword settings'.database.password ∧
    EitherPassword (nonempty settings.database.password) (nonempty settings'.database.password)

/-- Two environments fail alike, or give settings that differ in nothing but the password. -/
theorem ofEnvironment_cases (other : environment.OtherPassword environment') :
    (∃ failure, ofEnvironment environment = .error failure ∧
      ofEnvironment environment' = .error failure) ∨
    ∃ settings settings', ofEnvironment environment = .ok settings ∧
      ofEnvironment environment' = .ok settings' ∧ settings.OtherPassword settings' := by
  have changed := ofEnvironment_of_rest other.rest
  cases found : ofEnvironment environment with
  | error failure =>
    rw [found] at changed
    exact .inl ⟨failure, rfl, changed⟩
  | ok settings =>
    rw [found] at changed
    refine .inr ⟨settings, _, rfl, changed, rfl, ?_⟩
    rw [password_of_ofEnvironment found]
    exact other.password.nonempty

/-- The URL for a caller is the same but for the password. -/
theorem url_otherPassword {target target' : Target} (ours : settings.OtherPassword settings')
    (theirs : target.OtherPassword target') :
    (settings.url target).OtherPassword (settings'.url target') := by
  have password := theirs.password.getD ours.2
  rw [ours.1, theirs.rest]
  exact .ite _ (.same _) (.of_eitherPassword rfl password)

theorem connectionString_eq (ours : settings.OtherPassword settings') :
    settings'.connectionString = settings.connectionString := by
  have unstated : Target.unstated.OtherPassword Target.unstated := ⟨rfl, .same none⟩
  rw [connectionString, connectionString, url_target, url_target]
  exact (url_otherPassword ours unstated).masked

/-- Two runs with two passwords, from the environment or from the caller, look the same: both fail
to find settings, or they show the same URLs, wait for the database with the same messages, pauses
and outcome, and make clients that take any calls alike, with the same answers, failures, messages
and last error. The worlds that they leave differ in nothing but what the database was asked. -/
theorem passwords_hidden {target target' : Target}
    (environments : environment.OtherPassword environment')
    (targets : target.OtherPassword target') :
    (∃ failure, ofEnvironment environment = .error failure ∧
      ofEnvironment environment' = .error failure) ∨
    ∃ settings settings', ofEnvironment environment = .ok settings ∧
      ofEnvironment environment' = .ok settings' ∧
      settings'.connectionString = settings.connectionString ∧
      let url := settings.url target
      let url' := settings'.url target'
      url'.masked = url.masked ∧
      Parallel Asked (Availability.check url) (Availability.check url') ∧
      (∀ retries delay,
        Parallel Asked (Availability.wait url retries delay)
          (Availability.wait url' retries delay)) ∧
      ∀ echo hasEngine,
        (∃ failure, Client.create url echo hasEngine = .error failure ∧
          Client.create url' echo hasEngine = .error failure) ∨
        ∃ client, Client.create url echo hasEngine = .ok client ∧
          Client.create url' echo hasEngine = .ok { client with url := url' } ∧
          ∀ world calls,
            let now := Client.runAll calls (client, world)
            let now' := Client.runAll calls ({ client with url := url' }, world)
            Asked now.2 now'.2 ∧ now'.1.lastError = now.1.lastError ∧
            ∀ call : Client.Call, reply call.perform now = reply call.perform now' := by
  obtain failed | ⟨settings, settings', found, found', ours⟩ := ofEnvironment_cases environments
  · exact .inl failed
  have other := url_otherPassword ours targets
  refine .inr ⟨settings, settings', found, found', connectionString_eq ours, other.masked,
    Availability.parallel_check other, Availability.parallel_wait other, fun echo hasEngine => ?_⟩
  obtain refused | ⟨client, made, made', fresh⟩ := Client.create_cases other echo hasEngine
  · exact .inl refused
  refine .inr ⟨client, made, made', fun world calls => ?_⟩
  have alike := Client.parallel_runAll calls (fresh world)
  have answers (call : Client.Call) := (Client.parallel_perform call alike).1
  obtain ⟨_, -, client, asked⟩ := alike
  exact ⟨asked, by rw [client], answers⟩

/-- Two passwords each from the environment and from the caller, and a database that cannot be
reached. -/
theorem passwords_hidden_refused :
    let environment (password : String) : Environment := [("SAFESQL_PASSWORD", password)]
    let target (password : String) : Target := { Target.unstated with password := some password }
    let script := { Server.Script.idle with connects := [some (.refusal "unknown host")] }
    let world := World.start .zero script
    ∃ settings settings', ofEnvironment (environment "one") = .ok settings ∧
      ofEnvironment (environment "two") = .ok settings' ∧
      let left := after (Availability.wait (settings.url (target "three")) 2 (.whole 5)) world
      let left' := after (Availability.wait (settings'.url (target "four")) 2 (.whole 5)) world
      settings'.connectionString = settings.connectionString ∧ left'.log = left.log ∧
        left'.pauses = left.pauses := by
  intro environment target script world
  have environments : (environment "one").OtherPassword (environment "two") := by
    refine ⟨fun name other => ?_, .other (by decide) (by decide)⟩
    simp only [environment, List.lookup_cons, beq_false_of_ne other]
  have targets : (target "three").OtherPassword (target "four") :=
    ⟨rfl, .other (by decide) (by decide)⟩
  obtain ⟨failure, failed, -⟩ | ⟨settings, settings', found, found', shown, -, -, waits, -⟩ :=
    passwords_hidden environments targets
  · have found : (ofEnvironment (environment "one")).isOk = true := by decide +kernel
    rw [failed] at found
    contradiction
  · obtain ⟨-, trace, left⟩ :=
      waits 2 (.whole 5) (s := world) (t := world) ⟨world.trace, rfl⟩
    exact ⟨settings, settings', found, found', shown, by rw [left], by rw [left]⟩

end Environments

end Settings

end SafeSql
