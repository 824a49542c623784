import SafeSql.Failure
import SafeSql.Url

/-!
# Settings

Settings come from named variables of the environment; each has a default. Whatever a caller
leaves open is taken from them.

## Main definitions

* `Environment` — the variables.
* `Settings`, `Settings.ofEnvironment` — the settings.
* `Target`, `Settings.url` — what a caller says about a database, and its URL.
-/

namespace SafeSql

abbrev Environment := List (String × String)

/-- How to reach a database; nothing is left open. -/
structure Settings.Database where
  drivername : String
  host : String
  port : Option Int
  user : String
  password : String
  database : String
  charset : String
  deriving DecidableEq, Repr

structure Settings.Templating where
  dialect : Option String
  errorMode : String
  statsLimit : Int
  deriving DecidableEq, Repr

structure Settings.Logging where
  level : String
  file : Option String
  directory : String
  deriving DecidableEq, Repr

structure Settings where
  database : Settings.Database
  templating : Settings.Templating
  logging : Settings.Logging
  deriving DecidableEq, Repr

/-- What a caller says about a database; the rest comes from the settings. -/
structure Target where
  drivername : Option String
  host : Option String
  port : Option Int
  user : Option String
  password : Option String
  database : Option String
  charset : Option String
  deriving DecidableEq, Repr

def Target.unstated : Target :=
  ⟨none, none, none, none, none, none, none⟩

def nonempty (text : String) : Option String :=
  if text.isEmpty then none else some text

namespace Settings

def whole (text : String) : Except Failure Int :=
  match Whole.read text.toList with
  | .ok n => .ok n
  | .error fault => .error (.refused (.badWhole fault))

def defaultDialect : String := "mysql"

def variableNames : List String :=
  ["SAFESQL_DRIVER", "SAFESQL_HOST", "SAFESQL_PORT", "SAFESQL_USER", "SAFESQL_PASSWORD",
    "SAFESQL_DB", "SAFESQL_CHARSET", "SAFESQL_DIALECT", "SAFESQL_ERRMODE", "SAFESQL_STATS_LIMIT",
    "SAFESQL_LOG_LEVEL", "SAFESQL_LOG_FILE", "SAFESQL_LOG_DIR"]

def ofEnvironment (environment : Environment) : Except Failure Settings := do
  let get (name default : String) : String := (environment.lookup name).getD default
  let given (name : String) : Option String := (environment.lookup name).bind nonempty
  let port ← (given "SAFESQL_PORT").mapM whole
  let statsLimit ← whole (get "SAFESQL_STATS_LIMIT" "100")
  pure {
    database := {
      drivername := get "SAFESQL_DRIVER" "mysql+pymysql"
      host := get "SAFESQL_HOST" "localhost"
      port := port
      user := get "SAFESQL_USER" "root"
      password := get "SAFESQL_PASSWORD" ""
      database := get "SAFESQL_DB" "test"
      charset := get "SAFESQL_CHARSET" "utf8mb4" }
    templating := {
      dialect := given "SAFESQL_DIALECT"
      errorMode := get "SAFESQL_ERRMODE" "exception"
      statsLimit := statsLimit }
    logging := {
      level := get "SAFESQL_LOG_LEVEL" "INFO"
      file := given "SAFESQL_LOG_FILE"
      directory := get "SAFESQL_LOG_DIR" "logs" } }

/-- The URL of a database, from what the caller says and the settings. A database in a file
needs its name only; an empty password is none; the character set matters to MySQL alone. -/
def url (settings : Settings) (target : Target) : Url :=
  let ours := settings.database
  let drivername := (target.drivername.bind nonempty).getD ours.drivername
  let database := target.database.getD ours.database
  if Url.isFile drivername then ⟨drivername, none, none, none, none, some database, []⟩
  else
    let charset := target.charset.getD ours.charset
    { drivername := drivername
      username := some (target.user.getD ours.user)
      password := nonempty (target.password.getD ours.password)
      host := some (target.host.getD ours.host)
      port := target.port.or ours.port
      database := some database
      query :=
        if Url.isMysql drivername && !charset.isEmpty then [("charset", charset)] else [] }

end Settings

end SafeSql
