import SafeSql.Availability
import SafeSql.CommandLine.Usage
import SafeSql.Database.Results
import SafeSql.Json.Printer
import SafeSql.Json.Reader
import SafeSql.Log.Registry

/-!
# The command line

Renders a template from the command line, executes it on demand, or waits for the database. What
is printed is the rendered SQL or the rows as JSON; messages go to the log.

## Main definitions

* `CommandLine.Console` — what was printed, and the outside world.
* `CommandLine.perform` — what the options ask for.
* `CommandLine.guarded` — the same with failures as exit codes.
* `CommandLine.run` — a whole command line, with all that it wrote.
-/

namespace SafeSql.CommandLine

structure Console where
  printed : String
  complaints : String

def logger : String := "main"

def print (text : String) : Action (Console × World) Unit :=
  modify fun (console, world) =>
    ({ console with printed := console.printed ++ text ++ "\n" }, world)

def printRaw (text : String) : Action (Console × World) Unit :=
  modify fun (console, world) => ({ console with printed := console.printed ++ text }, world)

def usageCode : Nat := 2

def complain {α : Type} (stop : Stop) : Action (Console × World) α := do
  modify fun (console, world) =>
    ({ console with complaints := console.complaints ++ Usage.complaint stop }, world)
  throw (.exit usageCode)

def fits : Json.Form → Value → Bool
  | .array, .list _ => true
  | .object, .map .. => true
  | _, _ => false

def readJson (option : String) (form : Json.Form) (given : Given) : Except Failure Value :=
  match given with
  | .nothing => .error .noJson
  | .text source =>
    match Json.read source.toList with
    | .error (.tooManyDigits digits) => .error (.refused (.badWhole (.tooLong digits)))
    | .error (.loneHalf code) => .error (.refused (.loneHalf code))
    | .error (.malformed problem position) =>
      .error (.refused (.badOption (option ++ " is not valid JSON: "
        ++ Json.located source.toList problem position)))
    | .ok value =>
      if fits form value then .ok value
      else .error (.refused (.badOption (option ++ " must be a JSON " ++ form.label)))

inductive Arguments
  | positional (values : List Value)
  | named (values : Value)

def readArguments (options : Options) : Except Failure Arguments := do
  let positional ←
    match options.arguments with
    | none => pure []
    | some given => Value.items <$> readJson "--args" .array given
  match options.named with
  | none => pure (.positional positional)
  | some given => Arguments.named <$> readJson "--named" .object given

def onDatabase {α : Type} (action : Action (Database × World) α) :
    Action ((Console × Database) × World) α :=
  action.within (fun ((_, database), world) => (database, world))
    fun ((console, _), _) (database, world) => ((console, database), world)

def onConsole {α : Type} (action : Action (Console × World) α) :
    Action ((Console × Database) × World) α :=
  action.within (fun ((console, _), world) => (console, world))
    fun ((_, database), _) (console, world) => ((console, database), world)

/-- All rows of a template. Named values are put in first, and the finished statement is then
executed as it is. -/
def allRows (template : String) : Arguments → Action (Database × World) (List Value)
  | .positional values => Database.getAll (.text template) values none
  | .named values => do
    let sql ← Database.parseNamed (.text template) values none
    Database.getAll (.text "?p") [.raw sql] none

def printRows (template : String) (arguments : Arguments) :
    Action ((Console × Database) × World) Unit := do
  let rows ← onDatabase (allRows template arguments)
  let text ← Action.lift (Json.write (.list rows))
  onConsole (print (String.ofList text))
  let ((_, database), _) ← get
  let last := database.statistics.lastQuery.getD "None"
  Action.onWorld (World.say logger Log.debug ("Executed: " ++ last))

/-- Executes a template on the database of the settings; its connection is closed in any
case. -/
def execute (settings : Settings) (dialect : Option String) (template : String)
    (arguments : Arguments) : Action (Console × World) Unit := do
  let database ← Action.onWorld
    (Database.create settings { Database.Options.unstated with dialect := dialect } none
      Target.unstated)
  fun (console, world) =>
    match (printRows template arguments).ensuring (onDatabase Database.close)
        ((console, database), world) with
    | .ok () ((console, _), world) => .ok () (console, world)
    | .error failure ((console, _), world) => .error failure (console, world)

def preview (settings : Settings) (dialect : Option String) (template : String)
    (arguments : Arguments) : Action (Console × World) Unit := do
  let name := (dialect.or settings.templating.dialect).getD Settings.defaultDialect
  let d ← Action.lift (Dialect.find name)
  let report ← Action.lift (Report.create settings.templating.errorMode .itself)
  let outcome :=
    match arguments with
    | .positional values => Rendering.positional d (.text template) values none
    | .named values => Rendering.named d (.text template) values none
  print (← Action.onWorld (Database.settle report none outcome))

def helpText (settings : Settings) : Except Failure String :=
  (Usage.help (settings.templating.dialect.getD Settings.defaultDialect)
    settings.logging.level).mapError .pattern

def retries : Int := 3

def delay : Pause := .whole 1

/-- What the options ask for; the value is the exit code. -/
def perform (settings : Settings) (options : Options) : Action (Console × World) Nat := do
  if options.checkConnection then
    Action.onWorld (Availability.wait (settings.url Target.unstated) retries delay)
    return 0
  match options.template with
  | none =>
    printRaw (← Action.lift (helpText settings))
    Action.onWorld (World.say logger Log.warning "No template given")
    return 1
  | some template =>
    if options.named.isSome && options.arguments.isSome then complain .bothValues
    let arguments ← Action.lift (readArguments options)
    if options.execute then execute settings options.dialect template arguments
    else preview settings options.dialect template arguments
    return 0

def interruptCode : Nat := 130

def isExpected : Failure → Bool
  | .query _ | .unavailable _ | .refused _ => true
  | .server kind _ => kind.forValues
  | .pause fault => fault ≠ .tooLong
  | .pattern fault => fault.isMalformed
  | _ => false

/-- What the options ask for, with the failures that a user can expect as exit codes. -/
def guarded (settings : Settings) (options : Options) : Action (Console × World) Nat := do
  match ← (perform settings options).outcome with
  | .ok code => pure code
  | .error (.interrupt _) =>
    Action.onWorld (World.say logger Log.warning "Operation interrupted by user")
    pure interruptCode
  | .error failure =>
    if isExpected failure then
      Action.onWorld (World.say logger Log.error failure.message)
      pure 1
    else throw failure

def logSetup (settings : Settings) (options : Options) : Log.Setup :=
  { Log.Setup.unstated with
    level :=
      some (if options.verbose then "DEBUG" else options.logLevel.getD settings.logging.level)
    file := settings.logging.file
    directory := some settings.logging.directory }

structure Outcome where
  result : Except Failure Nat
  printed : String
  errors : String
  files : Files.Tree
  world : World

/-- The exit code of an outcome: a failure that nothing else was said about is an error. -/
def Outcome.code (outcome : Outcome) : Nat :=
  match outcome.result with
  | .ok code | .error (.exit code) => code
  | .error _ => 1

def Outcome.farewell (outcome : Outcome) : String :=
  match outcome.result with
  | .ok _ | .error (.exit _) => ""
  | .error failure => failure.message ++ "\n"

/-- The outcome of a command line that ends before anything is done. -/
def Outcome.early (result : Except Failure Nat) (printed errors : String) (world : World) :
    Outcome :=
  ⟨result, printed, errors, Files.Tree.start, world⟩

/-- A whole command line: its options are read, logging is set up, and what they ask for is
done. -/
def run (words : List String) (settings : Settings) (world : World) : Outcome :=
  match Options.parse words with
  | .error .help =>
    match helpText settings with
    | .ok text => .early (.error (.exit 0)) text "" world
    | .error failure => .early (.error failure) "" "" world
  | .error stop => .early (.error (.exit usageCode)) "" (Usage.complaint stop) world
  | .ok options =>
    match Log.Registry.setup (logSetup settings options) Log.Registry.start with
    | .error failure registry => ⟨.error failure, "", "", registry.files, world⟩
    | .ok () registry =>
      let finish (result : Except Failure Nat) (console : Console) (after : World) : Outcome :=
        let written := after.log.foldl Log.Registry.emit registry
        ⟨result, console.printed, written.console ++ console.complaints, written.files, after⟩
      match guarded settings options (⟨"", ""⟩, world) with
      | .ok code (console, after) => finish (.ok code) console after
      | .error failure (console, after) => finish (.error failure) console after

end SafeSql.CommandLine
