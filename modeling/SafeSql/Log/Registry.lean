import SafeSql.Files.Tree
import SafeSql.Log.Record
import SafeSql.Text.UpperCase

/-!
# Logging

Messages go through loggers whose names form a hierarchy by their dots: a logger without a level
of its own has that of the nearest one above it. What passes its logger is written by every
handler whose level it reaches, to the console or to a file.

## Main definitions

* `Log.levelOfName` — the level with a name.
* `Log.Handler`, `Log.Handler.line` — a place for messages, and a message as written there.
* `Log.Logger`, `Log.above` — a logger, and the names of those above it.
* `Log.Registry` — the loggers, the handlers and what was written.
* `Log.Registry.setup`, `Log.Registry.getLogger`, `Log.Registry.emit` — the operations.
-/

namespace SafeSql.Log

def levelNames : List (String × Level) :=
  [("DEBUG", debug), ("INFO", info), ("WARN", warning), ("WARNING", warning), ("ERROR", error),
    ("CRITICAL", critical), ("FATAL", critical), ("NOTSET", 0)]

def plainFormName : String := "BASIC_FORMAT"

def plainForm : String := "%(levelname)s:%(name)s:%(message)s"

/-- The name of the table of the styles that forms of messages are written in. -/
def stylesName : String := "_STYLES"

def stylesShown : String :=
  "\x7b'%': (<class 'logging.PercentStyle'>, '" ++ plainForm ++ "'), '\x7b': "
    ++ "(<class 'logging.StrFormatStyle'>, '\x7blevelname\x7d:\x7bname\x7d:\x7bmessage\x7d'), '$': "
    ++ "(<class 'logging.StringTemplateStyle'>, "
    ++ "'$\x7blevelname\x7d:$\x7bname\x7d:$\x7bmessage\x7d')\x7d"

/-- The level with a name in any case. Two names stand for something else than a level. -/
def levelOfName (name : String) : Except Failure Level :=
  let upper := String.ofList (Text.upperCase name.toList)
  match levelNames.lookup upper with
  | some level => .ok level
  | none =>
    if upper = plainFormName then .error (.refused (.unknownLevel plainForm))
    else if upper = stylesName then .error (.notLevel stylesShown)
    else .error (.unknownLevel upper)

inductive Sink
  | nowhere
  | console
  | file (place : Files.Place)
  deriving DecidableEq, Repr

/-- A place for messages of at least a level; on a console the names of levels can have colors. -/
structure Handler where
  sink : Sink
  colored : Bool
  level : Level
  deriving DecidableEq, Repr

/-- The color of a level: none for levels without a name of their own. -/
def color? (level : Level) : Option (List Char) :=
  if level = debug then some ['3', '6']
  else if level = info then some ['3', '2']
  else if level = warning then some ['3', '3']
  else if level = error then some ['3', '1']
  else if level = critical then some ['3', '5']
  else none

def escapeSequence (code : List Char) : List Char :=
  ['\x1b', '['] ++ code ++ ['m']

def coloredName (level : Level) : String :=
  match color? level with
  | none => levelName level
  | some code =>
    String.ofList (escapeSequence code ++ (levelName level).toList ++ escapeSequence ['0'])

def timeText (time : Binary64) : String :=
  String.ofList (Calendar.stamp (time.floor?.getD 0))

/-- A message as a handler writes it: the time, the logger, the level and the text. -/
def Handler.line (handler : Handler) (record : Record) : String :=
  let level := if handler.colored then coloredName record.level else levelName record.level
  timeText record.time ++ " - " ++ record.logger ++ " - " ++ level ++ " - " ++ record.message
    ++ "\n"

/-- A logger below the one above all others: its name, its own level, zero when it has none, and
the nearest logger above it that was known when this one or that one was made. -/
structure Logger where
  name : String
  level : Level
  parent : Option String
  deriving DecidableEq, Repr

def rootName : String := "root"

def isRoot (name : String) : Bool :=
  name.isEmpty || name = rootName

def shownName (name : String) : String :=
  if isRoot name then rootName else name

/-- What stands before the dots of a name that is given backwards, from the last dot on. A dot
that follows another one directly counts for nothing, nor does one at the start. -/
def beforeDots : List Char → List (List Char)
  | [] => []
  | '.' :: c :: before => (c :: before).reverse :: beforeDots before
  | _ :: before => beforeDots before

/-- The names that loggers above a logger can have, the nearest first. -/
def above (name : String) : List String :=
  (beforeDots name.toList.reverse).map String.ofList

structure Registry where
  root : Level
  /-- The other loggers, in the order in which they were made. -/
  loggers : List Logger
  handlers : List Handler
  console : String
  files : Files.Tree

structure Setup where
  /-- The name of a level; there has to be one. -/
  level : Option String
  file : Option String
  directory : Option String
  console : Bool
  colors : Bool

def Setup.unstated : Setup :=
  ⟨some "INFO", none, none, true, true⟩

def defaultDirectory : String := "logs"

namespace Registry

/-- Before anything was set up: warnings pass and are written nowhere. -/
def start : Registry :=
  ⟨warning, [], [⟨.nowhere, false, 0⟩], "", Files.Tree.start⟩

def find? (registry : Registry) (name : String) : Option Logger :=
  registry.loggers.find? (·.name = name)

/-- A logger with a new one above it. It stays below a logger whose name begins with that of the
new one. -/
def moveBelow (logger : Logger) (name : String) : Logger :=
  let present := logger.parent.getD rootName
  if (above logger.name).contains name && !name.toList.isPrefixOf present.toList then
    { logger with parent := some name }
  else logger

def ensureLogger (registry : Registry) (name : String) : Registry :=
  if isRoot name || (registry.find? name).isSome then registry
  else
    let parent := (above name).find? fun other => (registry.find? other).isSome
    { registry with
      loggers := registry.loggers.map (moveBelow · name) ++ [⟨name, 0, parent⟩] }

/-- The level of a logger itself; zero when it has none. -/
def ownLevel (registry : Registry) (name : String) : Level :=
  if isRoot name then registry.root else ((registry.find? name).map (·.level)).getD 0

/-- The level of a logger or of the nearest one above it that has a level, as far up as there is
fuel. -/
def levelFrom (registry : Registry) : Nat → Option String → Level
  | 0, _ | _, none => registry.root
  | fuel + 1, some name =>
    match registry.find? name with
    | none => registry.root
    | some logger =>
      if logger.level ≠ 0 then logger.level else levelFrom registry fuel logger.parent

/-- The level that a message has to reach: that of the logger or of the nearest one above it
that has a level. -/
def effectiveLevel (registry : Registry) (name : String) : Level :=
  if isRoot name then registry.root
  else registry.levelFrom registry.loggers.length (some name)

def setLevel (registry : Registry) (name : String) (level : Level) : Registry :=
  if isRoot name then { registry with root := level }
  else
    let change (logger : Logger) : Logger :=
      if logger.name = name then { logger with level := level } else logger
    { registry with loggers := registry.loggers.map change }

/-- Makes the logger with a name unless it is there, and gives it a level when one is named. -/
def getLogger (name : String) (level : Option String) : Action Registry Unit := do
  modify (ensureLogger · name)
  match level with
  | none | some "" => pure ()
  | some level =>
    let level ← Action.lift (levelOfName level)
    modify (setLevel · name level)

def onFiles {α : Type} (action : Action Files.Tree α) : Action Registry α :=
  action.within (·.files) fun registry files => { registry with files := files }

/-- Opens a file in a directory, which is made when it is missing. -/
def openFile (directory : Option String) (file : String) : Action Registry Files.Place := do
  let directory :=
    match directory with
    | none | some "" => defaultDirectory
    | some directory => directory
  let path := Files.Path.ofText directory
  onFiles (Files.Tree.ensureDirectory path)
  onFiles (Files.Tree.openFile (path.child (Files.Path.ofText file)))

/-- Sets up the handlers anew, all with one level; a file is opened at once. When that fails the
console is set up all the same. -/
def setup (wanted : Setup) : Action Registry Unit := do
  let level ←
    match wanted.level with
    | none => throw .unnamedLevel
    | some name => Action.lift (levelOfName name)
  let console : List Handler :=
    if wanted.console then [⟨.console, wanted.colors, level⟩] else []
  modify fun registry => { registry with root := level, handlers := console }
  match wanted.file with
  | none | some "" => pure ()
  | some file =>
    let place ← openFile wanted.directory file
    modify fun registry =>
      { registry with handlers := registry.handlers ++ [⟨.file place, false, level⟩] }

/-- A message written by one handler, if it reaches the level of the handler. -/
def write (record : Record) (registry : Registry) (handler : Handler) : Registry :=
  if record.level < handler.level then registry
  else
    match handler.sink with
    | .nowhere => registry
    | .console => { registry with console := registry.console ++ handler.line record }
    | .file place =>
      { registry with files := registry.files.append place (handler.line record) }

/-- A message when there is no handler: warnings and worse go to the console as they are. -/
def writeBare (record : Record) (registry : Registry) : Registry :=
  if record.level < warning then registry
  else { registry with console := registry.console ++ record.message ++ "\n" }

def passes (registry : Registry) (record : Record) : Bool :=
  0 < record.level && registry.effectiveLevel record.logger ≤ record.level

/-- Logs a message; its logger is made unless it is there. -/
def emit (registry : Registry) (record : Record) : Registry :=
  let registry := registry.ensureLogger record.logger
  if registry.passes record then
    let record := { record with logger := shownName record.logger }
    if registry.handlers.isEmpty then writeBare record registry
    else registry.handlers.foldl (write record) registry
  else registry

end Registry

end SafeSql.Log
