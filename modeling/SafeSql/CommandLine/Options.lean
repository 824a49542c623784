import SafeSql.Text.Digit
import SafeSql.Text.Quoted

/-!
# Command-line options

The words of a command line are options and plain words. A long option can be shortened as long
as no other one begins the same way, and its value can stand behind an equals sign. A negative
number and a word with a blank in it are plain words, and so is everything behind `--`. One plain
word is taken: the template.

## Main definitions

* `Switch` — the options.
* `Word`, `Word.classify` — what a word of the command line is.
* `Given` — the value of an option.
* `Options`, `Options.parse` — what a command line asks for.
* `Stop` — why there is nothing more to do: help is wanted, or the command line is wrong.
-/

namespace SafeSql.CommandLine

inductive Switch
  | help
  | arguments
  | named
  | dialect
  | execute
  | checkConnection
  | logLevel
  | verbose
  deriving DecidableEq, Repr

namespace Switch

/-- The spellings of the options, in the order in which they are listed. -/
def spellings : List (String × Switch) :=
  [("-h", .help), ("--help", .help), ("--args", .arguments), ("--named", .named),
    ("--dialect", .dialect), ("--execute", .execute), ("--check-connection", .checkConnection),
    ("--log-level", .logLevel), ("--verbose", .verbose)]

/-- The name of an option in messages: all its spellings. -/
def title (switch : Switch) : String :=
  "/".intercalate ((spellings.filter (·.2 = switch)).map (·.1))

def hasValue : Switch → Bool
  | .arguments | .named | .dialect | .logLevel => true
  | .help | .execute | .checkConnection | .verbose => false

def choices : Switch → List String
  | .dialect => ["mysql", "postgresql", "sqlite"]
  | .logLevel => ["DEBUG", "INFO", "WARNING", "ERROR", "CRITICAL"]
  | _ => []

end Switch

inductive Stop
  | help
  | ambiguous (word : String) (matching : List String)
  | missingValue (switch : Switch)
  | needlessValue (switch : Switch) (value : String)
  | badChoice (switch : Switch) (value : String)
  | leftOver (words : List String)
  | bothValues
  deriving DecidableEq, Repr

def quoted (text : String) : String :=
  String.ofList (Text.Quoted.ofText text.toList)

def about (switch : Switch) (message : String) : String :=
  "argument " ++ switch.title ++ ": " ++ message

def Stop.message : Stop → String
  | .help => ""
  | .ambiguous word matching =>
    "ambiguous option: " ++ word ++ " could match " ++ ", ".intercalate matching
  | .missingValue switch => about switch "expected one argument"
  | .needlessValue switch value => about switch ("ignored explicit argument " ++ quoted value)
  | .badChoice switch value =>
    about switch ("invalid choice: " ++ quoted value ++ " (choose from "
      ++ ", ".intercalate (switch.choices.map quoted) ++ ")")
  | .leftOver words => "unrecognized arguments: " ++ " ".intercalate words
  | .bothValues => "--args and --named are mutually exclusive"

/-- A value that is part of the word of its option: behind the name of a long option and an equals
sign, or behind the letter of a short one, with or without such a sign. -/
inductive Attached
  | afterName (value : String)
  | afterLetter (value : String)
  deriving DecidableEq, Repr

inductive Word
  | plain (text : String)
  | separator
  | option (switch : Switch) (attached : Option Attached)
  | unknown (text : String)
  deriving DecidableEq, Repr

namespace Word

/-- Whether the text is written like a negative number: digits, with at most one point among or
before them. A line break can follow. -/
def isNegativeNumber (text : List Char) : Bool :=
  match text with
  | '-' :: rest =>
    let rest := if rest.getLast? = some '\n' then rest.dropLast else rest
    let whole := rest.takeWhile Text.isDigit
    match rest.drop whole.length with
    | [] => !whole.isEmpty
    | '.' :: fraction => !fraction.isEmpty && fraction.all Text.isDigit
    | _ => false
  | _ => false

def splitEquals (text : List Char) : List Char × Option (List Char) :=
  let name := text.takeWhile (· ≠ '=')
  match text.drop name.length with
  | _ :: value => (name, some value)
  | [] => (name, none)

def candidates (text : List Char) : List (String × Switch × Option Attached) :=
  match text with
  | '-' :: '-' :: _ =>
    let (name, value) := splitEquals text
    (Switch.spellings.filter fun entry => name.isPrefixOf entry.1.toList).map fun (spelling, switch) =>
      (spelling, switch, value.map fun value => .afterName (String.ofList value))
  | _ =>
    Switch.spellings.filterMap fun (spelling, switch) =>
      if spelling.toList = text.take 2 then
        some (spelling, switch, some (.afterLetter (String.ofList (text.drop 2))))
      else if text.isPrefixOf spelling.toList then some (spelling, switch, none)
      else none

def attach (name value : List Char) : Attached :=
  if name.length = 2 then .afterLetter (String.ofList value)
  else .afterName (String.ofList value)

def classifyDashed (word : String) : Except Stop Word :=
  let text := word.toList
  let (name, value) := splitEquals text
  match Switch.spellings.lookup (String.ofList name), value with
  | some switch, some value => .ok (.option switch (some (attach name value)))
  | _, _ =>
    match candidates text with
    | [(_, switch, attached)] => .ok (.option switch attached)
    | [] =>
      if isNegativeNumber text || text.contains ' ' then .ok (.plain word)
      else .ok (.unknown word)
    | several => .error (.ambiguous word (several.map (·.1)))

def classify (word : String) : Except Stop Word :=
  match Switch.spellings.lookup word with
  | some switch => .ok (.option switch none)
  | none =>
    match word.toList with
    | '-' :: _ :: _ => classifyDashed word
    | _ => .ok (.plain word)

def classifyAll : List String → Except Stop (List Word)
  | [] => .ok []
  | word :: rest =>
    if word = "--" then .ok (.separator :: rest.map .plain)
    else do
      let first ← classify word
      let others ← classifyAll rest
      pure (first :: others)

/-- The word as it stood in the command line, unless it is an option. -/
def text : Word → String
  | .plain text | .unknown text => text
  | .separator => "--"
  | .option switch _ => switch.title

end Word

inductive Given
  | text (value : String)
  /-- A lone separator in the place of a value: there is none. -/
  | nothing
  deriving DecidableEq, Repr

def Given.ofText (value : String) : Given :=
  if value = "--" then .nothing else .text value

def Given.text? : Given → Option String
  | .text value => some value
  | .nothing => none

structure Options where
  template : Option String
  arguments : Option Given
  named : Option Given
  dialect : Option String
  execute : Bool
  checkConnection : Bool
  logLevel : Option String
  verbose : Bool
  deriving DecidableEq, Repr

namespace Options

def none : Options :=
  ⟨Option.none, Option.none, Option.none, Option.none, false, false, Option.none, false⟩

/-- The options with one of them set to a value. A separator in the place of the value takes back
what was said before about the dialect or the level. -/
def setValue (options : Options) (switch : Switch) (value : String) : Except Stop Options :=
  let given := Given.ofText value
  if given ≠ .nothing && !switch.choices.isEmpty && !switch.choices.contains value then
    .error (.badChoice switch value)
  else
    match switch with
    | .arguments => .ok { options with arguments := some given }
    | .named => .ok { options with named := some given }
    | .dialect => .ok { options with dialect := given.text? }
    | .logLevel => .ok { options with logLevel := given.text? }
    | _ => .ok options

def setFlag (options : Options) : Switch → Except Stop Options
  | .help => .error .help
  | .execute => .ok { options with execute := true }
  | .checkConnection => .ok { options with checkConnection := true }
  | .verbose => .ok { options with verbose := true }
  | _ => .ok options

/-- The letters behind a short option that has no value are further such options, up to a
character that is none. -/
def checkLetters (switch : Switch) : List Char → Except Stop Unit
  | [] => .ok ()
  | letter :: rest =>
    match Switch.spellings.lookup (String.ofList ['-', letter]) with
    | some next => checkLetters next rest
    | Option.none => .error (.needlessValue switch (String.ofList (letter :: rest)))

/-- The options with a switch whose value, if any, is part of its word. -/
def setAttached (options : Options) (switch : Switch) (attached : Attached) :
    Except Stop Options :=
  match attached with
  | .afterName value =>
    if switch.hasValue then options.setValue switch value
    else .error (.needlessValue switch value)
  | .afterLetter value =>
    if switch.hasValue then options.setValue switch value
    else if value.isEmpty then .error (.needlessValue switch value)
    else
      match checkLetters switch value.toList with
      | .error stop => .error stop
      | .ok () => options.setFlag switch

/-- The options that the words make, one after another, and the words that are left over. -/
def apply (options : Options) (taken : Bool) : List Word → Except Stop (Options × List String)
  | [] => .ok (options, [])
  | .plain text :: .separator :: rest =>
    if taken then .ok (options, text :: "--" :: rest.map Word.text)
    else .ok ({ options with template := some text }, rest.map Word.text)
  | .plain text :: rest =>
    if taken then (options.apply true rest).map fun (options, left) => (options, text :: left)
    else apply { options with template := some text } true rest
  | .separator :: rest =>
    if taken then .ok (options, "--" :: rest.map Word.text)
    else
      match rest with
      | [] => .ok (options, [])
      | word :: left => .ok ({ options with template := some word.text }, left.map Word.text)
  | .unknown text :: rest =>
    (options.apply taken rest).map fun (options, left) => (options, text :: left)
  | .option switch (some attached) :: rest =>
    match options.setAttached switch attached with
    | .error stop => .error stop
    | .ok options => apply options taken rest
  | .option switch Option.none :: rest =>
    if switch.hasValue then
      match rest with
      | .plain value :: rest =>
        match options.setValue switch value with
        | .error stop => .error stop
        | .ok options => apply options taken rest
      | _ => .error (.missingValue switch)
    else
      match options.setFlag switch with
      | .error stop => .error stop
      | .ok options => apply options taken rest

/-- What a command line asks for, or why there is nothing more to do. -/
def parse (words : List String) : Except Stop Options := do
  let (options, left) ← none.apply false (← Word.classifyAll words)
  if left.isEmpty then pure options else throw (.leftOver left)

end Options

end SafeSql.CommandLine
