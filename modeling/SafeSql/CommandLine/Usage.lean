import SafeSql.CommandLine.Options
import SafeSql.Text.Pattern
import SafeSql.Text.Wrap

/-!
# Usage texts

What the command line says about itself: a short usage for errors, and a help text that also
explains every option with its default. The explanation of an option is a pattern, into which
what is known about the option can be put.

## Main definitions

* `Usage.short` — the usage.
* `Usage.explain` — the explanation of an option.
* `Usage.help` — the help text.
* `Usage.complaint` — the usage with an error.
-/

namespace SafeSql.CommandLine.Usage

def program : String := "main.py"

def short : String :=
  "usage: main.py [-h] [--args JSON] [--named JSON]\n"
    ++ "               [--dialect \x7bmysql,postgresql,sqlite\x7d] [--execute]\n"
    ++ "               [--check-connection]\n"
    ++ "               [--log-level \x7bDEBUG,INFO,WARNING,ERROR,CRITICAL\x7d] [--verbose]\n"
    ++ "               [template]\n"

def column : Nat := 24

def width : Nat := 54

/-- A text with every run of blanks made a single one, and without those at its ends. -/
def collapse (text : List Char) : List Char :=
  let isGap (c : Char) : Bool := c = ' ' || (0x09 ≤ c.toNat && c.toNat ≤ 0x0d)
  [' '].intercalate (((text.map fun c => if isGap c then ' ' else c).splitOn ' ').filter
    (!·.isEmpty))

/-- An option with its explanation: on the same line when there is room before the column, else
on the lines below. -/
def item (name explanation : String) : String :=
  let head := "  " ++ name
  let indent := String.ofList (List.replicate column ' ')
  let lines := (Text.Wrap.lines width (collapse explanation.toList)).map String.ofList
  let fits := head.length + 2 ≤ column
  match lines with
  | [] => head ++ "\n"
  | first :: others =>
    let rest := String.join (others.map fun line => indent ++ line ++ "\n")
    if fits then
      head ++ String.ofList (List.replicate (column - head.length) ' ') ++ first ++ "\n" ++ rest
    else head ++ "\n" ++ indent ++ first ++ "\n" ++ rest

def examples : String :=
  "Placeholders:\n"
    ++ "  ?s string   ?i integer   ?n identifier   ?a IN list\n"
    ++ "  ?u SET      ?m rows      ?k key/value rows   ?p parsed SQL\n"
    ++ "\n"
    ++ "Examples:\n"
    ++ "  python main.py \"SELECT * FROM ?n WHERE id = ?i\" --args '[\"users\", 7]'\n"
    ++ "  python main.py \"UPDATE ?n SET ?u\" --args '[\"users\", "
    ++ "\x7b\"name\": \"Bob\"\x7d]' --dialect postgresql\n"
    ++ "  python main.py --check-connection\n"
    ++ "        \n"

/-- The name under which the value of an option with choices is kept. -/
def destination : Switch → String
  | .dialect => "dialect"
  | _ => "log_level"

/-- What is known about an option with choices, of which nothing is said that the pattern of its
explanation does not say. -/
def facts (switch : Switch) (pattern : String) : List (String × Text.Pattern.Operand) :=
  let spelled := (Switch.spellings.filter (·.2 = switch)).map (·.1.toList)
  [("option_strings", .texts spelled), ("dest", .text (destination switch).toList),
    ("nargs", .missing), ("const", .missing), ("default", .missing), ("type", .missing),
    ("choices", .text (", ".intercalate switch.choices).toList), ("required", .flag false),
    ("help", .text pattern.toList), ("metavar", .missing),
    ("container", .object "argparse" "_ArgumentGroup"), ("prog", .text program.toList)]

/-- The explanation of an option with choices: a pattern with what is known about the option. -/
def explain (switch : Switch) (pattern : String) : Except Text.Pattern.Fault String :=
  (Text.Pattern.expand (facts switch pattern) pattern.toList).map String.ofList

/-- The help text, with the defaults for the dialect and for the level of logging. -/
def help (dialect level : String) : Except Text.Pattern.Fault String := do
  let dialects ← explain .dialect ("Quoting rules to render with (default: " ++ dialect ++ ")")
  let levels ← explain .logLevel ("Logging level (default: " ++ level ++ ")")
  pure (short ++ "\nSafeSQL - type-hinted placeholder query templates\n\npositional arguments:\n"
    ++ item "template" "Query template with placeholders"
    ++ "\noptions:\n"
    ++ item "-h, --help" "show this help message and exit"
    ++ item "--args JSON" "JSON array of positional values"
    ++ item "--named JSON" "JSON object of values for named placeholders"
    ++ item "--dialect \x7bmysql,postgresql,sqlite\x7d" dialects
    ++ item "--execute" "Execute the rendered query and print rows as JSON"
    ++ item "--check-connection" "Wait for the configured database to accept connections"
    ++ item "--log-level \x7bDEBUG,INFO,WARNING,ERROR,CRITICAL\x7d" levels
    ++ item "--verbose" "Enable verbose logging (DEBUG level, overrides --log-level)"
    ++ "\n" ++ examples)

def complaint (stop : Stop) : String :=
  short ++ program ++ ": error: " ++ stop.message ++ "\n"

end SafeSql.CommandLine.Usage
