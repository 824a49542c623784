import SafeSql.Binding.Basic
import SafeSql.Fragment.Collection
import SafeSql.Template.Segments

/-!
# Rendering

A template and its arguments become one SQL text: the template is read, its placeholders are
bound, and each is replaced by the fragment of its value. What is wrong with the template or the
values is the outcome of rendering and no failure of it.

## Main definitions

* `Rendering` — SQL text, or the error in the template or the values.
* `Rendering.assemble` — segments with their values put in.
* `Rendering.positional`, `Rendering.named` — a template with its arguments.
-/

namespace SafeSql

/-- The outcome of rendering a template: SQL text, or the error in the template or the values. -/
abbrev Rendering := Except SqlError String

namespace Rendering

open Template (Segment)

/-- The segments with the value of each placeholder put in its place. -/
def assemble (d : Dialect) : List Segment → List Binding → Except Failure (List Char)
  | [], _ => .ok []
  | .literal text :: segments, bindings => do
    let rest ← assemble d segments bindings
    pure (text ++ rest)
  | .placeholder _ :: _, [] => .ok []
  | .placeholder _ :: segments, (placeholder, value) :: bindings => do
    let fragment ← Fragment.format d placeholder.kind value
    let rest ← assemble d segments bindings
    pure (fragment ++ rest)

def templateText (template : Value) : Except Failure String :=
  match template with
  | .text s | .raw s => .ok s
  | other => .error (.query (.of (.template (.notText other.typeName)) none))

def readTemplate (d : Dialect) (template : String) : Except Failure (List Segment) :=
  match Template.segments d template with
  | .ok segments => .ok segments
  | .error fault => .error (.query (.of (.template fault) none))

/-- Keeps the errors of the library as outcomes, with the caller attached, and lets other
failures through. -/
def outcome (caller : Option String) : Except Failure (List Char) → Except Failure Rendering
  | .ok sql => .ok (.ok (String.ofList sql))
  | .error (.query error) => .ok (.error (error.withCaller caller))
  | .error other => .error other

def sqlOfPositional (d : Dialect) (template : Value) (arguments : List Value) :
    Except Failure (List Char) := do
  let source ← templateText template
  let segments ← readTemplate d source
  match Binding.positional source (Template.placeholders segments) arguments with
  | .ok bindings => assemble d segments bindings
  | .error fault => throw (.query (.of (.binding fault) none))

def sqlOfNamed (d : Dialect) (template values : Value) : Except Failure (List Char) := do
  let source ← templateText template
  let segments ← readTemplate d source
  let bindings ← Binding.named source (Template.placeholders segments) values
  assemble d segments bindings

def positional (d : Dialect) (template : Value) (arguments : List Value)
    (caller : Option String) : Except Failure Rendering :=
  outcome caller (sqlOfPositional d template arguments)

def named (d : Dialect) (template values : Value) (caller : Option String) :
    Except Failure Rendering :=
  outcome caller (sqlOfNamed d template values)

end Rendering

end SafeSql
