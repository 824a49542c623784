/-!
# Templates

A template is SQL text with typed placeholders: a question mark, the letter of a kind and
optionally a colon and a name.

## Main definitions

* `Template.Kind` — the kinds of placeholders.
* `Template.Placeholder`, `Template.Placeholder.token` — a placeholder and how it is written.
* `Template.Segment` — a stretch of literal text or a placeholder.
* `Template.Fault` — why a template cannot be read.
-/

namespace SafeSql.Template

inductive Kind
  | string
  | integer
  | identifier
  | inList
  | setClause
  | multiRow
  | keyValueRows
  | raw
  deriving DecidableEq, Repr

namespace Kind

def sigil : Kind → Char
  | .string => 's'
  | .integer => 'i'
  | .identifier => 'n'
  | .inList => 'a'
  | .setClause => 'u'
  | .multiRow => 'm'
  | .keyValueRows => 'k'
  | .raw => 'p'

def label : Kind → String
  | .string => "string"
  | .integer => "integer"
  | .identifier => "identifier"
  | .inList => "in-list"
  | .setClause => "set-clause"
  | .multiRow => "multi-row"
  | .keyValueRows => "key-value-rows"
  | .raw => "raw"

def all : List Kind :=
  [.string, .integer, .identifier, .inList, .setClause, .multiRow, .keyValueRows, .raw]

def ofSigil? (letter : Char) : Option Kind :=
  all.find? fun kind => kind.sigil = letter

@[simp] theorem ofSigil?_sigil (kind : Kind) : ofSigil? kind.sigil = some kind := by
  cases kind <;> rfl

end Kind

def marker : Char := '?'

structure Placeholder where
  kind : Kind
  name : Option String
  offset : Nat
  deriving DecidableEq, Repr

def Placeholder.token (placeholder : Placeholder) : List Char :=
  [marker, placeholder.kind.sigil] ++
    match placeholder.name with
    | none => []
    | some name => ':' :: name.toList

inductive Segment
  | literal (text : List Char)
  | placeholder (p : Placeholder)
  deriving DecidableEq, Repr

def Segment.source : Segment → List Char
  | .literal text => text
  | .placeholder p => p.token

/-- The placeholders among the pieces, in order. -/
def placeholders (segments : List Segment) : List Placeholder :=
  segments.filterMap fun
    | .literal _ => none
    | .placeholder p => some p

inductive Fault
  | notText (typeName : String)
  | openQuote (quote : Char) (offset : Nat) (template : String)
  | openComment (offset : Nat) (template : String)
  | unknownKind (letter : Char) (offset : Nat) (template : String)
  deriving DecidableEq, Repr

private def place (offset : Nat) (template : String) : String :=
  " at offset " ++ toString offset ++ " in [" ++ template ++ "]"

def Fault.message : Fault → String
  | .notText typeName => "Template must be a string, " ++ typeName ++ " given"
  | .openQuote quote offset template =>
    "Unterminated " ++ String.ofList [quote] ++ " quoted span starting" ++ place offset template
  | .openComment offset template =>
    "Unterminated comment starting" ++ place offset template
  | .unknownKind letter offset template =>
    "Unknown placeholder " ++ String.ofList [marker, letter] ++ place offset template

end SafeSql.Template
