import SafeSql.Fragment.Scalar
import SafeSql.Value.Elements

/-!
# Fragments of collections

The SQL text of a value for the placeholders that take a list or a mapping.

## Main definitions

* `Fragment.inList` — the literals of a list, `NULL` for an empty one.
* `Fragment.setClause` — assignments from a mapping.
* `Fragment.multiRow` — rows from a list of lists.
* `Fragment.keyValueRows` — columns and rows from a list of mappings with the same keys.
* `Fragment.format` — the fragment of a value for a kind of placeholder.
* `Fragment.kindOfLetter` — the kind that a letter names.
-/

namespace SafeSql.Fragment

open Template (Kind)

def commaJoin (texts : List (List Char)) : List Char :=
  [','].intercalate texts

/-- The literals of a list; a list without elements is `NULL`, so that `IN (NULL)` stays valid. -/
def inList (d : Dialect) (value : Value) : Except Failure (List Char) := do
  match ← shapeFor .inList value with
  | .list =>
    match value.items with
    | [] => pure null
    | items => return commaJoin (← items.mapM (literal d))
  | _ => throw (refuse .inList value (.notList value.shapeName))

def assignment (d : Dialect) (entry : Value × Value) : Except Failure (List Char) := do
  let name ← identifier d entry.1
  let content ← literal d entry.2
  pure (name ++ ['='] ++ content)

def setClause (d : Dialect) (value : Value) : Except Failure (List Char) := do
  let shape ← shapeFor .setClause value
  match value with
  | .map [] _ => throw (refuse .setClause value .emptyMapping)
  | .map entries _ => return commaJoin (← entries.mapM (assignment d))
  | _ => throw (refuse .setClause value (.notMapping shape.label))

def row (d : Dialect) (value : Value) : Except Failure (List Char) := do
  match ← shapeFor .multiRow value with
  | .list => return ['('] ++ (← inList d value) ++ [')']
  | shape => throw (refuse .multiRow value (.rowNotList shape.label))

def multiRow (d : Dialect) (value : Value) : Except Failure (List Char) := do
  match ← shapeFor .multiRow value with
  | .list =>
    if !value.hasItems then throw (refuse .multiRow value .noRows)
    return commaJoin (← value.mapItems (row d))
  | shape => throw (refuse .multiRow value (.notRows shape.label))

/-- A mapping as a record: its entries, and what it makes for a key that it does not hold. -/
structure Record where
  entries : Mapping
  missing : Value.Missing

namespace Record

def value (record : Record) : Value :=
  .map record.entries record.missing

/-- What a record answers for the name of a column. -/
def answer? (record : Record) (column : Value) : Option Value :=
  record.entries.answer? record.missing column

end Record

def record (value : Value) : Except Failure Record := do
  let _ ← shapeFor .keyValueRows value
  match value with
  | .map entries missing => pure ⟨entries, missing⟩
  | _ => throw (refuse .keyValueRows value (.recordNotMapping value.shapeName))

/-- The cells of a record in the order of the columns. A record is only asked for as many columns as
it has keys, and it may answer for a key that it does not hold. -/
def cells (columns : List Value) (record : Record) : Except Failure (List Value) :=
  if record.entries.length ≠ columns.length then
    .error (refuse .keyValueRows record.value .differentSizes)
  else
    match columns.mapM record.answer? with
    | some cells => .ok cells
    | none => .error (refuse .keyValueRows record.value .differentKeys)

/-- The columns of the first record, and the rows of all records in their order. -/
def keyValueRows (d : Dialect) (value : Value) : Except Failure (List Char) := do
  match ← shapeFor .keyValueRows value with
  | .list =>
    value.checkSize
    match ← value.mapItems record with
    | [] => throw (refuse .keyValueRows value .noRecords)
    | first :: others =>
      let columns := first.entries.keys
      if columns.isEmpty then throw (refuse .keyValueRows first.value .noColumns)
      let rest ← others.mapM (cells columns)
      let names ← columns.mapM (identifier d)
      let rows ← multiRow d (.list ((first.entries.map (·.2) :: rest).map .list))
      pure (['('] ++ commaJoin names ++ [')'] ++ " VALUES ".toList ++ rows)
  | shape => throw (refuse .keyValueRows value (.notRecords shape.label))

def format (d : Dialect) : Kind → Value → Except Failure (List Char)
  | .string => literal d
  | .integer => integer
  | .identifier => identifier d
  | .inList => inList d
  | .setClause => setClause d
  | .multiRow => multiRow d
  | .keyValueRows => keyValueRows d
  | .raw => raw

def kindOfLetter (letter : String) : Except Failure Kind :=
  match letter.toList with
  | [c] =>
    match Kind.ofSigil? c with
    | some kind => .ok kind
    | none => .error (.refused (.unknownLetter letter))
  | _ => .error (.refused (.unknownLetter letter))

end SafeSql.Fragment
