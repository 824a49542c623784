import SafeSql.Database.Basic
import SafeSql.Value.Display

/-!
# Shaped results

A query with its result in the shape that the caller needs: one cell, one row, one column, all
rows, or rows by a column. A result is given back when its rows were gone through, also when
that fails.

## Main definitions

* `Database.eachRow` — goes through the rows of a result.
* `Database.getOne`, `getRow`, `getColumn`, `getAll`, `getIndexed`, `getIndexedColumn`,
  `getTable` — the shapes.
-/

namespace SafeSql.Database

open Client (RowMode)

/-- Goes through the rows of a result, at most as many times as said. -/
def eachRow {β : Type} (result : Nat) (mode : RowMode)
    (step : β → Value → Action (Database × World) β) : Nat → β → Action (Database × World) β
  | 0, gathered => pure gathered
  | times + 1, gathered => do
    match ← onClient (Client.fetchRow result mode) with
    | none => pure gathered
    | some row => eachRow result mode step times (← step gathered row)

/-- Goes through all rows of a result, up to the answer that there are no more, and gives the
result back. -/
def gather {β : Type} (result : Nat) (mode : RowMode) (start : β)
    (step : β → Value → Action (Database × World) β) : Action (Database × World) β :=
  Action.ensuring
    (do
      let (_, world) ← get
      eachRow result mode step (world.unread result + 1) start)
    (onClient (Client.free result))

/-- The first row of a result, which is given back. -/
def firstRow (result : Nat) (mode : RowMode) : Action (Database × World) (Option Value) :=
  (onClient (Client.fetchRow result mode)).ensuring (onClient (Client.free result))

def firstCell? : Value → Option Value
  | .tuple (cell :: _) => some cell
  | _ => none

/-- The first cell of the first row, or null. -/
def getOne (template : Value) (arguments : List Value) (caller : Option String) :
    Action (Database × World) Value := do
  let result ← query template arguments caller
  return ((← firstRow result .plain).bind firstCell?).getD .null

def getRow (template : Value) (arguments : List Value) (caller : Option String) :
    Action (Database × World) Value := do
  let result ← query template arguments caller
  return (← firstRow result .named).getD .null

def getColumn (template : Value) (arguments : List Value) (caller : Option String) :
    Action (Database × World) (List Value) := do
  let result ← query template arguments caller
  gather result .plain [] fun cells row =>
    match firstCell? row with
    | some cell => pure (cells ++ [cell])
    | none => throw .emptyRow

def rows (result : Nat) (mode : RowMode) : Action (Database × World) (List Value) :=
  gather result mode [] fun rows row => pure (rows ++ [row])

def getAll (template : Value) (arguments : List Value) (caller : Option String) :
    Action (Database × World) (List Value) := do
  rows (← query template arguments caller) .named

def lookable (value : Value) : Action (Database × World) Value :=
  match value.lookupFault? with
  | some fault => throw (.lookup fault)
  | none => pure value

def entries : Value → Mapping
  | .map entries _ => entries
  | _ => []

def columnTexts (row : Mapping) : List String :=
  row.keys.map fun key => String.ofList ((key.plain?).getD [])

/-- The cell of a row that indexes it; the column has to be there. -/
def indexCell (index : Value) (row : Mapping) (caller : Option String) :
    Action (Database × World) Value := do
  match row.find? (← lookable index) with
  | some cell => pure cell
  | none => do
    let shown ← Action.lift (writable index.plain?)
    reportError (.of (.missingIndex index (String.ofList shown) (columnTexts row)) none) caller

/-- All rows by the cell in a column; of rows with equal cells the last one counts. -/
def getIndexed (index template : Value) (arguments : List Value) (caller : Option String) :
    Action (Database × World) Mapping := do
  let result ← query template arguments caller
  gather result .named [] fun gathered row => do
    let cell ← indexCell index (entries row) caller
    pure (gathered.insert (← lookable cell) row)

/-- The first cell beside that in a column, by the cell in that column. -/
def getIndexedColumn (index template : Value) (arguments : List Value)
    (caller : Option String) : Action (Database × World) Mapping := do
  let result ← query template arguments caller
  gather result .named [] fun gathered row => do
    let cell ← indexCell index (entries row) caller
    let others := (entries row).erase index
    pure (gathered.insert (← lookable cell) ((others.head?.map (·.2)).getD .null))

def getTable (template : Value) (arguments : List Value) (caller : Option String) :
    Action (Database × World) (List String × List Value) := do
  let result ← query template arguments caller
  let columns ← onClient (Client.columnNames result)
  return (columns, ← rows result .plain)

end SafeSql.Database
