import SafeSql.Proofs.Database.Reading
import SafeSql.Proofs.Value.Mapping

/-!
# The shapes of one result

All shapes of a result that can be read to its end are made of the same rows: each row as the
mapping of its columns, and its first cell.

## Main definitions

* `Server.Rows.Readable` — a result with columns that can be read to its end.
* `Database.rowOf` — a row as the mapping of its columns.
* `Database.Brings` — a query that is executed and brings rows.

## Main statements

* `Server.Rows.answers_of_readable` — the rows are what is answered.
* `Database.through_takeUnder` — the rows by a column.
* `Database.shapes_agree` — the shapes of one result agree.
-/

namespace SafeSql

open SafeSql.Action (reply after)
open Client (RowMode)

namespace Server.Rows

/-- A result with columns that can be read to its end: every row has as many cells as there are
columns. -/
structure Readable (rows : Rows) (columns : List String) : Prop where
  named : rows.columns = some columns
  nonempty : columns ≠ []
  full : ∀ cells ∈ rows.rows, cells.length = columns.length
  unbroken : ∀ read ≤ rows.rows.length, rows.outage? read = .none

theorem answersFrom_of_unbroken {outage? : Nat → Option Outage} (row : List Value → Value)
    {read : Nat} {left : List (List Value)}
    (unbroken : ∀ more ≤ left.length, outage? (read + more) = .none) :
    answersFrom outage? row read left = (left.map row).map .ok := by
  have now : outage? read = .none := unbroken 0 (Nat.zero_le _)
  induction left generalizing read with
  | nil => rw [answersFrom, now]; rfl
  | cons cells left ih =>
    have later : ∀ more ≤ left.length, outage? (read + 1 + more) = .none := by
      intro more within
      rw [Nat.add_assoc, Nat.add_comm 1]
      exact unbroken (more + 1) (Nat.succ_le_succ within)
    rw [answersFrom, now, ih later (later 0 (Nat.zero_le _))]
    rfl

variable {rows : Rows} {columns : List String}

theorem answers_of_readable (readable : rows.Readable columns) (mode : RowMode) :
    rows.answers mode = (rows.rows.map (mode.row columns)).map .ok := by
  rw [answers, Cursor.answers, readable.named]
  exact answersFrom_of_unbroken _ (by simpa using readable.unbroken)

end Server.Rows

namespace Database

/-- A row as the mapping of its columns. A name has the place where it first stands, and the cell
where it last stands. -/
def rowOf (columns : List String) (cells : List Value) : Mapping :=
  Mapping.byName columns.eraseDups fun name => ((columns.zip cells).reverse.lookup name).getD .null

theorem namedRow_eq {columns : List String} {cells : List Value}
    (full : cells.length = columns.length) :
    Client.namedRow columns cells = .map (rowOf columns cells) none := by
  have pairs : (columns.map Value.text).zip cells =
      (columns.zip cells).map fun pair => (.text pair.1, pair.2) := by
    rw [List.zip_map_left]
    rfl
  have names : (columns.zip cells).map (·.1) = columns :=
    List.map_fst_zip (Nat.le_of_eq full.symm)
  rw [Client.namedRow, pairs, Mapping.ofList_texts, names, rowOf]

theorem columnTexts_rowOf (columns : List String) (cells : List Value) :
    columnTexts (rowOf columns cells) = columns.eraseDups := by
  simp [columnTexts, rowOf, Value.plain?, Function.comp_def]

theorem through_ok {β : Type} {f : β → Value → Except Failure β} (start : β) (rows : List Value) :
    through f start (rows.map .ok) = rows.foldlM f start := by
  simp [through, List.foldlM_map]

/-- Steps that put something behind what is gathered gather it for every row. -/
theorem foldlM_concat {α β : Type} {f : List β → α → Except Failure (List β)} {g : α → β}
    {rows : List α} (each : ∀ row ∈ rows, ∀ gathered, f gathered row = .ok (gathered ++ [g row])) :
    rows.foldlM f [] = .ok (rows.map g) := by
  rw [Except.foldlM_eq_ok each, List.foldl_append_eq_append, List.nil_append, ← List.flatMap_def,
    ← List.map_eq_flatMap]

theorem first_ok (rows : List Value) : first (rows.map .ok) = .ok rows.head? := by
  cases rows <;> rfl

/-- What a row has in the column with a name. -/
def under (index : Value) (row : Mapping) : Value :=
  (row.find? index).getD .null

/-- Puts rows by what they have in the column with a name, one after another. -/
def putUnder (index : Value) (kept : Value → Value) (rows : List Mapping) : Mapping :=
  rows.foldl (fun gathered row => gathered.insert (under index row) (kept (.map row none))) []

/-- What is kept of rows is kept of those that are held at the end. -/
theorem putUnder_eq_map (index : Value) (kept : Value → Value) (rows : List Mapping) :
    putUnder index kept rows =
      (putUnder index id rows).map fun entry => (entry.1, kept entry.2) := by
  let put (kept : Value → Value) (gathered : Mapping) (row : Mapping) : Mapping :=
    gathered.insert (under index row) (kept (.map row none))
  suffices later : ∀ start : Mapping,
      rows.foldl (put kept) (start.map fun entry => (entry.1, kept entry.2)) =
        (rows.foldl (put id) start).map fun entry => (entry.1, kept entry.2) from later []
  induction rows with
  | nil => exact fun _ => rfl
  | cons row rows ih =>
    intro start
    rw [List.foldl_cons, List.foldl_cons, ← ih]
    exact congrArg (List.foldl _ · rows) (Mapping.insert_map kept start _ _)

section Index

variable {columns : List String} {index : Value} (report : Report) (caller : Option String)
  (cells : List Value)

/-- A value that equals a name can be looked up. -/
theorem lookedUp_of_same {name : String} (same : (Value.text name).same index) :
    lookedUp index = .ok index := by
  cases index with
  | text | raw => rfl
  | _ =>
    simp [Value.same, Value.sameAtom, Value.number?, Value.infinity?, Value.bytes?, Value.text?]
      at same

theorem cellOf_of_mem (among : ∃ name ∈ columns, (Value.text name).same index) :
    cellOf report caller index (rowOf columns cells) = .ok (under index (rowOf columns cells)) := by
  obtain ⟨name, member, same⟩ := among
  have found : ((rowOf columns cells).find? index).isSome := by
    rw [rowOf, Mapping.find?_byName, Option.isSome_map, List.find?_isSome]
    exact ⟨name, List.mem_eraseDups.mpr member, same⟩
  obtain ⟨cell, found⟩ := Option.isSome_iff_exists.mp found
  rw [cellOf, lookedUp_of_same same, under, found]
  simp [found]

theorem cellOf_of_notMem (absent : ∀ name ∈ columns, (Value.text name).same index = false)
    (hashable : index.lookupFault? = none) {shown : List Char}
    (writable : index.plain? = some shown) :
    cellOf report caller index (rowOf columns cells) =
      .error (missingIndex report caller index shown (rowOf columns cells)) := by
  have missing : (rowOf columns cells).find? index = none := by
    rw [rowOf, Mapping.find?_byName, Option.map_eq_none_iff, List.find?_eq_none]
    simpa using absent
  simp [cellOf, lookedUp, hashable, missing, SafeSql.writable, writable]

end Index

section Read

variable {rows : Server.Rows} {columns : List String} (readable : rows.Readable columns)
  (report : Report) (caller : Option String)

include readable

theorem named_rows : rows.rows.map (RowMode.row .named columns) =
    rows.rows.map fun cells => .map (rowOf columns cells) none :=
  List.map_congr_left fun cells member => namedRow_eq (readable.full cells member)

theorem read_all : Shape.read report caller rows .all =
    .ok (rows.rows.map fun cells => .map (rowOf columns cells) none) := by
  rw [Shape.read, Server.Rows.answers_of_readable readable, named_rows readable, through_ok,
    foldlM_concat (f := takeRow) fun row _ gathered => rfl, List.map_id']

theorem read_row : Shape.read report caller rows .row =
    .ok ((rows.rows.map fun cells => .map (rowOf columns cells) none).head?.getD .null) := by
  rw [Shape.read, Server.Rows.answers_of_readable readable, named_rows readable, first_ok]
  rfl

theorem firstCell_of_mem {cells : List Value} (member : cells ∈ rows.rows) :
    firstCell? (RowMode.row .plain columns cells) = some (cells.headD .null) := by
  cases cells with
  | nil => exact absurd (List.length_eq_zero_iff.mp (readable.full _ member).symm) readable.nonempty
  | cons cell cells => rfl

theorem read_column : Shape.read report caller rows .column =
    .ok (rows.rows.map (·.headD .null)) := by
  have each : ∀ cells ∈ rows.rows, ∀ gathered : List Value,
      takeCell gathered (RowMode.row .plain columns cells) =
        .ok (gathered ++ [cells.headD .null]) := by
    intro cells member gathered
    rw [takeCell, firstCell_of_mem readable member]
  rw [Shape.read, Server.Rows.answers_of_readable readable, through_ok, List.foldlM_map,
    foldlM_concat each]

theorem read_one : Shape.read report caller rows .one =
    .ok ((rows.rows.map (·.headD .null)).head?.getD .null) := by
  rw [Shape.read, Server.Rows.answers_of_readable readable, first_ok]
  cases rows' : rows.rows with
  | nil => rfl
  | cons cells left =>
    have first := firstCell_of_mem readable (rows' ▸ List.mem_cons_self)
    simp [first]

theorem through_takeUnder {index : Value} (kept : Value → Value)
    (among : ∃ name ∈ columns, (Value.text name).same index)
    (hashable : ∀ cells ∈ rows.rows, (under index (rowOf columns cells)).lookupFault? = none) :
    through (takeUnder report caller index kept) [] (rows.answers .named) =
      .ok (putUnder index kept (rows.rows.map (rowOf columns))) := by
  have each : ∀ cells ∈ rows.rows, ∀ gathered : Mapping,
      takeUnder report caller index kept gathered (.map (rowOf columns cells) none) =
        .ok (gathered.insert (under index (rowOf columns cells))
          (kept (.map (rowOf columns cells) none))) := by
    intro cells member gathered
    rw [takeUnder, entries, cellOf_of_mem report caller cells among, Except.ok_bind, lookedUp,
      hashable cells member]
    rfl
  rw [Server.Rows.answers_of_readable readable, named_rows readable, through_ok, List.foldlM_map,
    Except.foldlM_eq_ok each, putUnder, List.foldl_map]

theorem through_takeUnder_absent {index : Value} (kept : Value → Value)
    (absent : ∀ name ∈ columns, (Value.text name).same index = false)
    (hashable : index.lookupFault? = none) {shown : List Char}
    (writable : index.plain? = some shown) :
    through (takeUnder report caller index kept) [] (rows.answers .named) =
      if rows.rows = [] then .ok []
      else
        .error (report.failure ((SqlError.of (.missingIndex index (String.ofList shown)
          columns.eraseDups) none).withCaller caller)) := by
  rw [Server.Rows.answers_of_readable readable, named_rows readable, through_ok]
  cases rows.rows with
  | nil => rfl
  | cons cells left =>
    have missing : takeUnder report caller index kept [] (.map (rowOf columns cells) none) =
        .error (missingIndex report caller index shown (rowOf columns cells)) := by
      rw [takeUnder, entries, cellOf_of_notMem report caller cells absent hashable writable]
      rfl
    rw [List.map_cons, List.foldlM_cons, missing, missingIndex, columnTexts_rowOf]
    rfl

end Read

/-- A query that is executed and brings rows. -/
structure Brings (state : Database × World) (query : Query) (caller : Option String)
    (rows : Server.Rows) : Prop where
  executed : ∃ sql result, reply (query.parse caller) state = .ok sql ∧
    reply (Client.execute sql) (state.1.client, state.2) = .ok result
  outcome : state.2.script.nextReply.outcome = .ok rows

namespace Shape

/-- A shape comes to an answer whenever its query brings the rows. -/
def Gives (rows : Server.Rows) (shape : Shape) (answer : shape.Answer) : Prop :=
  ∀ template arguments caller state, Brings state (.positional template arguments) caller rows →
    reply (shape.get template arguments caller) state = .ok answer

/-- A shape reports an error with the cause whenever its query brings the rows. -/
def Reports (rows : Server.Rows) (shape : Shape) (cause : SqlError.Cause) : Prop :=
  ∀ template arguments caller state, Brings state (.positional template arguments) caller rows →
    ∃ error, error.cause = cause ∧
      reply (shape.get template arguments caller) state = .error (state.1.report.failure error)

variable {rows : Server.Rows} {shape : Shape} {template : Value} {arguments : List Value}
  {caller : Option String} {state : Database × World}

theorem reply_of_brings (brings : Brings state (.positional template arguments) caller rows) :
    reply (shape.get template arguments caller) state =
      shape.read state.1.report caller rows := by
  obtain ⟨⟨sql, result, parsed, executed⟩, outcome⟩ := brings
  obtain ⟨rows', outcome', replied, -⟩ := shape.get_spec parsed executed
  rw [outcome, Except.ok.injEq] at outcome'
  rw [replied, outcome']

theorem gives_of_read {answer : shape.Answer}
    (read : ∀ report caller, shape.read report caller rows = .ok answer) :
    Gives rows shape answer :=
  fun _ _ _ _ brings => (reply_of_brings brings).trans (read _ _)

theorem reports_of_read {cause : SqlError.Cause}
    (read : ∀ report caller, shape.read report caller rows =
      .error (Report.failure report ((SqlError.of cause none).withCaller caller))) :
    Reports rows shape cause :=
  fun _ _ _ _ brings =>
    ⟨_, SqlError.cause_withCaller _ _, (reply_of_brings brings).trans (read _ _)⟩

end Shape

open Shape (Gives Reports)

/-- The shapes of one result agree. All rows are had as the mappings of their columns; one row is
the first of them, a column is had as the first cells, and one cell is the first of these. By a
column that is there, with cells that can be looked up, the rows are held as they are put one
after another, and of each row that is held at the end the first other cell is had by the same
key. A column that is not there is reported by both if there is a row; it is named by a value that
can be looked up and shown, as any text can. -/
theorem shapes_agree {rows : Server.Rows} {columns : List String}
    (readable : rows.Readable columns) :
    let all := rows.rows.map (rowOf columns)
    let firsts := rows.rows.map (·.headD .null)
    Gives rows .all (all.map (.map · none)) ∧
    Gives rows .row ((all.map (Value.map · none)).head?.getD .null) ∧
    Gives rows .column firsts ∧ Gives rows .one (firsts.head?.getD .null) ∧
    (∀ index, (∃ name ∈ columns, (Value.text name).same index) →
      (∀ row ∈ all, (under index row).lookupFault? = none) →
      let held : Mapping :=
        all.foldl (fun gathered row => Mapping.insert gathered (under index row) (.map row none)) []
      Gives rows (.indexed index) held ∧
        Gives rows (.indexedColumn index)
          (held.map fun entry => (entry.1, firstOther index entry.2))) ∧
    ∀ index shown, (∀ name ∈ columns, (Value.text name).same index = false) →
      index.lookupFault? = none → index.plain? = some shown →
      let cause := SqlError.Cause.missingIndex index (String.ofList shown) columns.eraseDups
      cause.family = .invalidFormat ∧
        if rows.rows = [] then
          Gives rows (.indexed index) [] ∧ Gives rows (.indexedColumn index) []
        else Reports rows (.indexed index) cause ∧ Reports rows (.indexedColumn index) cause := by
  intro all firsts
  have mapped : all.map (Value.map · none) =
      rows.rows.map fun cells => .map (rowOf columns cells) none := List.map_map
  rw [mapped]
  refine ⟨Shape.gives_of_read fun _ _ => read_all readable _ _,
    Shape.gives_of_read fun _ _ => read_row readable _ _,
    Shape.gives_of_read fun _ _ => read_column readable _ _,
    Shape.gives_of_read fun _ _ => read_one readable _ _, ?present, ?absent⟩
  case present =>
    intro index among hashable held
    have hashable : ∀ cells ∈ rows.rows, (under index (rowOf columns cells)).lookupFault? = none :=
      fun cells member => hashable _ (List.mem_map_of_mem member)
    refine ⟨Shape.gives_of_read fun _ _ => through_takeUnder readable _ _ id among hashable,
      Shape.gives_of_read fun _ _ => ?_⟩
    rw [Shape.read, through_takeUnder readable _ _ _ among hashable, putUnder_eq_map]
    rfl
  case absent =>
    intro index shown absent hashable writable cause
    have ended (kept : Value → Value) (report : Report) (caller : Option String) :=
      through_takeUnder_absent readable report caller kept absent hashable writable
    refine ⟨rfl, ?_⟩
    split
    next none =>
      exact ⟨Shape.gives_of_read fun report caller => (ended id report caller).trans (if_pos none),
        Shape.gives_of_read fun report caller => (ended _ report caller).trans (if_pos none)⟩
    next some =>
      exact ⟨Shape.reports_of_read fun report caller =>
          (ended id report caller).trans (if_neg some),
        Shape.reports_of_read fun report caller => (ended _ report caller).trans (if_neg some)⟩

/-- Two rows with the same cell in the last column with the name of the first. -/
def sameKey : Server.Rows :=
  ⟨some ["id", "name", "id"],
    [[.int 1, .text "a", .int 3], [.int 2, .text "b", .int 3]], -1, .null, none⟩

theorem readable_sameKey : sameKey.Readable ["id", "name", "id"] where
  named := rfl
  nonempty := by decide
  full := by simp [sameKey]
  unbroken _ _ := rfl

/-- The second of two rows with one key is held, and a repeated column counts once. -/
theorem shapes_agree_sameKey :
    let state := served [⟨Binary64.zero false, .ok sameKey⟩]
    let row (name : String) : Mapping := [(.text "id", .int 3), (.text "name", .text name)]
    let get (shape : Shape) := reply (shape.get (.text "SELECT 1") [] none) state
    get .all = .ok [.map (row "a") none, .map (row "b") none] ∧ get .column = .ok [.int 1, .int 2] ∧
      get (.indexed (.text "id")) = .ok [(.int 3, .map (row "b") none)] ∧
      get (.indexedColumn (.text "id")) = .ok [(.int 3, .text "b")] := by
  intro state row get
  have rendered : (Call.get .all (.text "SELECT 1") [] none).rendered? state = some "SELECT 1" := by
    decide +kernel
  obtain ⟨_, _, ⟨⟩, parsed⟩ := Call.exists_query rendered
  have brings : Brings state (.positional (.text "SELECT 1") []) none sameKey :=
    ⟨⟨_, 0, parsed, rfl⟩, rfl⟩
  have rows : sameKey.rows.map (rowOf ["id", "name", "id"]) = [row "a", row "b"] := rfl
  have key (name : String) : under (.text "id") (row name) = .int 3 := by
    simp [under, row, Mapping.find?, Value.same_text]
  have same : (Value.int 3).same (.int 3) = true := by decide +kernel
  obtain ⟨all, -, column, -, indexed, -⟩ := shapes_agree readable_sameKey
  rw [rows] at all indexed
  obtain ⟨held, other⟩ := indexed (.text "id") ⟨"id", by decide, by simp [Value.same_text]⟩
    (by simp [key, Value.lookupFault?])
  refine ⟨all _ _ _ _ brings, column _ _ _ _ brings, (held _ _ _ _ brings).trans ?_,
    (other _ _ _ _ brings).trans ?_⟩
  · simp [key, same, Mapping.insert]
  · simp [key, same, Mapping.insert, firstOther, entries, row, Mapping.erase, Value.same_text]

end Database

end SafeSql
