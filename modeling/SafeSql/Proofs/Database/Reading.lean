import SafeSql.Proofs.Database.Calls

/-!
# Going through a result

What comes of a result that is gone through row by row: the server answers each request for a row
until there are no more, or until the reading fails, and every shape of a result is a function of
these answers.

## Main definitions

* `Server.Cursor.answers`, `Server.Rows.answers` — what is answered to the requests for rows.
* `Database.through`, `Database.requests` — what comes of the answers, and how many are asked for.
* `Database.Shape.read`, `Database.Shape.asked` — what comes of them in a shape, and how many are
  asked for.

## Main statements

* `Client.fetchRow_cases` — the next row.
* `Database.gather_spec`, `Database.firstRow_spec` — all rows, and the first one.
* `Database.Shape.get_spec` — a query whose statement is executed ends with the shape of its
  result, which was given back.
-/

namespace SafeSql

open SafeSql.Action (reply after)

/-- A row with the cells, as it is had in a mode. -/
def Client.RowMode.row (mode : Client.RowMode) (columns : List String) (cells : List Value) :
    Value :=
  match mode with
  | .named => Client.namedRow columns cells
  | .plain => .tuple cells

namespace Server

/-- What is answered to the requests for the rows that are left, once so many were read. -/
def answersFrom (outage? : Nat → Option Outage) (row : List Value → Value) :
    Nat → List (List Value) → List (Except Failure Value)
  | read, [] =>
    match outage? read with
    | some outage => [.error outage.raised]
    | none => []
  | read, cells :: left =>
    match outage? read with
    | some outage => [.error outage.raised]
    | none => .ok (row cells) :: answersFrom outage? row (read + 1) left

/-- What is answered to the requests for the rows of a result: rows, and a failure if the reading
fails. -/
def Cursor.answers (cursor : Cursor) (mode : Client.RowMode) : List (Except Failure Value) :=
  match cursor.rows.columns with
  | .none => []
  | some columns =>
    answersFrom cursor.rows.outage? (mode.row columns) cursor.read
      (cursor.rows.rows.drop cursor.read)

def Rows.answers (rows : Rows) (mode : Client.RowMode) : List (Except Failure Value) :=
  Cursor.answers ⟨rows, 0⟩ mode

/-- The next answer is that to the next request. -/
theorem Cursor.answers_eq (cursor : Cursor) (mode : Client.RowMode) {columns : List String}
    (named : cursor.rows.columns = some columns) :
    cursor.answers mode =
      match cursor.rows.outage? cursor.read with
      | some outage => [.error outage.raised]
      | .none =>
        match cursor.rows.rows[cursor.read]? with
        | .none => []
        | some cells =>
          .ok (mode.row columns cells) ::
            (Cursor.mk cursor.rows (cursor.read + 1)).answers mode := by
  obtain ⟨⟨names, rows, rowCount, lastRowId, failsAt⟩, read⟩ := cursor
  cases named
  simp only [answers]
  cases left : rows.drop read with
  | nil => simp [answersFrom, ← List.head?_drop, left]
  | cons cells left' =>
    have rest : rows.drop (read + 1) = left' := by rw [← List.tail_drop, left, List.tail_cons]
    simp [answersFrom, ← List.head?_drop, left, rest]

/-- The requests that are made when rows are asked for so many times: none are if there can be
none. -/
def Rows.requested (rows : Rows) (result times : Nat) : List Event :=
  List.replicate (if rows.columns.isSome then times else 0) (.fetch result)

theorem Rows.requested_succ (rows : Rows) (result times : Nat) :
    rows.requested result (times + 1) = rows.requested result 1 ++ rows.requested result times := by
  unfold requested
  split
  · rw [← List.replicate_add, Nat.add_comm]
  · rfl

end Server

namespace World

variable (world : World) (result : Nat)

@[simp] theorem reply_columns : reply (columns result) world =
    .ok (world.cursor result).rows.columns := rfl

@[simp] theorem after_columns : after (columns result) world = world := rfl

theorem cursor_of_set {world now : World} {result : Nat} {cursor : Server.Cursor}
    (known : result < world.cursors.length)
    (moved : now.cursors = world.cursors.set result cursor) :
    now.cursor result = cursor := by
  simp [World.cursor, moved, known]

/-- A result with columns is one that was made. -/
theorem lt_of_columns {columns : List String}
    (named : (world.cursor result).rows.columns = some columns) :
    result < world.cursors.length := by
  by_contra unknown
  simp [World.cursor, List.getElem?_eq_none (Nat.le_of_not_lt unknown), Server.Cursor.none,
    Server.Rows.none] at named

end World

namespace Client

variable (client : Client) (world : World) (result : Nat) (mode : RowMode)

/-- Everything that asking for a row can do. -/
theorem fetchRow_cases {now : Client × World}
    (left : after (fetchRow result mode) (client, world) = now) :
    now.1 = client ∧ now.2.trace = world.trace ++ (world.cursor result).rows.requested result 1 ∧
      (((world.cursor result).answers mode = [] ∧
          reply (fetchRow result mode) (client, world) = .ok none) ∨
        (∃ failure, (world.cursor result).answers mode = [.error failure] ∧
          reply (fetchRow result mode) (client, world) = .error failure) ∨
        ∃ row rest, (world.cursor result).answers mode = .ok row :: rest ∧
          reply (fetchRow result mode) (client, world) = .ok (some row) ∧
          (now.2.cursor result).answers mode = rest ∧
          (now.2.cursor result).rows = (world.cursor result).rows ∧
          now.2.unread result + 1 = world.unread result) := by
  subst left
  cases named : (world.cursor result).rows.columns with
  | none => simp [fetchRow, Server.Cursor.answers, Server.Rows.requested, named]
  | some columns =>
    rw [Server.Cursor.answers_eq _ mode named]
    cases fails : (world.cursor result).rows.outage? (world.cursor result).read with
    | some outage => simp [fetchRow, Server.Rows.requested, named, fails]
    | none =>
    cases found : (world.cursor result).rows.rows[(world.cursor result).read]? with
    | none => simp [fetchRow, Server.Rows.requested, named, fails, found]
    | some cells =>
      have fetched : (after (World.fetch result) world).cursor result =
          ⟨(world.cursor result).rows, (world.cursor result).read + 1⟩ := by
        refine World.cursor_of_set (world.lt_of_columns result named) ?_
        rw [World.after_fetch, fails, found]
      have left : after (fetchRow result mode) (client, world) =
          (client, after (World.fetch result) world) := by
        cases mode <;> simp [fetchRow, named, fails, found]
      have answered : reply (fetchRow result mode) (client, world) =
          .ok (some (mode.row columns cells)) := by
        cases mode <;> simp [fetchRow, named, fails, found, RowMode.row]
      have more := (List.getElem?_eq_some_iff.mp found).1
      rw [answered, left]
      refine ⟨rfl, by simp [Server.Rows.requested, named],
        .inr (.inr ⟨_, _, rfl, rfl, by rw [fetched], by rw [fetched], ?_⟩)⟩
      simp only [World.unread, fetched]
      omega

end Client

namespace Database

open Client (RowMode)

variable {β : Type} {f : β → Value → Except Failure β}

/-- What comes of the answers to the requests for rows, one after another. -/
def through (f : β → Value → Except Failure β) (start : β)
    (answers : List (Except Failure Value)) : Except Failure β :=
  answers.foldlM (fun gathered answer => answer >>= f gathered) start

/-- The answer to the first request for a row. -/
def first : List (Except Failure Value) → Except Failure (Option Value)
  | [] => .ok none
  | answer :: _ => answer.map some

/-- How many answers are asked for: all up to a failure, or up to the answer that there are no
more. -/
def requests (f : β → Value → Except Failure β) : β → List (Except Failure Value) → Nat
  | _, [] => 1
  | gathered, answer :: answers =>
    match answer >>= f gathered with
    | .ok gathered => requests f gathered answers + 1
    | .error _ => 1

/-- No more is asked for than the rows and one answer that there are no more, and no less unless
something fails. -/
theorem requests_answersFrom (outage? : Nat → Option Server.Outage) (row : List Value → Value)
    (read : Nat) (left : List (List Value)) (start : β) :
    requests f start (Server.answersFrom outage? row read left) ≤ left.length + 1 ∧
      ∀ gathered, through f start (Server.answersFrom outage? row read left) = .ok gathered →
        requests f start (Server.answersFrom outage? row read left) = left.length + 1 := by
  induction left generalizing read start with
  | nil =>
    unfold Server.answersFrom
    split <;> simp [requests, through]
  | cons cells left ih =>
    unfold Server.answersFrom
    split
    · simp [requests, through]
    · cases stepped : f start (row cells) with
      | error failure => simp [requests, through, stepped]
      | ok gathered => simpa [requests, through, stepped] using ih (read + 1) gathered

/-- A step over a row comes to what a function says, and leaves nothing but messages. -/
def Steps (report : Report) (step : β → Value → Action (Database × World) β)
    (f : β → Value → Except Failure β) : Prop :=
  ∀ gathered row (state : Database × World), state.1.report = report →
    reply (step gathered row) state = f gathered row ∧
      ∃ log, after (step gathered row) state = World.withLog state log

section Loop

variable {report : Report} {step : β → Value → Action (Database × World) β} (result : Nat)
  (mode : RowMode) (state : Database × World)

theorem eachRow_spec (steps : Steps report step f) (reporting : state.1.report = report)
    {times : Nat} (enough : times = state.2.unread result + 1) (start : β) :
    let answers := (state.2.cursor result).answers mode
    reply (eachRow result mode step times start) state = through f start answers ∧
      (after (eachRow result mode step times start) state).2.trace = state.2.trace ++
        (state.2.cursor result).rows.requested result (requests f start answers) := by
  induction times generalizing start state with
  | zero => omega
  | succ times ih =>
    obtain ⟨database, world⟩ := state
    obtain ⟨⟨client, now⟩, fetched⟩ : ∃ now, after (Client.fetchRow result mode)
        (database.client, world) = now := ⟨_, rfl⟩
    obtain ⟨rfl, trace, ending⟩ := Client.fetchRow_cases database.client world result mode fetched
    rw [eachRow, Action.reply_bind, Action.after_bind, reply_onClient, after_onClient, fetched]
    dsimp only at *
    rcases ending with ⟨none, answered⟩ | ⟨failure, failed, answered⟩ |
      ⟨row, rest, some, answered, left, same, fewer⟩
    · rw [answered, none]
      simp [through, requests, trace]
    · rw [answered, failed]
      simp [through, requests, trace]
    · rw [answered, some]
      dsimp only
      obtain ⟨outcome, log, stepped⟩ := steps start row (database, now) reporting
      rw [Action.reply_bind, Action.after_bind, outcome, stepped]
      cases taken : f start row with
      | error failure => simp [through, requests, taken, trace, World.withLog]
      | ok gathered =>
        have enough : times = now.unread result + 1 := by omega
        -- messages do not matter for the rows that are left
        obtain ⟨replied, traced⟩ :
            reply (eachRow result mode step times gathered) (World.withLog (database, now) log) =
                through f gathered ((now.cursor result).answers mode) ∧
              (after (eachRow result mode step times gathered)
                (World.withLog (database, now) log)).2.trace = now.trace ++
                  (now.cursor result).rows.requested result
                    (requests f gathered ((now.cursor result).answers mode)) :=
          ih (World.withLog (database, now) log) reporting enough gathered
        rw [left] at replied
        rw [left, same, trace] at traced
        dsimp only
        rw [replied, traced]
        simp [through, requests, taken, Server.Rows.requested_succ _ _ (requests ..)]

theorem gather_spec (steps : Steps report step f) (reporting : state.1.report = report)
    (start : β) :
    let answers := (state.2.cursor result).answers mode
    reply (gather result mode start step) state = through f start answers ∧
      (after (gather result mode start step) state).2.trace = state.2.trace ++
        ((state.2.cursor result).rows.requested result (requests f start answers) ++
          [.free result]) := by
  obtain ⟨replied, traced⟩ := eachRow_spec result mode state steps reporting rfl start
  rw [gather, Action.reply_ensuring, Action.after_ensuring]
  simp [Client.free, World.free, replied, traced]

theorem firstRow_spec :
    reply (firstRow result mode) state = first ((state.2.cursor result).answers mode) ∧
      (after (firstRow result mode) state).2.trace = state.2.trace ++
        ((state.2.cursor result).rows.requested result 1 ++ [.free result]) := by
  obtain ⟨-, trace, ending⟩ :=
    Client.fetchRow_cases state.1.client state.2 result mode rfl
  rw [firstRow, Action.reply_ensuring, Action.after_ensuring]
  rcases ending with ⟨none, answered⟩ | ⟨failure, failed, answered⟩ | ⟨row, rest, some, answered, -⟩
  · simp [Client.free, World.free, first, trace, none, answered]
  · simp [Client.free, World.free, first, trace, failed, answered]
  · simp [Client.free, World.free, first, trace, some, answered]

end Loop

section Steps

/-- A value as one that can be looked up. -/
def lookedUp (value : Value) : Except Failure Value :=
  match value.lookupFault? with
  | some fault => .error (.lookup fault)
  | none => .ok value

/-- What is said when a row has no column with a name. -/
def missingIndex (report : Report) (caller : Option String) (index : Value) (shown : List Char)
    (row : Mapping) : Failure :=
  report.failure ((SqlError.of (.missingIndex index (String.ofList shown) (columnTexts row))
    none).withCaller caller)

/-- The cell of a row in the column with a name. -/
def cellOf (report : Report) (caller : Option String) (index : Value) (row : Mapping) :
    Except Failure Value := do
  match row.find? (← lookedUp index) with
  | some cell => .ok cell
  | none => .error (missingIndex report caller index (← writable index.plain?) row)

def takeCell (cells : List Value) (row : Value) : Except Failure (List Value) :=
  match firstCell? row with
  | some cell => .ok (cells ++ [cell])
  | none => .error .emptyRow

def takeRow (rows : List Value) (row : Value) : Except Failure (List Value) :=
  .ok (rows ++ [row])

/-- Puts what is kept of a row under its cell in the column with a name. -/
def takeUnder (report : Report) (caller : Option String) (index : Value) (kept : Value → Value)
    (gathered : Mapping) (row : Value) : Except Failure Mapping := do
  let cell ← cellOf report caller index (entries row)
  return gathered.insert (← lookedUp cell) (kept row)

/-- The first cell of a row beside that in the column with a name. -/
def firstOther (index row : Value) : Value :=
  (((entries row).erase index).head?.map (·.2)).getD .null

theorem lookable_eq (value : Value) : lookable value = Action.lift (lookedUp value) := by
  unfold lookable lookedUp
  cases value.lookupFault? <;> rfl

theorem indexCell_spec (state : Database × World) (index : Value) (row : Mapping)
    (caller : Option String) :
    reply (indexCell index row caller) state = cellOf state.1.report caller index row ∧
      ∃ log, after (indexCell index row caller) state = World.withLog state log := by
  rw [indexCell, lookable_eq, cellOf]
  cases lookedUp index with
  | error failure => exact ⟨rfl, state.2.log, rfl⟩
  | ok key =>
    simp only [Action.reply_bind, Action.after_bind, Action.reply_lift, Action.after_lift,
      Except.ok_bind]
    cases row.find? key with
    | some cell => exact ⟨rfl, state.2.log, rfl⟩
    | none =>
      dsimp only
      cases writable index.plain? with
      | error failure => exact ⟨rfl, state.2.log, rfl⟩
      | ok shown => exact ⟨rfl, _, rfl⟩

theorem steps_takeCell (report : Report) :
    Steps report
      (fun cells row =>
        match firstCell? row with
        | some cell => pure (cells ++ [cell])
        | none => throw .emptyRow)
      takeCell := by
  intro cells row state _
  unfold takeCell
  dsimp only
  cases firstCell? row <;> exact ⟨rfl, state.2.log, rfl⟩

theorem steps_takeRow (report : Report) :
    Steps report (fun rows row => pure (rows ++ [row])) takeRow :=
  fun _ _ state _ => ⟨rfl, state.2.log, rfl⟩

theorem steps_takeUnder (report : Report) (caller : Option String) (index : Value)
    (kept : Value → Value) :
    Steps report
      (fun gathered row => do
        let cell ← indexCell index (entries row) caller
        pure (gathered.insert (← lookable cell) (kept row)))
      (takeUnder report caller index kept) := by
  intro gathered row state reporting
  obtain ⟨found, log, left⟩ := indexCell_spec state index (entries row) caller
  rw [Action.reply_bind, Action.after_bind, found, left, reporting, takeUnder]
  cases cellOf report caller index (entries row) with
  | error failure => exact ⟨rfl, log, rfl⟩
  | ok cell =>
    dsimp only
    rw [lookable_eq, Except.ok_bind]
    cases lookedUp cell <;> exact ⟨rfl, log, rfl⟩

end Steps

/-- A result that was not read yet, gone through to its end. -/
theorem gather_fresh {β : Type} {f : β → Value → Except Failure β} {report : Report}
    {step : β → Value → Action (Database × World) β} (steps : Steps report step f) {result : Nat}
    (mode : RowMode) {state : Database × World} {rows : Server.Rows}
    (reporting : state.1.report = report) (fresh : state.2.cursor result = ⟨rows, 0⟩) (start : β) :
    reply (gather result mode start step) state = through f start (rows.answers mode) ∧
      (after (gather result mode start step) state).2.trace = state.2.trace ++
        (rows.requested result (requests f start (rows.answers mode)) ++ [.free result]) := by
  have spec := gather_spec result mode state steps reporting start
  rwa [fresh] at spec

/-- A statement that is executed has a result that was not read yet. -/
theorem sent_of_executed {state : Database × World} {sql : String} {result : Nat}
    (executed : reaction state sql = .ok result) :
    ∃ rows, state.2.script.nextReply.outcome = .ok rows ∧
      (sent state sql).2.cursor result = ⟨rows, 0⟩ ∧
      (sent state sql).2.trace = state.2.trace ++ [.execute sql] := by
  rw [reaction, Client.reply_execute] at executed
  rw [sent, reached, Client.after_execute]
  split at executed
  · rename_i connected
    cases outcome : state.2.script.nextReply.outcome with
    | error broken => simp [outcome] at executed
    | ok rows =>
      obtain rfl : state.2.cursors.length = result := by simpa [outcome] using executed
      simp [connected, outcome, World.cursor]
  · cases executed

namespace Shape

/-- The shape of a result with the rows, in the report and for the caller who hear of a missing
column. -/
def read (report : Report) (caller : Option String) (rows : Server.Rows) :
    (shape : Shape) → Except Failure shape.Answer
  | .one => (first (rows.answers .plain)).map fun row => (row.bind firstCell?).getD .null
  | .row => (first (rows.answers .named)).map (·.getD .null)
  | .column => through takeCell [] (rows.answers .plain)
  | .all => through takeRow [] (rows.answers .named)
  | .indexed index => through (takeUnder report caller index id) [] (rows.answers .named)
  | .indexedColumn index =>
    through (takeUnder report caller index (firstOther index)) [] (rows.answers .named)
  | .table => (through takeRow [] (rows.answers .plain)).map ((rows.columns.getD []), ·)

/-- How many rows are asked for until a shape is had or something fails, where there can be
rows. -/
def asked (report : Report) (caller : Option String) (rows : Server.Rows) : Shape → Nat
  | .one | .row => 1
  | .column => requests takeCell [] (rows.answers .plain)
  | .all => requests takeRow [] (rows.answers .named)
  | .indexed index => requests (takeUnder report caller index id) [] (rows.answers .named)
  | .indexedColumn index =>
    requests (takeUnder report caller index (firstOther index)) [] (rows.answers .named)
  | .table => requests takeRow [] (rows.answers .plain)

/-- The most rows that a shape asks for: one, or one more than there are. -/
def most (rows : Server.Rows) : Shape → Nat
  | .one | .row => 1
  | _ => rows.rows.length + 1

/-- A shape asks for no row after the answer that there are no more, and for all before it unless
something fails. -/
theorem asked_le_most (shape : Shape) (report : Report) (caller : Option String)
    {rows : Server.Rows} {columns : List String} (named : rows.columns = some columns) :
    shape.asked report caller rows ≤ shape.most rows ∧
      ∀ answer, shape.read report caller rows = .ok answer →
        shape.asked report caller rows = shape.most rows := by
  have answers (mode : RowMode) : rows.answers mode =
      Server.answersFrom rows.outage? (mode.row columns) 0 rows.rows := by
    simp [Server.Rows.answers, Server.Cursor.answers, named]
  cases shape with
  | one | row => exact ⟨Nat.le_refl 1, fun _ _ => rfl⟩
  | table =>
    simp only [asked, most, read, answers]
    obtain ⟨atMost, exactly⟩ := requests_answersFrom (f := takeRow) rows.outage?
      (RowMode.row .plain columns) 0 rows.rows []
    refine ⟨atMost, fun answer ended => ?_⟩
    obtain ⟨gathered, gone, -⟩ := Except.map_eq_ok.mp ended
    exact exactly gathered gone
  | _ =>
    simp only [asked, most, read, answers]
    exact requests_answersFrom rows.outage? _ 0 rows.rows []

/-- The query of a shape is executed as any other, and its result is gone through and given
back. -/
theorem exists_reading (shape : Shape) (template : Value) (arguments : List Value)
    (caller : Option String) : ∃ finish : Nat → Action (Database × World) shape.Answer,
      shape.get template arguments caller = query template arguments caller >>= finish ∧
        ∀ (state : Database × World) (result : Nat) (rows : Server.Rows),
          state.2.cursor result = ⟨rows, 0⟩ →
            reply (finish result) state = shape.read state.1.report caller rows ∧
              (after (finish result) state).2.trace = state.2.trace ++
                (rows.requested result (shape.asked state.1.report caller rows) ++
                  [.free result]) := by
  cases shape with
  | one | row =>
    refine ⟨_, rfl, fun state result rows fresh => ?_⟩
    obtain ⟨replied, traced⟩ := firstRow_spec result _ state
    rw [fresh] at replied traced
    rw [Action.reply_bind, Action.after_bind, replied, read, Server.Rows.answers]
    constructor
    · cases first (Server.Cursor.answers ⟨rows, 0⟩ _) <;> rfl
    · cases first (Server.Cursor.answers ⟨rows, 0⟩ _) <;> exact traced
  | column =>
    exact ⟨_, rfl, fun state result rows fresh => gather_fresh (steps_takeCell _) _ rfl fresh []⟩
  | all =>
    exact ⟨_, rfl, fun state result rows fresh => gather_fresh (steps_takeRow _) _ rfl fresh []⟩
  | indexed index =>
    exact ⟨_, rfl, fun state result rows fresh =>
      gather_fresh (steps_takeUnder _ caller index id) _ rfl fresh []⟩
  | indexedColumn index =>
    exact ⟨_, rfl, fun state result rows fresh =>
      gather_fresh (steps_takeUnder _ caller index (firstOther index)) _ rfl fresh []⟩
  | table =>
    refine ⟨_, rfl, fun state result rows fresh => ?_⟩
    obtain ⟨replied, traced⟩ : reply (Database.rows result .plain) state = _ ∧ _ :=
      gather_fresh (steps_takeRow state.1.report) .plain rfl fresh []
    have named : reply (onClient (Client.columnNames result)) state =
        .ok (rows.columns.getD []) := by simp [Client.columnNames, fresh]
    have same : after (onClient (Client.columnNames result)) state = state := by
      simp [Client.columnNames]
    rw [Action.reply_bind, Action.after_bind, named, same, read]
    dsimp only
    rw [Action.reply_bind, Action.after_bind, replied]
    cases through takeRow [] (rows.answers .plain) <;> exact ⟨rfl, traced⟩

/-- A query that fails ends a shape of its result. -/
theorem get_of_error (shape : Shape) {template : Value} {arguments : List Value}
    {caller : Option String} {state : Database × World} {failure : Failure}
    (failed : reply (query template arguments caller) state = .error failure) :
    reply (shape.get template arguments caller) state = .error failure ∧
      after (shape.get template arguments caller) state =
        after (query template arguments caller) state := by
  obtain ⟨finish, got, -⟩ := shape.exists_reading template arguments caller
  rw [got, Action.reply_bind, Action.after_bind, failed]
  exact ⟨rfl, rfl⟩

/-- A query whose statement is executed ends with the shape of its result. The server is asked for
the statement, then for rows if there can be any, and at last the result is given back. -/
theorem get_spec (shape : Shape) {template : Value} {arguments : List Value}
    {caller : Option String} {state : Database × World} {sql : String} {result : Nat}
    (parsed : reply (parse template arguments caller) state = .ok sql)
    (executed : reaction state sql = .ok result) :
    ∃ rows, state.2.script.nextReply.outcome = .ok rows ∧
      reply (shape.get template arguments caller) state =
        shape.read state.1.report caller rows ∧
      (after (shape.get template arguments caller) state).2.trace = state.2.trace ++
        .execute sql :: (rows.requested result (shape.asked state.1.report caller rows) ++
          [.free result]) := by
  obtain ⟨finish, got, reading⟩ := shape.exists_reading template arguments caller
  obtain ⟨ended, log, left⟩ := Query.run_of_parsed (.positional template arguments) parsed
  obtain ⟨rows, outcome, fresh, trace⟩ := sent_of_executed executed
  have answered : reply (query template arguments caller) state = .ok result := by
    rw [reply_execute, executed] at ended
    exact ended
  have left : after (query template arguments caller) state = World.withLog (sent state sql) log :=
    left
  obtain ⟨replied, traced⟩ := reading (World.withLog (sent state sql) log) result rows fresh
  refine ⟨rows, outcome, ?_, ?_⟩
  · rw [got, Action.reply_bind, answered]
    dsimp only
    rw [left, replied]
    rfl
  · rw [got, Action.after_bind, answered]
    dsimp only
    have before : (World.withLog (sent state sql) log).2.trace = state.2.trace ++ [.execute sql] :=
      trace
    rw [left, traced, before, List.append_assoc]
    rfl

end Shape

end Database

end SafeSql
