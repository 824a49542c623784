import SafeSql.Proofs.Database.Reading

/-!
# Results are given back

A query in a shape has a result while its statement is executed, and no longer: whichever way it
ends, the server hears of the statement, of requests for rows, and at last that the result is given
back.

## Main statements

* `Database.Shape.trace_get_of_failed` — a query without a result asks for nothing more.
* `Database.Shape.gives_back` — the requests of a query in a shape.
-/

namespace SafeSql.Database

open SafeSql.Action (reply after)

/-- A statement reaches the server while there is a connection. -/
theorem trace_sent (state : Database × World) (sql : String) : (sent state sql).2.trace =
    state.2.trace ++ if state.1.client.connected then [.execute sql] else [] := by
  rw [sent, reached, Client.after_execute]
  split <;> simp

namespace Shape

variable (shape : Shape) {template : Value} {arguments : List Value} {caller : Option String}
  {state : Database × World} {failure : Failure} {sql : String}

/-- A query that cannot be rendered asks for nothing. -/
theorem trace_get_of_unparsed (failed : reply (parse template arguments caller) state =
    .error failure) :
    (after (shape.get template arguments caller) state).2.trace = state.2.trace := by
  obtain ⟨ended, log, left⟩ : reply (query template arguments caller) state = .error failure ∧
      ∃ log, after (query template arguments caller) state = World.withLog state log :=
    Query.run_of_unparsed (.positional template arguments) failed
  rw [(shape.get_of_error ended).2, left]
  rfl

/-- A query whose statement brings no result asks for nothing more. -/
theorem trace_get_of_failed (parsed : reply (parse template arguments caller) state = .ok sql)
    (failed : reaction state sql = .error failure) :
    (after (shape.get template arguments caller) state).2.trace = state.2.trace ++
      if state.1.client.connected then [.execute sql] else [] := by
  obtain ⟨ended, log, left⟩ : reply (query template arguments caller) state =
        reply (execute sql caller) state ∧
      ∃ log, after (query template arguments caller) state = World.withLog (sent state sql) log :=
    Query.run_of_parsed (.positional template arguments) parsed
  obtain ⟨reported, ended⟩ : ∃ reported, reply (query template arguments caller) state =
      .error reported := by
    rw [ended, reply_execute, failed]
    cases failure <;> exact ⟨_, rfl⟩
  rw [(shape.get_of_error ended).2, left]
  exact trace_sent state sql

/-- A query in a shape gives its result back, whichever way it ends. Without SQL it asks for
nothing, and with a statement that fails for nothing but that statement. Once the statement has a
result, rows of that result are asked for, and then it is given back, once. No rows are asked for
where there can be none, one is where one suffices, and else no more than up to the answer that
there are none left, nor fewer unless something fails. -/
theorem gives_back (template : Value) (arguments : List Value) (caller : Option String)
    (state : Database × World) :
    let call := Call.get shape template arguments caller
    let trace := (after call.perform state).2.trace
    (call.rendered? state = none → trace = state.2.trace) ∧
    ∀ sql, call.rendered? state = some sql →
      (∀ failure, reply (Client.execute sql) (state.1.client, state.2) = .error failure →
        trace = state.2.trace ++ if state.1.client.connected then [.execute sql] else []) ∧
      ∀ result, reply (Client.execute sql) (state.1.client, state.2) = .ok result →
        ∃ rows fetched, state.2.script.nextReply.outcome = .ok rows ∧
          trace = state.2.trace ++
            .execute sql :: (List.replicate fetched (.fetch result) ++ [.free result]) ∧
          (rows.columns = none → fetched = 0) ∧
          ∀ columns, rows.columns = some columns →
            fetched = shape.asked state.1.report caller rows ∧ fetched ≤ shape.most rows ∧
              ∀ answer, reply call.perform state = .ok answer → fetched = shape.most rows := by
  intro call trace
  have rendered : call.rendered? state = (reply (parse template arguments caller) state).toOption :=
    rfl
  cases parsed : reply (parse template arguments caller) state with
  | error failure =>
    rw [rendered, parsed]
    exact ⟨fun _ => shape.trace_get_of_unparsed parsed, nofun⟩
  | ok sql =>
    rw [rendered, parsed]
    refine ⟨nofun, fun _ same => ?_⟩
    cases same
    refine ⟨fun failure failed => shape.trace_get_of_failed parsed failed,
      fun result executed => ?_⟩
    obtain ⟨rows, outcome, replied, traced⟩ := shape.get_spec parsed executed
    refine ⟨rows, _, outcome, traced, fun nameless => by rw [nameless]; rfl,
      fun columns named => ?_⟩
    obtain ⟨atMost, exactly⟩ := shape.asked_le_most state.1.report caller named
    rw [named]
    exact ⟨rfl, atMost, fun answer ended => exactly answer (replied.symm.trans ended)⟩

/-- Two rows with one column. -/
def names : Server.Rows :=
  ⟨some ["name"], [[.text "a"], [.text "b"]], -1, .null, none⟩

/-- A result without the column that is to index its rows is given back after its first row. -/
theorem gives_back_without_index :
    let state := served [⟨Binary64.zero false, .ok names⟩]
    (after (Call.get (.indexed (.text "id")) (.text "SELECT name FROM t") [] none).perform
        state).2.trace =
      state.2.trace ++ [.execute "SELECT name FROM t", .fetch 0, .free 0] := by
  intro state
  obtain ⟨-, executed⟩ := (gives_back (indexed (.text "id")) (.text "SELECT name FROM t") [] none
    state).2 _ (show _ = some "SELECT name FROM t" by decide +kernel)
  obtain ⟨rows, fetched, outcome, trace, -, some⟩ := executed 0 rfl
  cases outcome
  obtain ⟨counted, -⟩ := some ["name"] rfl
  have once : asked state.1.report none names (.indexed (.text "id")) = 1 := by decide +kernel
  rw [trace, counted, once]
  rfl

end Shape

end SafeSql.Database
