import SafeSql.Failure

/-!
# Server scripts

How a database server and what stands between it and the library behave: the sources of connections
that cannot be set up, the outcome of each attempt to connect, the reply to each statement, and the
way in which an open connection escapes literals.

Whether a source of connections can be set up does not depend on what the password is. A connection
that is granted commits every statement by itself, as it is asked to, and giving back results,
connections and sources of connections does not fail.

## Main definitions

* `Server.Outage` — what ends a request without words of the database.
* `Server.Breakdown` — a server that does not do what it is asked to.
* `Server.Rows`, `Server.Reply` — what a statement brings.
* `Server.Script` — the whole behaviour.
-/

namespace SafeSql.Server

/-- What ends a request without words of the database. -/
inductive Outage
  | failure (kind : Failure.Foreign) (text : String)
  | interrupt (text : String)
  deriving DecidableEq, Repr

def Outage.raised : Outage → Failure
  | .failure kind text => .server kind text
  | .interrupt text => .interrupt text

inductive Breakdown
  /-- The database refuses, in its own words or in those of its client. -/
  | refusal (text : String)
  | outage (outage : Outage)
  deriving DecidableEq, Repr

structure Rows where
  columns : Option (List String)
  rows : List (List Value)
  rowCount : Int
  lastRowId : Value
  /-- Reading fails once this many rows were read. -/
  failsAt : Option (Nat × Outage)

/-- What ends the reading of a row, once so many rows were read. -/
def Rows.outage? (rows : Rows) (read : Nat) : Option Outage :=
  rows.failsAt.bind fun (times, outage) => if times = read then some outage else none

structure Reply where
  took : Binary64
  outcome : Except Breakdown Rows

/-- The behaviour of a server. When no attempt to connect is left the next one succeeds; when no
reply is left a statement brings nothing. -/
structure Script where
  connects : List (Option Breakdown)
  replies : List Reply
  /-- How an open connection escapes literals, if it does. -/
  escape : Option (List Char → List Char)
  /-- What comes of a URL for which no source of connections can be set up, as when there is no
  driver for it. The URL is the one without the password. -/
  engines : String → Option Breakdown

def Rows.none : Rows :=
  ⟨Option.none, [], -1, .null, Option.none⟩

def Reply.none : Reply :=
  ⟨Binary64.zero false, .ok Rows.none⟩

def Script.idle : Script :=
  ⟨[], [], Option.none, fun _ => Option.none⟩

end SafeSql.Server
