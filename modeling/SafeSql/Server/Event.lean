/-!
# Server events

What reaches a database server, in order.

## Main definitions

* `Server.Event` — one request.
* `Server.Event.text` — the request in words.
-/

namespace SafeSql.Server

inductive Event
  | createEngine (url : String) (options : List (String × String))
  /-- No source of connections can be set up for the URL, which is shown without the password. -/
  | noEngine (url : String)
  | connect
  | autocommit
  | execute (sql : String)
  | fetch (result : Nat)
  | free (result : Nat)
  | close
  | dispose
  deriving DecidableEq, Repr

def optionText (option : String × String) : String :=
  option.1 ++ "=" ++ option.2

def Event.text : Event → String
  | .createEngine url options =>
    "create_engine " ++ url ++ " " ++ " ".intercalate (options.map optionText)
  | .noEngine url => "no engine for " ++ url
  | .connect => "connect"
  | .autocommit => "options isolation_level=AUTOCOMMIT"
  | .execute sql => "exec [" ++ sql ++ "] no_parameters=True"
  | .fetch result => "fetch " ++ toString result
  | .free result => "free " ++ toString result
  | .close => "close"
  | .dispose => "dispose"

end SafeSql.Server
