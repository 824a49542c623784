import SafeSql.Number.Whole
import SafeSql.Text.Hex
import SafeSql.Text.Utf8

/-!
# Database URLs

Where a database is and how to log in to it, as one text: the kind of database, the user with
the password, the host with the port, the name of the database and further options. A part that
is missing leaves no trace; an empty one leaves its marks.

## Main definitions

* `Url` — the parts.
* `Url.text` — the whole text, with the password.
* `Url.masked` — the text without the password.
* `Url.backend` — the kind of database.
-/

namespace SafeSql

structure Url where
  drivername : String
  username : Option String
  password : Option String
  host : Option String
  port : Option Int
  database : Option String
  query : List (String × String)
  deriving DecidableEq, Repr

namespace Url

/-- The characters that never need an escape. -/
def isUnreserved (c : Char) : Bool :=
  c.isAlphanum || c = '_' || c = '.' || c = '-' || c = '~'

def percentByte (byte : UInt8) : List Char :=
  '%' :: Text.Hex.upperOfNat 2 byte.toNat

/-- A text with escapes for all but the unreserved characters and those kept besides. -/
def percentEncode (kept text : List Char) : List Char :=
  text.flatMap fun c =>
    if isUnreserved c || kept.contains c then [c] else (Text.Utf8.encode [c]).flatMap percentByte

def encodeLogin (text : String) : List Char :=
  percentEncode [' ', '+'] text.toList

def encodeDatabase (text : String) : List Char :=
  percentEncode [' ', '+', '/'] text.toList

def encodeOption (text : String) : List Char :=
  (percentEncode [' '] text.toList).map fun c => if c = ' ' then '+' else c

/-- A part with its marks, or nothing when it is missing. -/
def part {α : Type} (value : Option α) (show_ : α → List Char) : List Char :=
  (value.map show_).getD []

def loginText (url : Url) (shown : String → List Char) : List Char :=
  part url.username fun user =>
    encodeLogin user ++ part url.password (fun password => ':' :: shown password) ++ ['@']

/-- The host, in brackets when a colon in it could be taken for that of the port. -/
def hostText (host : String) : List Char :=
  if host.toList.contains ':' then ['['] ++ host.toList ++ [']'] else host.toList

def queryText (query : List (String × String)) : List Char :=
  if query.isEmpty then []
  else
    let sorted := query.mergeSort fun a b => !(b.1 < a.1)
    '?' :: ['&'].intercalate (sorted.map fun (name, value) =>
      encodeOption name ++ ['='] ++ encodeOption value)

def render (url : Url) (shown : String → List Char) : String :=
  String.ofList (url.drivername.toList ++ [':', '/', '/'] ++ url.loginText shown
    ++ part url.host hostText
    ++ part url.port (fun port => ':' :: Whole.text port)
    ++ part url.database (fun database => '/' :: encodeDatabase database)
    ++ queryText url.query)

def text (url : Url) : String :=
  url.render encodeLogin

def mask : List Char := ['*', '*', '*']

def masked (url : Url) : String :=
  url.render fun _ => mask

/-- The kind of database: the name of the driver up to a `+`. -/
def backend (url : Url) : String :=
  String.ofList (url.drivername.toList.takeWhile (· ≠ '+'))

def isFile (drivername : String) : Bool :=
  "sqlite".toList.isPrefixOf drivername.toList

def isMysql (drivername : String) : Bool :=
  "mysql".toList.isPrefixOf drivername.toList

theorem masked_eq_of_password (url : Url) {p q : String} :
    ({ url with password := some p } : Url).masked
      = ({ url with password := some q } : Url).masked := rfl

end Url

end SafeSql
