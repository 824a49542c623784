/-!
# SQL dialects

A dialect says which characters open quoted spans in SQL text, how a span can hold its own
quote, what opens a comment, and how identifiers and string literals are written.

## Main definitions

* `Dialect` — the rules of one dialect.
* `Dialect.quoteLiteral`, `Dialect.quoteIdentifier` — written literals and identifiers.
* `Dialect.mysql`, `Dialect.postgresql`, `Dialect.sqlite` — the dialects that are known.
-/

namespace SafeSql

structure Dialect where
  name : String
  identifierQuote : Char
  /-- The characters that open a quoted span, in order. -/
  quoteChars : List Char
  backslashEscapes : Bool
  hashComments : Bool
  /-- Whether `--` opens a comment only before a blank or at the end. -/
  dashCommentNeedsSpace : Bool
  escape : List Char → List Char

namespace Dialect

def double (quote : Char) (text : List Char) : List Char :=
  text.flatMap fun c => if c = quote then [c, c] else [c]

/-- A character after a backslash where a backslash, a quote or a control character would do
harm. -/
def backslashed (c : Char) : List Char :=
  if c = '\x00' then ['\\', '0']
  else if c = '\n' then ['\\', 'n']
  else if c = '\r' then ['\\', 'r']
  else if c = '\x1a' then ['\\', 'Z']
  else if c = '"' || c = '\'' || c = '\\' then ['\\', c]
  else [c]

/-- The text with a backslash before every character that needs one. -/
def backslash (text : List Char) : List Char :=
  text.flatMap backslashed

/-- Whether a backslash is active inside a span opened by the quote: never in a quoted
identifier between backticks. -/
def backslashActive (d : Dialect) (quote : Char) : Bool :=
  d.backslashEscapes && quote ≠ '\x60'

def quoteLiteral (d : Dialect) (text : List Char) : List Char :=
  ['\''] ++ d.escape text ++ ['\'']

def quoteIdentifier (d : Dialect) (text : List Char) : List Char :=
  [d.identifierQuote] ++ double d.identifierQuote text ++ [d.identifierQuote]

/-- The dialect with another way of writing the contents of literals, such as that of an open
connection. -/
def withEscape (d : Dialect) (escape : List Char → List Char) : Dialect :=
  { d with escape := escape }

/-- MySQL: identifiers between backticks, backslashes in spans, `#` comments. -/
def mysql : Dialect where
  name := "mysql"
  identifierQuote := '\x60'
  quoteChars := ['"', '\'', '\x60']
  backslashEscapes := true
  hashComments := true
  dashCommentNeedsSpace := true
  escape := backslash

/-- PostgreSQL: identifiers between double quotes, quotes doubled. -/
def postgresql : Dialect where
  name := "postgresql"
  identifierQuote := '"'
  quoteChars := ['"', '\'']
  backslashEscapes := false
  hashComments := false
  dashCommentNeedsSpace := false
  escape := double '\''

/-- SQLite: as PostgreSQL, and a span can stand between backticks. -/
def sqlite : Dialect where
  name := "sqlite"
  identifierQuote := '"'
  quoteChars := ['"', '\'', '\x60']
  backslashEscapes := false
  hashComments := false
  dashCommentNeedsSpace := false
  escape := double '\''

end Dialect

end SafeSql
