import SafeSql.Text.Hex
import SafeSql.Text.Printable

/-!
# Quoted text

A text or a row of bytes as it is shown in a message: between quotes, with the characters that
would not be readable written as escapes. The quotes are single ones unless the text holds
single and no double ones.

## Main definitions

* `Quoted.ofText` — a text between quotes.
* `Quoted.ofBytes`, `Quoted.ofChangeableBytes` — a row of bytes between quotes.
-/

namespace SafeSql.Text.Quoted

/-- The quote around a text: single, unless only single ones stand inside. -/
def quoteFor (text : List Char) : Char :=
  if text.contains '\'' && !text.contains '"' then '"' else '\''

def escape? (quote c : Char) : Option (List Char) :=
  if c = quote || c = '\\' then some ['\\', c]
  else if c = '\n' then some ['\\', 'n']
  else if c = '\r' then some ['\\', 'r']
  else if c = '\t' then some ['\\', 't']
  else none

/-- A character as shown: itself when printable, else by its code point. -/
def showChar (quote c : Char) : List Char :=
  match escape? quote c with
  | some escaped => escaped
  | none =>
    if isPrintable c then [c]
    else if c.toNat < 0x100 then ['\\', 'x'] ++ Hex.ofNat 2 c.toNat
    else if c.toNat < 0x10000 then ['\\', 'u'] ++ Hex.ofNat 4 c.toNat
    else ['\\', 'U'] ++ Hex.ofNat 8 c.toNat

def ofText (text : List Char) : List Char :=
  let quote := quoteFor text
  [quote] ++ text.flatMap (showChar quote) ++ [quote]

/-- A byte as shown: the ASCII character it stands for, else its number. -/
def showByte (quote : Char) (byte : UInt8) : List Char :=
  let c := Char.ofNat byte.toNat
  match escape? quote c with
  | some escaped => escaped
  | none =>
    if 32 ≤ byte && byte < 127 then [c] else ['\\', 'x'] ++ Hex.ofNat 2 byte.toNat

def quoteForBytes (bytes : List UInt8) : Char :=
  quoteFor (bytes.map fun byte => Char.ofNat byte.toNat)

def ofBytes (bytes : List UInt8) : List Char :=
  let quote := quoteForBytes bytes
  ['b', quote] ++ bytes.flatMap (showByte quote) ++ [quote]

/-- A row of bytes that can change: a single quote is an escape, whatever stands around it. -/
def ofChangeableBytes (bytes : List UInt8) : List Char :=
  let quote := quoteForBytes bytes
  ['b', quote] ++ bytes.flatMap (showByte '\'') ++ [quote]

end SafeSql.Text.Quoted
