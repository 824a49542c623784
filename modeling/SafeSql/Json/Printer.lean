import SafeSql.Failure
import SafeSql.Number.Shortest
import SafeSql.Value.Display

/-!
# Writing JSON

Values as JSON text in ASCII, with an indent of two for each level. What has no JSON form is
written as the text of the value.

## Main definitions

* `Json.string` — a text between quotes.
* `Json.write` — a value as JSON.
-/

namespace SafeSql.Json

def unitEscape (code : Nat) : List Char :=
  ['\\', 'u'] ++ Text.Hex.ofNat 4 code

/-- A character as an escape: two of them beyond sixteen bits. -/
def codeEscape (c : Char) : List Char :=
  let code := c.toNat
  if code < 0x10000 then unitEscape code
  else
    let high := 0xd800 + (code - 0x10000) / 0x400
    let low := 0xdc00 + (code - 0x10000) % 0x400
    unitEscape high ++ unitEscape low

def stringChar (c : Char) : List Char :=
  if c = '"' then ['\\', '"']
  else if c = '\\' then ['\\', '\\']
  else if c = '\n' then ['\\', 'n']
  else if c = '\r' then ['\\', 'r']
  else if c = '\t' then ['\\', 't']
  else if c = '\x0c' then ['\\', 'f']
  else if c = '\x08' then ['\\', 'b']
  else if 0x20 ≤ c.toNat && c.toNat < 0x7f then [c]
  else codeEscape c

def string (text : List Char) : List Char :=
  ['"'] ++ text.flatMap stringChar ++ ['"']

def number : Binary64 → List Char
  | .nan => ['N', 'a', 'N']
  | .infinite false => "Infinity".toList
  | .infinite true => "-Infinity".toList
  | x => x.text

def newline (level : Nat) : List Char :=
  '\n' :: List.replicate (2 * level) ' '

/-- Parts between brackets, each on a line of its own. -/
def block (opening closing : Char) (level : Nat) (parts : List (List Char)) : List Char :=
  if parts.isEmpty then [opening, closing]
  else
    [opening] ++ newline (level + 1) ++ (',' :: newline (level + 1)).intercalate parts
      ++ newline level ++ [closing]

/-- The text of a key; only simple values can be keys. -/
def keyText (key : Value) : Except Failure (List Char) :=
  match key with
  | .text s | .raw s => .ok s.toList
  | .float x => .ok (number x)
  | .bool b => .ok (if b then "true".toList else "false".toList)
  | .null => .ok "null".toList
  | .int n => writable (Whole.text? n)
  | other => .error (.unwritableKey other.typeName)

def atom (value : Value) : Except Failure (List Char) :=
  match value with
  | .null => .ok "null".toList
  | .bool b => .ok (if b then "true".toList else "false".toList)
  | .int n => writable (Whole.text? n)
  | .float x => .ok (number x)
  | other => (writable other.plain?).map string

mutual

def writeAt (level : Nat) : Value → Except Failure (List Char)
  | .list items | .tuple items => do
    let parts ← writeItems (level + 1) items
    pure (block '[' ']' level parts)
  | .map entries _ => do
    let parts ← writeEntries (level + 1) entries
    pure (block '\x7b' '\x7d' level parts)
  | value => atom value

def writeItems (level : Nat) : List Value → Except Failure (List (List Char))
  | [] => .ok []
  | item :: rest => do
    let part ← writeAt level item
    let parts ← writeItems level rest
    pure (part :: parts)

def writeEntries (level : Nat) : List (Value × Value) → Except Failure (List (List Char))
  | [] => .ok []
  | (key, value) :: rest => do
    let name ← keyText key
    let content ← writeAt level value
    let parts ← writeEntries level rest
    pure ((string name ++ [':', ' '] ++ content) :: parts)

end

def write (value : Value) : Except Failure (List Char) :=
  writeAt 0 value

end SafeSql.Json
