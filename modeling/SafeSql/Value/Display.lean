import SafeSql.Number.Shortest
import SafeSql.Text.Quoted
import SafeSql.Value.Basic

/-!
# Text of values

A value has a plain text and a quoted one, which shows its type; inside a collection values are
always quoted. Whole numbers that are too long to be written have no text, nor has a collection
that holds one.

## Main definitions

* `Value.quoted?` — the text that shows a value and its type.
* `Value.plain?` — the text of a value by itself.
-/

namespace SafeSql

namespace Value

def commaSeparated (texts : List (List Char)) : List Char :=
  [',', ' '].intercalate texts

def offsetQuoted (offset : Int) : List Char :=
  if offset = 0 then "datetime.timezone.utc".toList
  else
    let days := offset.fdiv 86400
    let seconds := offset - days * 86400
    let parts :=
      (if days = 0 then [] else ["days=".toList ++ Whole.text days])
        ++ (if seconds = 0 then [] else ["seconds=".toList ++ Whole.text seconds])
    "datetime.timezone(datetime.timedelta(".toList ++ commaSeparated parts ++ "))".toList

/-- The parts of a time: hour and minute, the second and the microsecond as far as they are
needed, and the offset when it is known. -/
def timeParts (time : Calendar.Time) : List (List Char) :=
  let number (n : Nat) := Whole.digits n
  [number time.hour, number time.minute]
    ++ (if time.second = 0 && time.microsecond = 0 then [] else [number time.second])
    ++ (if time.microsecond = 0 then [] else [number time.microsecond])
    ++ (match time.offset with
      | none => []
      | some offset => ["tzinfo=".toList ++ offsetQuoted offset])

def dateParts (date : Calendar.Date) : List (List Char) :=
  [Whole.digits date.year, Whole.digits date.month, Whole.digits date.day]

def callText (name : String) (arguments : List (List Char)) : List Char :=
  name.toList ++ ['('] ++ commaSeparated arguments ++ [')']

def quotedAtom? : Value → Option (List Char)
  | .null => some "None".toList
  | .bool b => some (if b then "True".toList else "False".toList)
  | .int n => Whole.text? n
  | .float x => some x.text
  | .decimal d => some (callText "Decimal" [Text.Quoted.ofText d.text])
  | .text s => some (Text.Quoted.ofText s.toList)
  | .raw s => some (callText "Raw" [Text.Quoted.ofText s.toList])
  | .bytes data => some (Text.Quoted.ofBytes data)
  | .byteArray data => some (callText "bytearray" [Text.Quoted.ofChangeableBytes data])
  | .byteView _ => some "<memory>".toList
  | .date d => some (callText "datetime.date" (dateParts d))
  | .moment m => some (callText "datetime.datetime" (dateParts m.date ++ timeParts m.time))
  | .time t => some (callText "datetime.time" (timeParts t))
  | .range start stop step => do
    let start ← Whole.text? start
    let stop ← Whole.text? stop
    if step = 1 then pure (callText "range" [start, stop])
    else
      let step ← Whole.text? step
      pure (callText "range" [start, stop, step])
  | .foreign name => some ("<".toList ++ name.toList ++ " object>".toList)
  | value => some ("<".toList ++ value.typeName.toList ++ " object>".toList)

mutual

def quoted? : Value → Option (List Char)
  | .list items => do
    let texts ← quotedItems? items
    pure (['['] ++ commaSeparated texts ++ [']'])
  | .tuple items => do
    match ← quotedItems? items with
    | [single] => pure (['('] ++ single ++ [',', ')'])
    | texts => pure (['('] ++ commaSeparated texts ++ [')'])
  | .set items => do
    match ← quotedItems? items with
    | [] => pure "set()".toList
    | texts => pure (['\x7b'] ++ commaSeparated texts ++ ['\x7d'])
  | .frozenSet items => do
    match ← quotedItems? items with
    | [] => pure "frozenset()".toList
    | texts => pure (callText "frozenset" [['\x7b'] ++ commaSeparated texts ++ ['\x7d']])
  | .map entries missing => do
    let texts ← quotedEntries? entries
    let shown := ['\x7b'] ++ commaSeparated texts ++ ['\x7d']
    match missing with
    | none => pure shown
    | some (maker, _) => pure (callText "defaultdict" [maker.toList, shown])
  | value => quotedAtom? value

def quotedItems? : List Value → Option (List (List Char))
  | [] => some []
  | x :: xs => do
    let text ← quoted? x
    let texts ← quotedItems? xs
    pure (text :: texts)

def quotedEntries? : List (Value × Value) → Option (List (List Char))
  | [] => some []
  | (key, value) :: rest => do
    let keyText ← quoted? key
    let valueText ← quoted? value
    let texts ← quotedEntries? rest
    pure ((keyText ++ [':', ' '] ++ valueText) :: texts)

end

/-- The text of a value by itself: the characters of a text, the standard text of a number, a
date or a time, and the quoted text of anything else. -/
def plain? : Value → Option (List Char)
  | .text s | .raw s => some s.toList
  | .decimal d => some d.text
  | .date d => some d.text
  | .moment m => some m.text
  | .time t => some t.text
  | value => quoted? value

end Value

end SafeSql
