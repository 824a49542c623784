import SafeSql.Calendar
import SafeSql.Number.Binary64
import SafeSql.Number.Decimal

/-!
# Values

The values that callers hand to a template, find in a row or list as allowed. Placeholders look
at a value only through its shape.

Views of bytes have one dimension and stay open. A foreign object has a type and nothing else: it
equals no other value, and comparing it with one does not fail. Mappings are plain ones, and those
that make a value for a key that they do not hold; what else a class of mappings could answer is
left out, and so is that a mapping keeps what it made, for it is not the same one that is looked at
again. Values are nested as deep as one likes, and there is memory for all of them.

## Main definitions

* `Value` — a value.
* `Value.Missing` — what a mapping makes for a key that it does not hold.
* `Value.Shape`, `Value.shape?` — what a placeholder can take a value for.
* `Value.typeName` — the name of the value's type.
* `Value.items` — the elements of a value with the shape of a list.
* `Value.mapItems` — a function applied to them one after another.
-/

namespace SafeSql

/-- A value. A mapping is the list of its entries in order of insertion; one that makes a value for
a key that it does not hold has the text of its maker, and what that makes. -/
inductive Value
  | null
  | bool (b : Bool)
  | int (n : Int)
  | float (x : Binary64)
  | decimal (d : Decimal)
  | text (s : String)
  | raw (s : String)
  | bytes (data : List UInt8)
  /-- Bytes that can be changed in place: a list of numbers. -/
  | byteArray (data : List UInt8)
  | byteView (data : List UInt8)
  | date (d : Calendar.Date)
  | moment (m : Calendar.Moment)
  | time (t : Calendar.Time)
  | list (items : List Value)
  | tuple (items : List Value)
  | set (items : List Value)
  | frozenSet (items : List Value)
  /-- The numbers from `start` on in steps, before `stop` is reached. -/
  | range (start stop step : Int)
  | map (entries : List (Value × Value)) (missing : Option (String × Value))
  | foreign (typeName : String)
  | result (number : Nat)

namespace Value

instance : Inhabited Value := ⟨.null⟩

/-- What a mapping makes for a key that it does not hold, with the text of the maker; nothing for
a plain mapping. -/
abbrev Missing := Option (String × Value)

inductive Shape
  | null
  | string
  | number
  | list
  | mapping
  | raw
  deriving DecidableEq, Repr

def Shape.label : Shape → String
  | .null => "null"
  | .string => "string"
  | .number => "number"
  | .list => "list"
  | .mapping => "mapping"
  | .raw => "raw"

/-- The shape of a value; objects of other types have none. -/
def shape? : Value → Option Shape
  | .null => some .null
  | .raw _ => some .raw
  | .text _ | .bytes _ | .date _ | .moment _ | .time _ => some .string
  | .bool _ | .int _ | .float _ | .decimal _ => some .number
  | .map .. => some .mapping
  | .list _ | .tuple _ | .set _ | .frozenSet _ | .range .. | .byteArray _ | .byteView _ =>
    some .list
  | .foreign _ | .result _ => none

def typeName : Value → String
  | .null => "NoneType"
  | .bool _ => "bool"
  | .int _ => "int"
  | .float _ => "float"
  | .decimal _ => "Decimal"
  | .text _ => "str"
  | .raw _ => "Raw"
  | .bytes _ => "bytes"
  | .byteArray _ => "bytearray"
  | .byteView _ => "memoryview"
  | .date _ => "date"
  | .moment _ => "datetime"
  | .time _ => "time"
  | .list _ => "list"
  | .tuple _ => "tuple"
  | .set _ => "set"
  | .frozenSet _ => "frozenset"
  | .range .. => "range"
  | .map _ none => "dict"
  | .map _ (some _) => "defaultdict"
  | .foreign name => name
  | .result _ => "CursorResult"

/-- The name of the value's type with the module that it comes from, where that is told. -/
def fullTypeName : Value → String
  | .decimal _ => "decimal.Decimal"
  | .date _ => "datetime.date"
  | .moment _ => "datetime.datetime"
  | .time _ => "datetime.time"
  | .map _ (some _) => "collections.defaultdict"
  | value => value.typeName

/-- The word for a value in messages: its shape, or its type when it has none. -/
def shapeName (value : Value) : String :=
  match value.shape? with
  | some shape => shape.label
  | none => value.typeName

/-- How many numbers there are from `start` on in steps before `stop` is reached. -/
def rangeLength (start stop step : Int) : Nat :=
  if 0 < step then ((stop - start + step - 1) / step).toNat
  else if step < 0 then ((start - stop - step - 1) / -step).toNat
  else 0

def rangeItems (start stop step : Int) : List Int :=
  (List.range (rangeLength start stop step)).map fun (i : Nat) => start + i * step

def byteItems (data : List UInt8) : List Value :=
  data.map fun byte => .int byte.toNat

/-- The elements of a value with the shape of a list; no elements for any other value. -/
def items : Value → List Value
  | .list items | .tuple items | .set items | .frozenSet items => items
  | .range start stop step => (rangeItems start stop step).map .int
  | .byteArray data | .byteView data => byteItems data
  | _ => []

/-- Whether a value with the shape of a list has elements; those of a range are not made for
that. -/
def hasItems : Value → Bool
  | .range start stop step => rangeLength start stop step ≠ 0
  | value => !value.items.isEmpty

/-- Applies a function to the numbers from one on in steps, as many as are left, up to the first
failure. What it gave for the numbers before is given backwards. -/
def mapRange {ε α : Type} (f : Value → Except ε α) (step : Int) :
    Nat → Int → List α → Except ε (List α)
  | 0, _, done => .ok done.reverse
  | left + 1, number, done =>
    match f (.int number) with
    | .error fault => .error fault
    | .ok image => mapRange f step left (number + step) (image :: done)

/-- Applies a function to the elements of a value with the shape of a list up to the first
failure; the numbers of a range are made one after another. -/
def mapItems {ε α : Type} (f : Value → Except ε α) : Value → Except ε (List α)
  | .range start stop step => mapRange f step (rangeLength start stop step) start []
  | value => value.items.mapM f

def text? : Value → Option (List Char)
  | .text s | .raw s => some s.toList
  | _ => none

end Value

end SafeSql
