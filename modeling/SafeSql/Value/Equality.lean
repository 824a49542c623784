import SafeSql.Number.Exact
import SafeSql.Value.Basic

/-!
# Equality of values

Numbers are equal when they stand for the same number, whatever their type; a truth value counts
as zero or one. Plain and raw text are equal when their characters are, the three kinds of
bytes when their bytes are, and the two kinds of sets when each holds the elements of the other.
Mappings are equal when their entries are, whatever they make for other keys.
Nothing that is not a number equals anything, and one kind of it may not even be compared with a
number.

## Main definitions

* `Value.same` — equality of values.
* `Value.clash` — whether two values cannot be compared.
* `Value.lookupFault?` — what keeps a value from being looked up.
-/

namespace SafeSql

namespace Value

def number? : Value → Option Exact
  | .bool b => some (Exact.ofInt (if b then 1 else 0))
  | .int n => some (Exact.ofInt n)
  | .float x => Exact.ofBinary64? x
  | .decimal d => Exact.ofDecimal? d
  | _ => none

def infinity? : Value → Option Bool
  | .float (.infinite negative) => some negative
  | .decimal (.infinity negative) => some negative
  | _ => none

def bytes? : Value → Option (List UInt8)
  | .bytes data | .byteArray data | .byteView data => some data
  | _ => none

/-- The numbers of a range without those that a longer range could add: its length, and the
first number and the step as far as they matter. -/
def rangeView (start stop step : Int) : Nat × Option Int × Option Int :=
  let length := rangeLength start stop step
  (length, if length = 0 then none else some start, if length ≤ 1 then none else some step)

def sameAtom (x y : Value) : Bool :=
  match x, y with
  | .null, .null => true
  | .date d, .date e => d == e
  | .moment m, .moment n => m.same n
  | .time s, .time t => s.same t
  | .range a b c, .range d e f => rangeView a b c == rangeView d e f
  | .result i, .result j => i == j
  | _, _ =>
    let equal {α : Type} [BEq α] (view : Value → Option α) : Bool :=
      match view x, view y with
      | some a, some b => a == b
      | _, _ => false
    equal number? || equal infinity? || equal text? || equal bytes?

def setItems? : Value → Option (List Value)
  | .set items | .frozenSet items => some items
  | _ => none

mutual

def same : Value → Value → Bool
  | .list xs, .list ys => sameItems xs ys
  | .tuple xs, .tuple ys => sameItems xs ys
  | .set xs, y | .frozenSet xs, y =>
    match setItems? y with
    | some ys => xs.length == ys.length && allAmong xs ys
    | none => false
  | .map xs _, .map ys _ => xs.length == ys.length && entriesAmong xs ys
  | x, y => sameAtom x y

def sameItems : List Value → List Value → Bool
  | [], [] => true
  | x :: xs, y :: ys => same x y && sameItems xs ys
  | _, _ => false

/-- Whether each element equals one of the others. -/
def allAmong : List Value → List Value → Bool
  | [], _ => true
  | x :: xs, ys => ys.any (fun y => same x y) && allAmong xs ys

/-- Whether each entry has an equal key with an equal value among the others. -/
def entriesAmong : List (Value × Value) → List (Value × Value) → Bool
  | [], _ => true
  | (key, value) :: rest, others =>
    others.any (fun other => same key other.1 && same value other.2) && entriesAmong rest others

end

/-- Whether the value is a number or a "not a number". -/
def isNumber : Value → Bool
  | .bool _ | .int _ | .float _ | .decimal _ => true
  | _ => false

/-- Whether the value is a "not a number" that may not be used. -/
def isSignaling : Value → Bool
  | .decimal (.nan true _ _) => true
  | _ => false

/-- Whether two values that hold no others cannot be compared: both are numbers, and one of them
may not be used. -/
def clashAtoms (x y : Value) : Bool :=
  x.isNumber && y.isNumber && (x.isSignaling || y.isSignaling)

mutual

/-- Whether two values cannot be compared. Those that they hold are compared in order up to the
first difference, lists and mappings only when they have the same length. -/
def clash : Value → Value → Bool
  | .list xs, .list ys => xs.length == ys.length && clashItems xs ys
  | .tuple xs, .tuple ys => clashItems xs ys
  | .map xs _, .map ys _ => xs.length == ys.length && clashEntries xs ys
  | x, y => clashAtoms x y

/-- Whether elements cannot be compared that come before the first difference. -/
def clashItems : List Value → List Value → Bool
  | x :: xs, y :: ys => clash x y || (same x y && clashItems xs ys)
  | _, _ => false

/-- Whether entries cannot be compared that come before the first difference. -/
def clashEntries : List (Value × Value) → List (Value × Value) → Bool
  | [], _ => false
  | (key, value) :: rest, others =>
    match others.find? fun other => same key other.1 with
    | none => false
    | some other => clash value other.2 || (same value other.2 && clashEntries rest others)

end

inductive LookupFault
  | changeable (typeName : String)
  /-- It is a "not a number" that may not be used. -/
  | signalingNan
  deriving DecidableEq, Repr

def LookupFault.message : LookupFault → String
  | .changeable typeName => "unhashable type: '" ++ typeName ++ "'"
  | .signalingNan => "Cannot hash a signaling NaN value"

mutual

def lookupFault? : Value → Option LookupFault
  | .list _ => some (.changeable "list")
  | .map entries missing => some (.changeable (Value.map entries missing).fullTypeName)
  | .set _ => some (.changeable "set")
  | .byteArray _ => some (.changeable "bytearray")
  | .decimal (.nan true _ _) => some .signalingNan
  | .tuple items => itemLookupFault? items
  | _ => none

def itemLookupFault? : List Value → Option LookupFault
  | [] => none
  | x :: xs => (lookupFault? x).or (itemLookupFault? xs)

end

end Value

end SafeSql
