import SafeSql.Dialect
import SafeSql.Failure
import SafeSql.Number.Shortest
import SafeSql.Value.Display

/-!
# Fragments of single values

The SQL text of a value for the placeholders that take a single one: literals, whole numbers,
names and rendered SQL.

## Main definitions

* `Fragment.scalarText` — the text of a value that a literal holds.
* `Fragment.literal` — a quoted literal, or `NULL`.
* `Fragment.integer` — a whole number in base ten, or `NULL`.
* `Fragment.identifier` — a quoted name.
* `Fragment.raw` — rendered SQL, unchanged.
-/

namespace SafeSql.Fragment

open Template (Kind)

def null : List Char := ['N', 'U', 'L', 'L']

def refuse (kind : Kind) (value : Value) (fault : Fault) : Failure :=
  .query (.of (.format kind value fault) none)

/-- The shape of a value, which a placeholder of the kind asks for first. -/
def shapeFor (kind : Kind) (value : Value) : Except Failure Value.Shape :=
  match value.shape? with
  | some shape => .ok shape
  | none => .error (refuse kind value (.unsupported value.typeName))

def wholeText (kind : Kind) (value : Value) (n : Int) : Except Failure (List Char) :=
  match Whole.text? n with
  | some text => .ok text
  | none => .error (refuse kind value .tooLong)

def scalarText (value : Value) : Except Failure (List Char) :=
  match value with
  | .bool b => .ok (if b then ['1'] else ['0'])
  | .int n => wholeText .string value n
  | .bytes data =>
    match Text.Utf8.decode data with
    | .ok text => .ok text
    | .error fault => .error (refuse .string value (.undecodable fault))
  | other => writable other.plain?

def literal (d : Dialect) (value : Value) : Except Failure (List Char) := do
  match ← shapeFor .string value with
  | .null => pure null
  | .list => throw (refuse .string value (.notScalar Value.Shape.list.label))
  | .mapping => throw (refuse .string value (.notScalar Value.Shape.mapping.label))
  | .string | .number | .raw => pure (d.quoteLiteral (← scalarText value))

/-- The whole number toward zero of a decimal number as text. Its size is known from its first
digit, before the number is written out. -/
def decimalText (d : Decimal) : Except Failure (List Char) :=
  match d with
  | .finite negative coefficient exponent =>
    let first := Decimal.adjusted coefficient exponent
    if coefficient = 0 then .ok ['0']
    else if (Whole.maxDigits : Int) ≤ first then .error (refuse .integer (.decimal d) .tooLong)
    else if first < 0 then .ok ['0']
    else
      let size :=
        if exponent < 0 then coefficient / Nat.pow 10 exponent.natAbs
        else coefficient * Nat.pow 10 exponent.natAbs
      .ok (Whole.text (if negative then -(size : Int) else size))
  | _ => do
    let shown ← writable (Value.decimal d).quoted?
    throw (refuse .integer (.decimal d) (.notFinite (String.ofList shown)))

def notNumeric (value : Value) : Failure :=
  refuse .integer value (.notNumeric value.shapeName)

/-- The whole number toward zero of a numeral, with blanks around it, as text. -/
def numeralText (value : Value) (source : List Char) : Except Failure (List Char) :=
  match Numeral.read? (Text.strip source) >>= Decimal.ofNumeral? with
  | some number => decimalText number
  | none => .error (notNumeric value)

/-- A value as a whole number in base ten, cut off toward zero, or `NULL`. -/
def integer (value : Value) : Except Failure (List Char) := do
  let _ ← shapeFor .integer value
  match value with
  | .null => pure null
  | .bool b => pure (if b then ['1'] else ['0'])
  | .int n => wholeText .integer value n
  | .float x =>
    match x.truncate? with
    | some n => pure (Whole.text n)
    | none => throw (refuse .integer value (.notFinite (String.ofList x.text)))
  | .decimal d => decimalText d
  | .text s | .raw s => numeralText value s.toList
  | _ => throw (notNumeric value)

def identifier (d : Dialect) (value : Value) : Except Failure (List Char) :=
  match value with
  | .null => .error (refuse .identifier value .emptyName)
  | .text s | .raw s =>
    if s.isEmpty then .error (refuse .identifier value .emptyName)
    else .ok (d.quoteIdentifier s.toList)
  | _ => .error (refuse .identifier value (.nameNotText value.shapeName))

def raw (value : Value) : Except Failure (List Char) :=
  match value with
  | .text s | .raw s => .ok s.toList
  | _ => .error (refuse .raw value (.notParsed value.shapeName))

end SafeSql.Fragment
