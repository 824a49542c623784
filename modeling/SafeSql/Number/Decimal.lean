import SafeSql.Number.Numeral

/-!
# Decimal numbers

Decimal numbers keep their exponent, so `1.50` and `1.5` are written apart; besides the finite
ones there are two infinities and two kinds of "not a number".

## Main definitions

* `Decimal` — a decimal number.
* `Decimal.adjusted` — the power of ten of the first digit.
* `Decimal.ofNumeral?` — the number of a numeral, unless its exponent is out of range.
* `Decimal.text` — scientific notation for very small numbers and for positive exponents,
  positional notation for the others.
-/

namespace SafeSql

inductive Decimal
  /-- Not a number; a payload of zero is no payload. -/
  | nan (signaling negative : Bool) (payload : Nat)
  | infinity (negative : Bool)
  | finite (negative : Bool) (coefficient : Nat) (exponent : Int)
  deriving DecidableEq, Repr

namespace Decimal

/-- The number of base-ten digits; zero has one. -/
def digitCount (n : Nat) : Nat :=
  (Whole.digits n).length

def adjusted (coefficient : Nat) (exponent : Int) : Int :=
  exponent + digitCount coefficient - 1

/-- The greatest power of ten of a first digit. -/
def maxAdjusted : Int := 999999999999999999

def minExponent : Int := -1999999999999999997

/-- The decimal number of a numeral, unless its exponent is out of range. -/
def ofNumeral? (numeral : Numeral) : Option Decimal :=
  if adjusted numeral.coefficient numeral.exponent ≤ maxAdjusted
      && minExponent ≤ numeral.exponent then
    some (.finite numeral.negative numeral.coefficient numeral.exponent)
  else none

private def payload? (rest : List Char) : Option Nat :=
  match Numeral.spanDigits rest with
  | (values, []) => some (Whole.ofDigits values)
  | (_, _ :: _) => none

/-- Reads one of the numbers that are not finite, by name in any case. -/
def readSpecial? (source : List Char) : Option Decimal :=
  let (negative, unsigned) := Whole.splitSign source
  match unsigned.map Char.toLower with
  | ['i', 'n', 'f'] => some (.infinity negative)
  | ['i', 'n', 'f', 'i', 'n', 'i', 't', 'y'] => some (.infinity negative)
  | 'n' :: 'a' :: 'n' :: rest => (payload? rest).map (.nan false negative)
  | 's' :: 'n' :: 'a' :: 'n' :: rest => (payload? rest).map (.nan true negative)
  | _ => none

/-- Reads a decimal number: a numeral within range, or a name. -/
def read? (source : List Char) : Option Decimal :=
  match Numeral.read? source with
  | some numeral => ofNumeral? numeral
  | none => readSpecial? source

def signText (negative : Bool) : List Char :=
  if negative then ['-'] else []

/-- The least power of ten of a first digit in positional notation. -/
def minPositional : Int := -6

/-- The text of `coefficient · 10 ^ exponent`: positional when the exponent is not positive and
the first digit is not too far behind the point, scientific else. -/
def finiteText (coefficient : Nat) (exponent : Int) : List Char :=
  let digits := Whole.digits coefficient
  let first := adjusted coefficient exponent
  if exponent ≤ 0 && minPositional ≤ first then
    let places := exponent.natAbs
    if places = 0 then digits
    else
      let padded := List.replicate (places + 1 - digits.length) '0' ++ digits
      padded.take (padded.length - places) ++ ['.'] ++ padded.drop (padded.length - places)
  else
    let mantissa :=
      match digits with
      | [] => []
      | [d] => [d]
      | d :: rest => d :: '.' :: rest
    mantissa ++ ['E'] ++ (if first < 0 then ['-'] else ['+']) ++ Whole.digits first.natAbs

def text : Decimal → List Char
  | .nan signaling negative payload =>
    signText negative ++ (if signaling then ['s', 'N', 'a', 'N'] else ['N', 'a', 'N'])
      ++ (if payload = 0 then [] else Whole.digits payload)
  | .infinity negative => signText negative ++ "Infinity".toList
  | .finite negative coefficient exponent =>
    signText negative ++ finiteText coefficient exponent

end Decimal

end SafeSql
