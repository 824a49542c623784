import SafeSql.Number.Whole

/-!
# Decimal numerals

A numeral is a sign, digits with an optional point among them, and an optional power of ten. It
is kept as the integer of its digits and one exponent, which loses nothing.

## Main definitions

* `Numeral` — the number `± coefficient · 10 ^ exponent`.
* `Numeral.read?` — the numeral that a text is.
-/

namespace SafeSql

structure Numeral where
  negative : Bool
  coefficient : Nat
  exponent : Int
  deriving DecidableEq, Repr

namespace Numeral

def spanDigits : List Char → List Nat × List Char
  | [] => ([], [])
  | c :: rest =>
    match Text.Digit.value? c with
    | some value => let (values, rest) := spanDigits rest; (value :: values, rest)
    | none => ([], c :: rest)

/-- The power of ten that ends a numeral: absent, or `e`, a sign and digits. -/
def readExponent? : List Char → Option Int
  | [] => some 0
  | mark :: rest =>
    if mark = 'e' || mark = 'E' then
      let (negative, unsigned) := Whole.splitSign rest
      match spanDigits unsigned with
      | ([], _) => none
      | (values, []) =>
        some (if negative then -(Whole.ofDigits values : Int) else Whole.ofDigits values)
      | (_, _ :: _) => none
    else none

def spanFraction : List Char → List Nat × List Char
  | '.' :: rest => spanDigits rest
  | rest => ([], rest)

/-- The numeral that the text is: at least one digit, before or after the point. -/
def read? (source : List Char) : Option Numeral :=
  let (negative, unsigned) := Whole.splitSign source
  let (whole, rest) := spanDigits unsigned
  let (fraction, rest) := spanFraction rest
  if whole.isEmpty && fraction.isEmpty then none
  else
    (readExponent? rest).map fun exponent =>
      ⟨negative, Whole.ofDigits (whole ++ fraction), exponent - fraction.length⟩

end Numeral

end SafeSql
