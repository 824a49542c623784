import SafeSql.Number.Binary64
import SafeSql.Number.Decimal

/-!
# Exact values

Whole, decimal and binary numbers are compared by the number they stand for, without rounding
and without writing out large powers. Each finite one equals exactly one integer without a
trailing zero digit times a power of ten.

## Main definitions

* `Exact` — a finite number in that form.
* `Exact.ofInt`, `Exact.ofDecimal?`, `Exact.ofBinary64?` — the number that a value stands for.
* `Exact.toIntWithin?` — the whole number that it is, if it is not too large.
-/

namespace SafeSql

/-- The number `± coefficient · 10 ^ exponent`; in normal form the coefficient does not end in
a zero digit, and zero is the positive `0 · 10 ^ 0`. -/
structure Exact where
  negative : Bool
  coefficient : Nat
  exponent : Int
  deriving DecidableEq, Repr

namespace Exact

def stripTens (coefficient : Nat) (exponent : Int) : Nat × Int :=
  if h : coefficient ≠ 0 ∧ coefficient % 10 = 0 then
    stripTens (coefficient / 10) (exponent + 1)
  else (coefficient, exponent)
termination_by coefficient
decreasing_by omega

def normal (negative : Bool) (coefficient : Nat) (exponent : Int) : Exact :=
  if coefficient = 0 then ⟨false, 0, 0⟩
  else
    let (coefficient, exponent) := stripTens coefficient exponent
    ⟨negative, coefficient, exponent⟩

def ofInt (n : Int) : Exact :=
  normal (n < 0) n.natAbs 0

def ofDecimal? : Decimal → Option Exact
  | .finite negative coefficient exponent => some (normal negative coefficient exponent)
  | _ => none

/-- The value of a finite binary number: a negative power of two is a power of five over the
same power of ten. -/
def ofBinary64? : Binary64 → Option Exact
  | .finite negative mantissa exponent =>
    some (if exponent < 0 then normal negative (mantissa * Nat.pow 5 exponent.natAbs) exponent
      else normal negative (mantissa * Nat.pow 2 exponent.natAbs) 0)
  | _ => none

/-- The whole number that an exact one is, unless it has a fraction, or more zero digits at its end
than the limit has digits. -/
def toIntWithin? (limit : Nat) (x : Exact) : Option Int :=
  if x.exponent < 0 || (Nat.toDigits 10 limit).length < x.exponent.toNat then none
  else
    let size : Int := x.coefficient * Nat.pow 10 x.exponent.toNat
    some (if x.negative then -size else size)

end Exact

end SafeSql
