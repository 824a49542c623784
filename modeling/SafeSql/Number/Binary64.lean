import SafeSql.Number.Numeral

/-!
# Binary floating point

Double-precision numbers as exact values: a finite number is `± mantissa · 2 ^ exponent`. Every
operation computes its exact result and rounds it once, to the nearest number and to the even
mantissa when two are equally near.

## Main definitions

* `Binary64` — a double-precision number.
* `Binary64.ofRatio` — the number nearest to a quotient.
* `Binary64.ofNumeral` — the number nearest to a numeral.
* `Binary64.add`, `Binary64.sub` — rounded sum and difference.
* `Binary64.truncate?` — the whole number toward zero.
-/

namespace SafeSql

/-- A double-precision number. The constructor functions below keep the mantissa of a finite
number under `2 ^ 53`, and at least `2 ^ 52` unless the exponent is the least. -/
inductive Binary64
  | nan
  | infinite (negative : Bool)
  | finite (negative : Bool) (mantissa : Nat) (exponent : Int)
  deriving DecidableEq, Repr

namespace Binary64

def minExponent : Int := -1074

def maxExponent : Int := 971

def zero (negative : Bool) : Binary64 :=
  .finite negative 0 minExponent

def roundDiv (num den : Nat) : Nat :=
  let quotient := num / den
  let rest := num % den
  if 2 * rest < den then quotient
  else if den < 2 * rest then quotient + 1
  else quotient + quotient % 2

/-- The quotient `num / (den · 2 ^ exponent)`, rounded to a whole number. -/
def roundScaled (num den : Nat) (exponent : Int) : Nat :=
  if exponent < 0 then roundDiv (num * Nat.pow 2 exponent.natAbs) den
  else roundDiv num (den * Nat.pow 2 exponent.natAbs)

/-- The exponent at which the quotient of two positive numbers has 53 binary digits. -/
def ratioExponent (num den : Nat) : Int :=
  let guess : Int := (num.log2 : Int) - den.log2 - 53
  let reaches :=
    if guess < 0 then den * Nat.pow 2 53 ≤ num * Nat.pow 2 guess.natAbs
    else den * Nat.pow 2 guess.natAbs * Nat.pow 2 53 ≤ num
  if reaches then guess + 1 else guess

def ofRatio (negative : Bool) (num den : Nat) : Binary64 :=
  if num = 0 then zero negative
  else
    let exponent := max (ratioExponent num den) minExponent
    let mantissa := roundScaled num den exponent
    if mantissa = Nat.pow 2 53 then
      if exponent + 1 ≤ maxExponent then .finite negative (Nat.pow 2 52) (exponent + 1)
      else .infinite negative
    else if exponent ≤ maxExponent then .finite negative mantissa exponent
    else .infinite negative

/-- Beyond this power of ten every number is infinite, and as far below it is zero. -/
def powerBound : Int := 400

def ofNumeral (numeral : Numeral) : Binary64 :=
  let reach := numeral.exponent + (Whole.digits numeral.coefficient).length
  if numeral.coefficient = 0 || reach < -powerBound then zero numeral.negative
  else if powerBound < reach then .infinite numeral.negative
  else if numeral.exponent < 0 then
    ofRatio numeral.negative numeral.coefficient (Nat.pow 10 numeral.exponent.natAbs)
  else ofRatio numeral.negative (numeral.coefficient * Nat.pow 10 numeral.exponent.natAbs) 1

def ofInt (n : Int) : Binary64 :=
  ofRatio (n < 0) n.natAbs 1

/-- Reads a number: a numeral, or the name of one that is not finite. -/
def read? (source : List Char) : Option Binary64 :=
  match Numeral.read? source with
  | some numeral => some (ofNumeral numeral)
  | none =>
    let (negative, unsigned) := Whole.splitSign source
    match unsigned.map Char.toLower with
    | ['n', 'a', 'n'] => some .nan
    | ['i', 'n', 'f'] => some (.infinite negative)
    | ['i', 'n', 'f', 'i', 'n', 'i', 't', 'y'] => some (.infinite negative)
    | _ => none

/-- The multiple of `2 ^ base` that a finite number is, for a `base` not above its exponent. -/
def scaled (negative : Bool) (mantissa : Nat) (exponent base : Int) : Int :=
  let size : Int := (mantissa * Nat.pow 2 (exponent - base).natAbs : Nat)
  if negative then -size else size

def ofScaled (n : Int) (exponent : Int) : Binary64 :=
  if exponent < 0 then ofRatio (n < 0) n.natAbs (Nat.pow 2 exponent.natAbs)
  else ofRatio (n < 0) (n.natAbs * Nat.pow 2 exponent.natAbs) 1

def neg : Binary64 → Binary64
  | .nan => .nan
  | .infinite negative => .infinite !negative
  | .finite negative mantissa exponent => .finite (!negative) mantissa exponent

/-- The rounded sum. A sum of zero is negative only when both numbers are. -/
def add : Binary64 → Binary64 → Binary64
  | .nan, _ => .nan
  | _, .nan => .nan
  | .infinite a, .infinite b => if a = b then .infinite a else .nan
  | .infinite a, .finite .. => .infinite a
  | .finite .., .infinite b => .infinite b
  | .finite a m d, .finite b n e =>
    let base := min d e
    let sum := scaled a m d base + scaled b n e base
    if sum = 0 then zero (a && b && m = 0 && n = 0) else ofScaled sum base

def sub (x y : Binary64) : Binary64 :=
  add x (neg y)

def truncate? : Binary64 → Option Int
  | .finite negative mantissa exponent =>
    let size : Nat :=
      if exponent < 0 then mantissa / Nat.pow 2 exponent.natAbs
      else mantissa * Nat.pow 2 exponent.natAbs
    some (if negative then -(size : Int) else size)
  | _ => none

def floor? : Binary64 → Option Int
  | .finite negative mantissa exponent =>
    let whole : Int := if negative then -(mantissa : Int) else mantissa
    some (if exponent < 0 then whole.fdiv (Nat.pow 2 exponent.natAbs : Nat)
      else whole * (Nat.pow 2 exponent.natAbs : Nat))
  | _ => none

end Binary64

end SafeSql
