import SafeSql.Number.Binary64
import SafeSql.Number.Decimal

/-!
# Shortest decimal text

A double-precision number is written with the fewest digits that read back as the same number,
and with the nearest such digits. The numbers that read back as it form an interval around it;
on the grid of decimals with a given number of digits only its two neighbours have to be tried.

## Main definitions

* `Shortest.digits` — the shortest decimal of a positive number.
* `Binary64.text` — its text: positional from `0.0001` up to sixteen digits before the point.
* `Binary64.fixedText` — the text with a given number of places.
-/

namespace SafeSql

namespace Shortest

/-- The fractions `low / den ≤ value / den ≤ high / den` between which every decimal reads back
as the number; the ends belong to it when `closed`. -/
structure Interval where
  low : Nat
  value : Nat
  high : Nat
  den : Nat
  closed : Bool

/-- The numbers that round to `mantissa · 2 ^ exponent`: half the gap to each neighbour, where
the gap below a power of two is half the one above it. -/
def Interval.around (mantissa : Nat) (exponent : Int) : Interval :=
  let scale := Nat.pow 2 (exponent - 2).natAbs
  let (num, den) := if exponent < 2 then (1, scale) else (scale, 1)
  let below := if mantissa = Nat.pow 2 52 && Binary64.minExponent < exponent then 1 else 2
  { low := (4 * mantissa - below) * num
    value := 4 * mantissa * num
    high := (4 * mantissa + 2) * num
    den := den
    closed := mantissa % 2 = 0 }

def Interval.contains (interval : Interval) (num unit : Nat) : Bool :=
  let point := num * interval.den
  let low := interval.low * unit
  let high := interval.high * unit
  if interval.closed then low ≤ point && point ≤ high else low < point && point < high

/-- The power of ten of the first digit of the fraction `num / den`. -/
def leadingPower (num den : Nat) : Int :=
  let gap : Int := (Decimal.digitCount num : Int) - Decimal.digitCount den
  let reaches :=
    if gap < 0 then den ≤ num * Nat.pow 10 gap.natAbs
    else den * Nat.pow 10 gap.natAbs ≤ num
  if reaches then gap else gap - 1

/-- The decimal `n · 10 ^ power` nearest to the value among its two neighbours that lie in the
interval, if one does. -/
def nearest? (interval : Interval) (power : Int) : Option Nat :=
  let up := Nat.pow 10 power.natAbs
  let (scale, unit) := if power < 0 then (1, up) else (up, 1)
  let floor := interval.value * unit / (interval.den * scale)
  let inLow := interval.contains (floor * scale) unit
  let inHigh := interval.contains ((floor + 1) * scale) unit
  let twice := 2 * (interval.value * unit)
  let middle := (2 * floor + 1) * (interval.den * scale)
  if inLow && inHigh then
    if twice < middle then some floor
    else if middle < twice then some (floor + 1)
    else some (floor + floor % 2)
  else if inLow then some floor
  else if inHigh then some (floor + 1)
  else none

/-- Tries ever more digits, at most `fuel` times. -/
def search (interval : Interval) (power : Int) : Nat → Nat × Int
  | 0 => ((nearest? interval power).getD 0, power)
  | fuel + 1 =>
    match nearest? interval power with
    | some n => (n, power)
    | none => search interval (power - 1) fuel

def maxDigits : Nat := 17

/-- The shortest decimal `n · 10 ^ power` that reads back as a positive number. -/
def digits (mantissa : Nat) (exponent : Int) : Nat × Int :=
  let interval := Interval.around mantissa exponent
  search interval (leadingPower interval.value interval.den) maxDigits

end Shortest

namespace Binary64

/-- The text of digits whose first stands for `10 ^ first`: positional from four places behind
the point to sixteen before it, with at least one place; else with a power of ten of at least
two digits. -/
def positionalText (digits : List Char) (first : Int) : List Char :=
  if -4 ≤ first && first < 16 then
    if first < 0 then
      ['0', '.'] ++ List.replicate (first.natAbs - 1) '0' ++ digits
    else
      let whole := first.natAbs + 1
      let padded := digits ++ List.replicate (whole - digits.length) '0'
      let fraction := padded.drop whole
      padded.take whole ++ ['.'] ++ (if fraction.isEmpty then ['0'] else fraction)
  else
    let mantissa :=
      match digits with
      | [] => []
      | [d] => [d]
      | d :: rest => d :: '.' :: rest
    let power := Whole.digits first.natAbs
    mantissa ++ ['e'] ++ (if first < 0 then ['-'] else ['+'])
      ++ List.replicate (2 - power.length) '0' ++ power

def trimZeros (digits : List Char) : List Char :=
  (digits.reverse.dropWhile (· = '0')).reverse

def text : Binary64 → List Char
  | .nan => ['n', 'a', 'n']
  | .infinite negative => Decimal.signText negative ++ ['i', 'n', 'f']
  | .finite negative mantissa exponent =>
    Decimal.signText negative ++
      if mantissa = 0 then ['0', '.', '0']
      else
        let (n, power) := Shortest.digits mantissa exponent
        let all := Whole.digits n
        positionalText (trimZeros all) (power + all.length - 1)

/-- The text with a given number of places, rounded to nearest and to even. -/
def fixedText (places : Nat) : Binary64 → List Char
  | .nan => ['n', 'a', 'n']
  | .infinite negative => Decimal.signText negative ++ ['i', 'n', 'f']
  | .finite negative mantissa exponent =>
    let rounded :=
      if exponent < 0 then roundDiv (mantissa * Nat.pow 10 places) (Nat.pow 2 exponent.natAbs)
      else mantissa * Nat.pow 2 exponent.natAbs * Nat.pow 10 places
    let digits := Whole.digits rounded
    let padded := List.replicate (places + 1 - digits.length) '0' ++ digits
    Decimal.signText negative ++ padded.take (padded.length - places) ++ ['.']
      ++ padded.drop (padded.length - places)

end Binary64

end SafeSql
