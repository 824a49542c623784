/-!
# Hexadecimal text

## Main definitions

* `Hex.ofNat` — a number in base sixteen, padded with zeros to a width.
* `Hex.upperOfNat` — the same with capital letters.
* `Hex.value?` — what a hexadecimal digit counts for.
-/

namespace SafeSql.Text.Hex

/-- The number in base sixteen with small letters, in at least `width` digits. -/
def ofNat (width n : Nat) : List Char :=
  let digits := Nat.toDigits 16 n
  List.replicate (width - digits.length) '0' ++ digits

/-- The number in base sixteen with capital letters, in at least `width` digits. -/
def upperOfNat (width n : Nat) : List Char :=
  (ofNat width n).map Char.toUpper

/-- What the character counts for as a hexadecimal digit, if it is one. -/
def value? (c : Char) : Option Nat :=
  if '0' ≤ c && c ≤ '9' then some (c.toNat - '0'.toNat)
  else if 'a' ≤ c && c ≤ 'f' then some (c.toNat - 'a'.toNat + 10)
  else if 'A' ≤ c && c ≤ 'F' then some (c.toNat - 'A'.toNat + 10)
  else none

end SafeSql.Text.Hex
