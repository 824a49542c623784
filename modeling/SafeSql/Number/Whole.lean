import SafeSql.Text.Blank
import SafeSql.Text.Digit

/-!
# Whole numbers as text

Whole numbers are written in base ten without leading zeros. Text of more than
`Whole.maxDigits` digits is neither written nor read.

## Main definitions

* `Whole.text?` — the base-ten text of a number, when it is short enough.
* `Whole.read` — the number that a text stands for, or why it stands for none.
-/

namespace SafeSql

namespace Whole

def maxDigits : Nat := 4300

def digits (n : Nat) : List Char :=
  Nat.toDigits 10 n

def text (n : Int) : List Char :=
  if n < 0 then '-' :: digits n.natAbs else digits n.natAbs

/-- The base-ten text of a whole number, unless it has too many digits. -/
def text? (n : Int) : Option (List Char) :=
  if n.natAbs < Nat.pow 10 maxDigits then some (text n) else none

def ofDigits (values : List Nat) : Nat :=
  values.foldl (fun n d => n * 10 + d) 0

inductive Fault
  | malformed (text : String)
  | tooLong (digits : Nat)
  deriving DecidableEq, Repr

/-- The blanks allowed around a number: all but the four field separators. -/
def isMargin (c : Char) : Bool :=
  Text.isBlank c && !(0x1c ≤ c.toNat && c.toNat ≤ 0x1f)

/-- Reads digits with single underscores between them: their values and the rest of the text.
The flag says whether a digit has to come next. -/
def readDigits (pending : Bool) : List Char → Option (List Nat × List Char)
  | [] => if pending then none else some ([], [])
  | c :: rest =>
    match Text.Digit.value? c with
    | some value => (readDigits false rest).map fun (values, rest) => (value :: values, rest)
    | none =>
      if pending then none
      else if c = '_' then readDigits true rest
      else some ([], c :: rest)

def splitSign : List Char → Bool × List Char
  | '-' :: rest => (true, rest)
  | '+' :: rest => (false, rest)
  | rest => (false, rest)

/-- Reads a whole number: blanks, an optional sign, digits with single underscores between
them, blanks. -/
def read (source : List Char) : Except Fault Int :=
  let (negative, unsigned) := splitSign (source.dropWhile isMargin)
  match readDigits true unsigned with
  | none => .error (.malformed (String.ofList source))
  | some (values, rest) =>
    if maxDigits < values.length then .error (.tooLong values.length)
    else if rest.all isMargin then
      .ok (if negative then -(ofDigits values : Int) else ofDigits values)
    else .error (.malformed (String.ofList source))

end Whole

end SafeSql
