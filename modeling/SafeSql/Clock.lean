import SafeSql.Number.Binary64

/-!
# Clocks

What a program knows of time: the time of the day, a counter that only measures how long something
takes, and the pauses that are made between two steps. Not every length is one of a pause.

## Main definitions

* `Pause` — the length of a pause, in seconds.
* `Pause.fault?` — why there is no pause of a length.
* `Clock` — the state of a clock.
-/

namespace SafeSql

inductive Pause
  | whole (seconds : Int)
  | exact (seconds : Binary64)
  deriving DecidableEq, Repr

namespace Pause

def seconds : Pause → Binary64
  | .whole n => Binary64.ofInt n
  | .exact x => x

/-- Why there is no pause of a length. -/
inductive Fault
  | negative
  | undefined
  | tooLong
  deriving DecidableEq, Repr

def Fault.message : Fault → String
  | .negative => "sleep length must be non-negative"
  | .undefined => "Invalid value NaN (not a number)"
  | .tooLong => "timestamp too large to convert to C _PyTime_t"

/-- How many nanoseconds a second has. -/
def perSecond : Nat := 1000000000

/-- Nanoseconds are counted below this number, and down to its negative. -/
def limit : Int := 9223372036854775808

/-- A finite number of nanoseconds as a whole one, away from zero. -/
def awayFromZero (negative : Bool) (mantissa : Nat) (exponent : Int) : Int :=
  let size : Nat :=
    if exponent < 0 then (mantissa + (Nat.pow 2 exponent.natAbs - 1)) / Nat.pow 2 exponent.natAbs
    else mantissa * Nat.pow 2 exponent.natAbs
  if negative then -(size : Int) else size

/-- The nanoseconds of a pause. Those of a number that need not be whole are rounded as such a
number is, and then away from zero. -/
def nanoseconds : Pause → Except Fault Int
  | .whole n => .ok (n * perSecond)
  | .exact .nan => .error .undefined
  | .exact (.infinite _) => .error .tooLong
  | .exact (.finite negative mantissa exponent) =>
    let units : Int := mantissa * perSecond
    match Binary64.ofScaled (if negative then -units else units) exponent with
    | .finite negative mantissa exponent => .ok (awayFromZero negative mantissa exponent)
    | _ => .error .tooLong

/-- Why there is no pause of a length; a pause that takes no time is one. -/
def fault? (length : Pause) : Option Fault :=
  match length.nanoseconds with
  | .error fault => some fault
  | .ok count =>
    if count < -limit || limit ≤ count then some .tooLong
    else if count < 0 then some .negative
    else none

end Pause

/-- A clock: the time of the day, a counter that only measures how long something takes, and the
pauses that the clock refuses to make. -/
structure Clock where
  time : Binary64
  counter : Binary64
  refuses : Pause → Option Pause.Fault

namespace Clock

/-- A clock that makes every pause that there is. -/
def standard (time counter : Binary64) : Clock :=
  ⟨time, counter, Pause.fault?⟩

/-- The clock of someone for whom time begins, as for a program that is tried out. -/
def zero : Clock :=
  standard (Binary64.zero false) (Binary64.zero false)

def advance (clock : Clock) (seconds : Binary64) : Clock :=
  { clock with time := clock.time.add seconds, counter := clock.counter.add seconds }

end Clock

end SafeSql
