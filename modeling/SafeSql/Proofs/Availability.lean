import Mathlib.Data.Nat.Find
import SafeSql.Availability
import SafeSql.Proofs.Client.Attempts
import SafeSql.Proofs.Value.Unwritable

/-!
# Waiting for a database

A database is asked for a connection until an attempt is not refused, at most as many times as
said, with a pause between each two attempts. Every attempt sets up a source of connections of its
own and gives it back, however the attempt ends.

Messages count the attempts. A number that is too long to be written ends the waiting as soon as
one of them would show it. So does a URL for which no source of connections can be set up, and a
pause of a length that the clock refuses.

## Main definitions

* `Server.Script.connection` — how the attempts to connect go, one after another.
* `Availability.requests` — what an attempt asks of the server.
* `Availability.course` — attempts with a pause between each two.
* `Availability.Retried` — how waiting for a database ends and what it leaves.
* `Availability.BreaksOff` — how waiting breaks off, with a number, an engine or a pause that fails.

## Main statements

* `Pause.fault?_whole` — the whole numbers of seconds that a pause can take.
* `Availability.check_eq`, `Availability.check_of_fault` — one attempt.
* `Availability.attempts_of_settled`, `Availability.attempts_of_refused` — all attempts.
* `Availability.wait_of_breaksOff` — waiting that breaks off.
* `Availability.retried_iff` — when waiting goes as it should.
-/

namespace SafeSql

open SafeSql.Action (reply after)

/-- A pause of a whole number of seconds takes no time or some, and not too much. -/
theorem Pause.fault?_whole (n : Int) :
    (Pause.whole n).fault? = none ↔ 0 ≤ n ∧ n * Pause.perSecond < Pause.limit := by
  have seconds : (Pause.whole n).nanoseconds = .ok (n * Pause.perSecond) := rfl
  have limit : Pause.limit = 9223372036854775808 := rfl
  simp only [Pause.fault?, seconds, Bool.or_eq_true, decide_eq_true_eq]
  rw [limit, Pause.perSecond]
  constructor
  · intro fits
    split_ifs at fits
    constructor <;> omega
  · rintro ⟨some, few⟩
    rw [if_neg (by omega), if_neg (by omega)]

namespace Server

/-- How an attempt to connect goes; the first one has the number zero. When the script says no more
an attempt succeeds. -/
def Script.connection (script : Script) (attempt : Nat) : Option Breakdown :=
  script.connects[attempt]?.join

/-- The database refuses a connection. -/
def Script.Refuses (script : Script) (attempt : Nat) : Prop :=
  ∃ text, script.connection attempt = some (.refusal text)

theorem Script.connection_zero (script : Script) : script.connection 0 = script.nextConnection := by
  rw [connection, nextConnection, List.head?_eq_getElem?]

end Server

namespace Availability

/-- What an attempt asks of the server. An open connection is closed, and the source of connections
is given back in any case. -/
def requests (url : Url) (outcome : Option Server.Breakdown) : List Server.Event :=
  [.createEngine url.text (World.engineOptions url false), .connect] ++
    (if outcome = none then [.close] else []) ++ [.dispose]

/-- The world once an attempt was made, but for the log. -/
def attempted (url : Url) (world : World) : World :=
  { world with
    script := { world.script with connects := world.script.connects.tail }
    trace := world.trace ++ requests url world.script.nextConnection }

/-- The world after a pause. -/
def rested (delay : Pause) (world : World) : World :=
  { world with
    pauses := world.pauses ++ [delay]
    clock := world.clock.advance delay.seconds }

/-- The world after a number of attempts with a pause between each two, but for the log. -/
def course (url : Url) (delay : Pause) : Nat → World → World
  | 0, world => world
  | 1, world => attempted url world
  | left + 2, world => course url delay (left + 1) (rested delay (attempted url world))

/-- A source of connections can be set up for a URL. -/
def Equipped (url : Url) (script : Server.Script) : Prop :=
  script.engines url.masked = none

/-- The world once no source of connections could be set up. -/
def unequipped (url : Url) (world : World) : World :=
  { world with trace := world.trace ++ [.noEngine url.masked] }

/-- What it comes to that no source of connections can be set up. The words of the database are no
refusal then. -/
def engineFailure : Server.Breakdown → Failure
  | .refusal text => .server Failure.Foreign.database text
  | .outage cause => cause.raised

variable (url : Url) (retries : Int) (delay : Pause) (world : World)

/-! ## One attempt -/

/-- How an attempt ends: with a connection, with a refusal, or with what else breaks. -/
def ended (outcome : Option Server.Breakdown) (world : World) : EStateM.Result Failure World Bool :=
  match outcome with
  | none => .ok true world
  | some (.refusal _) => .ok false world
  | some broken => .error broken.raised world

theorem check_of_fault {broken : Server.Breakdown}
    (fault : world.script.engines url.masked = some broken) :
    check url world = EStateM.Result.error (engineFailure broken) (unequipped url world) := by
  have answer : reply (check url) world = .error (engineFailure broken) := by
    cases broken <;> simp [check, fault, engineFailure, Server.Breakdown.raised]
  have left : after (check url) world = unequipped url world := by
    cases broken <;> simp [check, fault, unequipped]
  rw [← left]
  exact Action.eq_error_of_reply answer

section Equipped

variable (equipped : Equipped url world.script)
include equipped

theorem reply_check : reply (check url) world =
    match world.script.nextConnection with
    | none => .ok true
    | some (.refusal _) => .ok false
    | some broken => .error broken.raised := by
  rw [Equipped] at equipped
  cases next : world.script.nextConnection with
  | none => simp [check, tryConnection, equipped, next]
  | some broken =>
    cases broken <;> simp [check, tryConnection, equipped, next, Server.Breakdown.raised]

theorem after_check : ∃ log, after (check url) world = { attempted url world with log := log } := by
  rw [Equipped] at equipped
  cases next : world.script.nextConnection with
  | none =>
    exact ⟨_, by
      simp [check, tryConnection, attempted, requests, equipped, next]
      rfl⟩
  | some broken =>
    cases broken <;> exact ⟨_, by
      simp [check, tryConnection, attempted, requests, equipped, next]
      rfl⟩

theorem check_eq : ∃ log, check url world =
    ended world.script.nextConnection { attempted url world with log := log } := by
  obtain ⟨log, left⟩ := after_check url world equipped
  have answer := reply_check url world equipped
  refine ⟨log, ?_⟩
  rw [← left]
  cases next : world.script.nextConnection with
  | none => exact Action.eq_ok_of_reply (by rw [answer, next])
  | some broken =>
    cases broken with
    | refusal => exact Action.eq_ok_of_reply (by rw [answer, next])
    | outage => exact Action.eq_error_of_reply (by rw [answer, next])

end Equipped

/-! ## Numbers in messages -/

/-- A number has too many digits to be written. -/
def Long (n : Int) : Prop :=
  Nat.pow 10 Whole.maxDigits ≤ n.natAbs

/-- So has the number of seconds of a pause. -/
def LongPause : Pause → Prop
  | .whole n => Long n
  | .exact _ => False

/-- A pause can be announced, and the clock makes it. -/
structure Feasible (delay : Pause) (clock : Clock) : Prop where
  short : ¬ LongPause delay
  made : clock.refuses delay = none

section Numbers

variable {retries delay} {n attempt : Int}

theorem Long.ten_le (long : Long n) : 10 ≤ n.natAbs := by
  have ten (digits : Nat) (some : digits ≠ 0) : 10 ≤ Nat.pow 10 digits := Nat.le_self_pow some 10
  exact Nat.le_trans (ten _ (by decide)) long

theorem spelled_of_long (long : Long n) : spelled n = .error (.refused .tooLongToWrite) := by
  simp [spelled, Whole.text?_eq_none.mpr long, writable]

theorem spelled_of_short (short : ¬ Long n) : spelled n = .ok (String.ofList (Whole.text n)) := by
  have written : Whole.text? n = some (Whole.text n) := if_pos (Nat.lt_of_not_le short)
  simp [spelled, written, writable]

theorem pauseText_of_long (long : LongPause delay) :
    pauseText delay = .error (.refused .tooLongToWrite) := by
  cases delay with
  | whole => exact spelled_of_long long
  | exact => cases long

theorem pauseText_of_short (short : ¬ LongPause delay) : ∃ text, pauseText delay = .ok text := by
  cases delay with
  | whole => exact ⟨_, spelled_of_short short⟩
  | exact => exact ⟨_, rfl⟩

theorem counted_of_long (long : Long retries) :
    counted attempt retries = .error (.refused .tooLongToWrite) := by
  by_cases first : Long attempt
  · simp [counted, spelled_of_long first]
  · simp [counted, spelled_of_short first, spelled_of_long long]

/-- An attempt is counted when all attempts can be. -/
theorem counted_of_short (short : ¬ Long retries) (some : 0 < attempt)
    (within : attempt ≤ retries) : ∃ text, counted attempt retries = .ok text := by
  have first : ¬ Long attempt := fun long => short (Nat.le_trans long (by omega))
  exact ⟨_, by simp [counted, spelled_of_short first, spelled_of_short short]; rfl⟩

end Numbers

/-! ## One attempt after another -/

section Attempts

variable {retries delay world} {left k : Nat}

theorem refuses_zero : world.script.Refuses 0 ↔
    ∃ text, world.script.nextConnection = some (.refusal text) := by
  rw [Server.Script.Refuses, Server.Script.connection_zero]

theorem pause_of_made (made : world.clock.refuses delay = none) :
    World.pause delay world = EStateM.Result.ok () (rested delay world) := by
  have answer : reply (World.pause delay) world = .ok () := by rw [World.reply_pause, made]
  rw [Action.eq_ok_of_reply answer, World.after_pause, made, rested]

theorem pause_of_refused {fault : Pause.Fault} (refused : world.clock.refuses delay = some fault) :
    World.pause delay world = EStateM.Result.error (.pause fault) world := by
  have answer : reply (World.pause delay) world = .error (.pause fault) := by
    rw [World.reply_pause, refused]
  rw [Action.eq_error_of_reply answer, World.after_pause, refused]

/-- Where no source of connections can be set up, the first attempt is the last one. -/
theorem attempts_of_fault {broken : Server.Breakdown} (more : 0 < left)
    (fault : world.script.engines url.masked = some broken) :
    attempts url retries delay left world =
      EStateM.Result.error (engineFailure broken) (unequipped url world) := by
  obtain ⟨left, rfl⟩ := Nat.exists_eq_add_one.mpr more
  rw [attempts]
  simp only [bind, EStateM.bind, check_of_fault url world fault]

section Equipped

variable (equipped : Equipped url world.script)
include equipped

/-- A refused attempt is counted and followed by a pause, if there are others left. -/
theorem attempts_of_counted_refusal (refused : world.script.Refuses 0) (more : left ≠ 0)
    (within : left < retries.toNat) (short : ¬ Long retries) (short_pause : ¬ LongPause delay) :
    ∃ log, attempts url retries delay (left + 1) world =
      (World.pause delay >>= fun _ => attempts url retries delay left)
        { attempted url world with log := log } := by
  obtain ⟨text, next⟩ := refuses_zero.mp refused
  obtain ⟨log, run⟩ := check_eq url world equipped
  obtain ⟨count, counted⟩ : ∃ text, counted (retries - left) retries = .ok text :=
    counted_of_short short (by omega) (by omega)
  obtain ⟨length, shown⟩ := pauseText_of_short short_pause
  exact ⟨_, by
    rw [attempts]
    simp only [bind, EStateM.bind, run, next, ended, counted, shown, Action.lift]
    rw [if_neg Bool.false_ne_true, if_pos more]
    rfl⟩

/-- The other attempts follow once the clock has made the pause. -/
theorem attempts_of_refusal (refused : world.script.Refuses 0) (more : left ≠ 0)
    (within : left < retries.toNat) (short : ¬ Long retries)
    (feasible : Feasible delay world.clock) :
    ∃ log, attempts url retries delay (left + 1) world =
      attempts url retries delay left { rested delay (attempted url world) with log := log } := by
  obtain ⟨log, same⟩ :=
    attempts_of_counted_refusal url equipped refused more within short feasible.short
  refine ⟨log, ?_⟩
  rw [same]
  simp only [bind, EStateM.bind]
  rw [@pause_of_made delay { attempted url world with log := log } feasible.made]
  rfl

/-- The last attempt is not followed by a pause. -/
theorem attempts_of_last_refusal (refused : world.script.Refuses 0) :
    ∃ log, attempts url retries delay 1 world =
      EStateM.Result.ok false { attempted url world with log := log } := by
  obtain ⟨text, next⟩ := refuses_zero.mp refused
  obtain ⟨log, run⟩ := check_eq url world equipped
  exact ⟨_, by
    rw [attempts]
    simp only [bind, EStateM.bind, run, next, ended]
    rfl⟩

/-- An attempt that is not refused is the last one. -/
theorem attempts_of_other (other : ¬ world.script.Refuses 0) (within : left < retries.toNat)
    (count : Long retries → world.script.connection 0 ≠ none) :
    ∃ log, attempts url retries delay (left + 1) world =
      ended (world.script.connection 0) { attempted url world with log := log } := by
  obtain ⟨log, run⟩ := check_eq url world equipped
  rw [refuses_zero] at other
  rw [Server.Script.connection_zero] at count ⊢
  cases next : world.script.nextConnection with
  | none =>
    obtain ⟨text, counted⟩ : ∃ text, counted (retries - left) retries = .ok text :=
      counted_of_short (fun long => count long next) (by omega) (by omega)
    exact ⟨_, by
      rw [attempts]
      simp only [bind, EStateM.bind, run, next, ended, counted, Action.lift]
      rfl⟩
  | some broken =>
    cases broken with
    | refusal text => exact absurd ⟨text, next⟩ other
    | outage cause =>
      exact ⟨_, by
        rw [attempts]
        simp only [bind, EStateM.bind, run, next, ended]
        rfl⟩

end Equipped

/-- What the log says is no matter for attempts. -/
theorem course_log (attempts : Nat) (log : List Log.Record) :
    course url delay attempts { world with log := log } =
      { course url delay attempts world with log := log } := by
  fun_induction course url delay attempts world with
  | case1 => rfl
  | case2 => rfl
  | case3 world left ih => exact ih

/-- How the attempts go that are left after a pause. -/
theorem connection_next (attempt : Nat) :
    (rested delay (attempted url world)).script.connection attempt =
      world.script.connection (attempt + 1) := by
  simp [rested, attempted, Server.Script.connection]

theorem refuses_next (delay : Pause) (attempt : Nat) :
    (rested delay (attempted url world)).script.Refuses attempt ↔
      world.script.Refuses (attempt + 1) := by
  rw [Server.Script.Refuses, connection_next]
  rfl

/-- An attempt and a pause change nothing about sources of connections, or about what the clock
refuses. -/
theorem equipped_next (equipped : Equipped url world.script) (delay : Pause) :
    Equipped url (rested delay (attempted url world)).script := equipped

theorem feasible_next (feasible : Feasible delay world.clock) :
    Feasible delay (rested delay (attempted url world)).clock :=
  ⟨feasible.short, feasible.made⟩

/-- Attempts end with the first one that is not refused. -/
theorem attempts_of_settled (equipped : Equipped url world.script) (within : k < left)
    (fits : left ≤ retries.toNat) (refused : ∀ i < k, world.script.Refuses i)
    (settled : ¬ world.script.Refuses k)
    (count : Long retries → k = 0 ∧ world.script.connection 0 ≠ none)
    (pause : k ≠ 0 → Feasible delay world.clock) :
    ∃ log, attempts url retries delay left world =
      ended (world.script.connection k) { course url delay (k + 1) world with log := log } := by
  induction k generalizing left world with
  | zero =>
    obtain ⟨left, rfl⟩ := Nat.exists_eq_add_one.mpr within
    exact attempts_of_other url equipped settled fits fun long => (count long).2
  | succ k ih =>
    obtain ⟨left, rfl⟩ := Nat.exists_eq_add_one.mpr (Nat.zero_lt_of_lt within)
    have feasible := pause (Nat.succ_ne_zero k)
    obtain ⟨log, same⟩ := attempts_of_refusal url equipped (refused 0 (Nat.zero_lt_succ k))
      (by omega : left ≠ 0) fits (fun long => nomatch (count long).1) feasible
    obtain ⟨log', rest⟩ := @ih { rested delay (attempted url world) with log := log } left
      (equipped_next url equipped delay) (by omega) (by omega)
      (fun i before => (refuses_next url delay i).mpr (refused _ (by omega)))
      ((refuses_next url delay k).not.mpr settled) (fun long => nomatch (count long).1)
      (fun _ => feasible_next url feasible)
    exact ⟨log', by rw [same, rest, connection_next, course_log, course]⟩

/-- Attempts that are all refused are made as often as said. -/
theorem attempts_of_refused (equipped : left ≠ 0 → Equipped url world.script)
    (fits : left ≤ retries.toNat) (refused : ∀ i < left, world.script.Refuses i)
    (count : Long retries → left = 0) (pause : 1 < left → Feasible delay world.clock) :
    ∃ log, attempts url retries delay left world =
      EStateM.Result.ok false { course url delay left world with log := log } := by
  induction left generalizing world with
  | zero => exact ⟨world.log, rfl⟩
  | succ left ih =>
    have ready := equipped (Nat.succ_ne_zero left)
    cases left with
    | zero => exact attempts_of_last_refusal url ready (refused 0 Nat.one_pos)
    | succ left =>
      have feasible := pause (by omega)
      obtain ⟨log, same⟩ := attempts_of_refusal url ready (refused 0 (Nat.zero_lt_succ _))
        (Nat.succ_ne_zero left) fits (fun long => nomatch count long) feasible
      obtain ⟨log', rest⟩ := @ih { rested delay (attempted url world) with log := log }
        (fun _ => equipped_next url ready delay) (by omega)
        (fun i before => (refuses_next url delay i).mpr (refused _ (by omega)))
        (fun long => nomatch count long) (fun _ => feasible_next url feasible)
      exact ⟨log', by rw [same, rest, course_log, course]⟩

/-- An attempt that a message would count, and cannot, is the last one. -/
theorem attempts_of_long_count (equipped : Equipped url world.script) (more : 1 < left)
    (long : Long retries)
    (counted : world.script.connection 0 = none ∨ world.script.Refuses 0) :
    ∃ log, attempts url retries delay left world =
      EStateM.Result.error (.refused .tooLongToWrite)
        { attempted url world with log := log } := by
  obtain ⟨left, rfl⟩ := Nat.exists_eq_add_one.mpr (Nat.zero_lt_of_lt more)
  obtain ⟨log, run⟩ := check_eq url world equipped
  have count : Availability.counted (retries - left) retries = .error (.refused .tooLongToWrite) :=
    counted_of_long long
  rw [refuses_zero, Server.Script.connection_zero] at counted
  refine ⟨log, ?_⟩
  rw [attempts]
  obtain next | ⟨text, next⟩ := counted
  · simp only [bind, EStateM.bind, run, next, ended, count, Action.lift]
    rfl
  · simp only [bind, EStateM.bind, run, next, ended, count, Action.lift]
    rw [if_neg Bool.false_ne_true, if_pos (by omega)]
    rfl

/-- The first attempt is refused and counted, and a pause should follow. -/
structure PauseDue (url : Url) (retries : Int) (script : Server.Script) : Prop where
  equipped : Equipped url script
  short : ¬ Long retries
  more : 1 < retries
  refused : script.Refuses 0

section Due

variable (due : PauseDue url retries world.script)
include due

/-- An attempt is the last one when a pause should follow and its length cannot be written. -/
theorem attempts_of_long_pause (long : LongPause delay) :
    ∃ log, attempts url retries delay retries.toNat world =
      EStateM.Result.error (.refused .tooLongToWrite)
        { attempted url world with log := log } := by
  have more := due.more
  obtain ⟨left, count⟩ := Nat.exists_eq_add_one.mpr (by omega : 0 < retries.toNat)
  obtain ⟨text, next⟩ := refuses_zero.mp due.refused
  obtain ⟨log, run⟩ := check_eq url world due.equipped
  obtain ⟨text, counted⟩ : ∃ text, counted (retries - left) retries = .ok text :=
    counted_of_short due.short (by omega) (by omega)
  refine ⟨log, ?_⟩
  rw [count, attempts]
  simp only [bind, EStateM.bind, run, next, ended, counted, pauseText_of_long long, Action.lift]
  rw [if_neg Bool.false_ne_true, if_pos (by omega)]
  rfl

/-- So is one after which the clock refuses to make a pause. -/
theorem attempts_of_refused_pause {fault : Pause.Fault} (short : ¬ LongPause delay)
    (refused : world.clock.refuses delay = some fault) :
    ∃ log, attempts url retries delay retries.toNat world =
      EStateM.Result.error (.pause fault) { attempted url world with log := log } := by
  have more := due.more
  obtain ⟨left, count⟩ := Nat.exists_eq_add_one.mpr (by omega : 0 < retries.toNat)
  obtain ⟨log, same⟩ := attempts_of_counted_refusal url due.equipped due.refused
    (by omega : left ≠ 0) (by omega) due.short short
  refine ⟨log, ?_⟩
  rw [count, same]
  simp only [bind, EStateM.bind]
  rw [@pause_of_refused delay { attempted url world with log := log } _ refused]

end Due

end Attempts

/-! ## Waiting -/

/-- What a number of attempts leaves, with a pause between each two of them. -/
structure Leaves (url : Url) (delay : Pause) (attempts : Nat) (before left : World) : Prop where
  trace : left.trace = before.trace ++
    (List.range attempts).flatMap fun attempt => requests url (before.script.connection attempt)
  pauses : left.pauses = before.pauses ++ List.replicate (attempts - 1) delay
  course : ∃ log, left = { course url delay attempts before with log := log }

/-- What waiting ends with when the database refuses all attempts. -/
def exhausted (url : Url) (retries : Int) : Failure :=
  .unavailable ("Database at " ++ url.masked ++ " did not become available after " ++
    String.ofList (Whole.text retries) ++ " attempts")

/-- What waiting comes to when an attempt ends it. -/
def verdict : Option Server.Breakdown → Except Failure Unit
  | none => .ok ()
  | some broken => .error broken.raised

/-- How waiting for a database ends, and what it leaves: the first attempt that is not refused
decides, or else all attempts are refused. -/
inductive Retried (url : Url) (retries : Int) (delay : Pause) (before : World) :
    Except Failure Unit → World → Prop
  | settled {attempt : Nat} {left : World} (within : (attempt + 1 : Int) ≤ retries)
    (refused : ∀ earlier < attempt, before.script.Refuses earlier)
    (settled : ¬ before.script.Refuses attempt)
    (leaves : Leaves url delay (attempt + 1) before left) :
    Retried url retries delay before (verdict (before.script.connection attempt)) left
  | refused {left : World} (refused : ∀ attempt < retries.toNat, before.script.Refuses attempt)
    (leaves : Leaves url delay retries.toNat before left) :
    Retried url retries delay before (.error (exhausted url retries)) left

/-- The URL can be shown. -/
def Shown (url : Url) : Prop :=
  ∀ port, url.port = some port → ¬ Long port

/-- How waiting breaks off: with which failure, and in which world but for the log. A number that a
message would show is too long to be written, no source of connections can be set up, or the clock
refuses to make a pause. -/
inductive BreaksOff (url : Url) (retries : Int) (delay : Pause) (before : World) :
    Failure → World → Prop
  /-- It cannot be said what is waited for. -/
  | port {port : Int} (stated : url.port = some port) (long : Long port) :
    BreaksOff url retries delay before (.refused .tooLongToWrite) before
  | engine {broken : Server.Breakdown} (shown : Shown url) (more : 0 < retries)
    (fault : before.script.engines url.masked = some broken) :
    BreaksOff url retries delay before (engineFailure broken) (unequipped url before)
  /-- It cannot be said how many attempts were not made. -/
  | none (shown : Shown url) (long : Long retries) (few : retries ≤ 0) :
    BreaksOff url retries delay before (.refused .tooLongToWrite) before
  | count (shown : Shown url) (equipped : Equipped url before.script) (long : Long retries)
    (more : 0 < retries)
    (counted : before.script.connection 0 = none ∨ before.script.Refuses 0) :
    BreaksOff url retries delay before (.refused .tooLongToWrite) (attempted url before)
  /-- It cannot be said how long the pause is to take. -/
  | length (shown : Shown url) (due : PauseDue url retries before.script)
    (long : LongPause delay) :
    BreaksOff url retries delay before (.refused .tooLongToWrite) (attempted url before)
  | pause {fault : Pause.Fault} (shown : Shown url) (due : PauseDue url retries before.script)
    (short : ¬ LongPause delay) (refused : before.clock.refuses delay = some fault) :
    BreaksOff url retries delay before (.pause fault) (attempted url before)

section Course

variable (attempts : Nat)

theorem trace_course : (course url delay attempts world).trace =
    world.trace ++ (List.range attempts).flatMap fun attempt =>
      requests url (world.script.connection attempt) := by
  fun_induction course url delay attempts world with
  | case1 => simp
  | case2 => simp [attempted, Server.Script.connection_zero]
  | case3 left world ih =>
    have later : (List.range (left + 1)).flatMap (fun attempt =>
          requests url ((rested delay (attempted url world)).script.connection attempt)) =
        (List.range (left + 1)).flatMap fun attempt =>
          requests url (world.script.connection (attempt + 1)) := by
      simp only [connection_next]
    have first : (rested delay (attempted url world)).trace =
        world.trace ++ requests url (world.script.connection 0) := by
      rw [Server.Script.connection_zero]
      rfl
    rw [Nat.succ_eq_add_one, List.range_succ_eq_map, List.flatMap_cons, List.flatMap_map, ih, later,
      first, List.append_assoc]

theorem pauses_course : (course url delay attempts world).pauses =
    world.pauses ++ List.replicate (attempts - 1) delay := by
  fun_induction course url delay attempts world with
  | case1 => simp
  | case2 => simp [attempted]
  | case3 left world ih =>
    rw [ih, Nat.succ_sub_one, Nat.succ_sub_one, List.replicate_succ]
    simp [rested, attempted]

theorem leaves_course (log : List Log.Record) :
    Leaves url delay attempts world { course url delay attempts world with log := log } where
  trace := trace_course url delay world attempts
  pauses := pauses_course url delay world attempts
  course := ⟨log, rfl⟩

end Course

section Waiting

theorem place_of_long {port : Int} (stated : url.port = some port) (long : Long port) :
    place url = .error (.refused .tooLongToWrite) := by
  simp [place, stated, spelled_of_long long]

theorem place_of_shown (shown : Shown url) :
    place url = .ok url.masked := by
  cases stated : url.port with
  | none => simp [place, stated]
  | some port => simp [place, stated, spelled_of_short (shown port stated)]

/-- The world once a message said what is waited for. -/
def announced (url : Url) (world : World) : World :=
  { world with log := world.log ++
      [⟨logger, Log.info, "Waiting for database at " ++ url.masked ++ "...", world.clock.time⟩] }

/-- What waiting comes to, once it was said, is what the attempts come to. -/
theorem wait_of_shown (shown : Shown url) : ∃ log,
    wait url retries delay world =
      match attempts url retries delay retries.toNat (announced url world) with
      | .ok true left => .ok () left
      | .ok false left =>
        match spelled retries with
        | .ok _ => .error (exhausted url retries) { left with log := log }
        | .error failure => .error failure left
      | .error failure left => .error failure left := by
  have place := place_of_shown url shown
  have said : World.say logger Log.info ("Waiting for database at " ++ url.masked ++ "...") world =
      EStateM.Result.ok () (announced url world) := rfl
  cases run : attempts url retries delay retries.toNat (announced url world) with
  | error failure left =>
    exact ⟨[], by
      simp only [wait, bind, EStateM.bind, Action.lift, place, pure, EStateM.pure, said, run]⟩
  | ok available left =>
    cases available with
    | true =>
      exact ⟨[], by
        simp only [wait, bind, EStateM.bind, Action.lift, place, pure, EStateM.pure, said, run]
        rfl⟩
    | false =>
      by_cases long : Long retries
      · exact ⟨[], by
          simp only [wait, bind, EStateM.bind, Action.lift, place, pure, EStateM.pure, said, run,
            spelled_of_long long]
          rfl⟩
      · exact ⟨_, by
          simp only [wait, bind, EStateM.bind, Action.lift, place, pure, EStateM.pure, said, run,
            spelled_of_short long, exhausted]
          rfl⟩

variable {retries delay world}

/-- Waiting that breaks off goes no further than one attempt. -/
theorem wait_of_breaksOff {failure : Failure} {left : World}
    (broken : BreaksOff url retries delay world failure left) : ∃ log,
    wait url retries delay world = EStateM.Result.error failure { left with log := log } := by
  cases broken with
  | port stated long =>
    exact ⟨world.log, by
      simp only [wait, bind, EStateM.bind, Action.lift, place_of_long url stated long]
      rfl⟩
  | engine shown more fault =>
    obtain ⟨last, same⟩ := wait_of_shown url retries delay world shown
    have run := @attempts_of_fault url retries delay (announced url world) retries.toNat _
      (by omega) fault
    exact ⟨_, by rw [same, run]; rfl⟩
  | none shown long few =>
    obtain ⟨last, same⟩ := wait_of_shown url retries delay world shown
    exact ⟨_, by
      rw [same, Int.toNat_of_nonpos few, attempts, spelled_of_long long]
      rfl⟩
  | count shown equipped long more counted =>
    obtain ⟨last, same⟩ := wait_of_shown url retries delay world shown
    have others : 1 < retries.toNat := by
      have ten := long.ten_le
      omega
    obtain ⟨log, run⟩ := @attempts_of_long_count url retries delay (announced url world) _
      equipped others long counted
    exact ⟨log, by rw [same, run]; rfl⟩
  | length shown due long =>
    obtain ⟨last, same⟩ := wait_of_shown url retries delay world shown
    obtain ⟨log, run⟩ := @attempts_of_long_pause url retries delay (announced url world) due long
    exact ⟨log, by rw [same, run]; rfl⟩
  | pause shown due short refused =>
    obtain ⟨last, same⟩ := wait_of_shown url retries delay world shown
    obtain ⟨log, run⟩ :=
      @attempts_of_refused_pause url retries delay (announced url world) due _ short refused
    exact ⟨log, by rw [same, run]; rfl⟩

section Unbroken

variable (unbroken : ¬ ∃ failure left, BreaksOff url retries delay world failure left)
include unbroken

theorem shown_of_unbroken : Shown url :=
  fun _ stated long => unbroken ⟨_, _, .port stated long⟩

theorem equipped_of_unbroken (more : 0 < retries) : Equipped url world.script := by
  cases fault : world.script.engines url.masked with
  | none => exact fault
  | some broken => exact absurd ⟨_, _, .engine (shown_of_unbroken url unbroken) more fault⟩ unbroken

/-- Attempts that are too many to be counted are made only if the first of them fails. -/
theorem uncounted_of_unbroken (more : 0 < retries) (long : Long retries) :
    world.script.connection 0 ≠ none ∧ ¬ world.script.Refuses 0 :=
  not_or.mp fun counted => unbroken ⟨_, _, .count (shown_of_unbroken url unbroken)
    (equipped_of_unbroken url unbroken more) long more counted⟩

theorem feasible_of_unbroken (more : 1 < retries) (refused : world.script.Refuses 0) :
    Feasible delay world.clock := by
  have shown := shown_of_unbroken url unbroken
  have positive : 0 < retries := by omega
  have due : PauseDue url retries world.script :=
    ⟨equipped_of_unbroken url unbroken positive,
      fun long => (uncounted_of_unbroken url unbroken positive long).2 refused, more, refused⟩
  have short : ¬ LongPause delay := fun long => unbroken ⟨_, _, .length shown due long⟩
  cases fault : world.clock.refuses delay with
  | none => exact ⟨short, fault⟩
  | some fault' => exact absurd ⟨_, _, .pause shown due short fault⟩ unbroken

/-- The first attempt that is not refused decides. -/
theorem retried_of_settled {k : Nat} (within : k < retries.toNat)
    (refused : ∀ i < k, world.script.Refuses i) (settled : ¬ world.script.Refuses k) :
    Retried url retries delay world (reply (wait url retries delay) world)
      (after (wait url retries delay) world) := by
  have more : 0 < retries := by omega
  have equipped := equipped_of_unbroken url unbroken more
  obtain ⟨last, same⟩ :=
    wait_of_shown url retries delay world (shown_of_unbroken url unbroken)
  have counted (long : Long retries) : k = 0 ∧ world.script.connection 0 ≠ none := by
    obtain ⟨other, accepted⟩ := uncounted_of_unbroken url unbroken more long
    exact ⟨Nat.eq_zero_of_not_pos fun some => accepted (refused 0 some), other⟩
  have feasible (some : k ≠ 0) : Feasible delay world.clock := by
    have others : 1 < retries := by omega
    exact feasible_of_unbroken url unbroken others (refused 0 (Nat.pos_of_ne_zero some))
  obtain ⟨log, run⟩ := @attempts_of_settled url retries delay (announced url world) _ k
    equipped within (Nat.le_refl _) refused settled counted feasible
  have result : Retried url retries delay world (verdict (world.script.connection k)) _ :=
    .settled (by omega) refused settled (leaves_course url delay world (k + 1) log)
  cases next : world.script.connection k with
  | none =>
    have done : wait url retries delay world =
        EStateM.Result.ok () { course url delay (k + 1) world with log := log } := by
      rw [same, run, announced, course_log, next, ended]
    rw [next] at result
    rw [Action.reply, Action.after, done]
    exact result
  | some broken =>
    have done : wait url retries delay world =
        EStateM.Result.error broken.raised
          { course url delay (k + 1) world with log := log } := by
      rw [same, run, announced, course_log, next]
      cases broken with
      | refusal text => exact absurd ⟨text, next⟩ settled
      | outage cause => rfl
    rw [next] at result
    rw [Action.reply, Action.after, done]
    exact result

/-- A database that refuses all attempts did not become available. -/
theorem retried_of_refused (refused : ∀ i < retries.toNat, world.script.Refuses i) :
    Retried url retries delay world (reply (wait url retries delay) world)
      (after (wait url retries delay) world) := by
  have shown := shown_of_unbroken url unbroken
  obtain ⟨last, same⟩ := wait_of_shown url retries delay world shown
  have short (long : Long retries) : False := by
    by_cases more : 0 < retries
    · exact (uncounted_of_unbroken url unbroken more long).2 (refused 0 (by omega))
    · exact unbroken ⟨_, _, .none shown long (by omega)⟩
  have equipped (some : retries.toNat ≠ 0) : Equipped url world.script := by
    have more : 0 < retries := by omega
    exact equipped_of_unbroken url unbroken more
  have feasible (others : 1 < retries.toNat) : Feasible delay world.clock := by
    have more : 1 < retries := by omega
    exact feasible_of_unbroken url unbroken more (refused 0 (by omega))
  obtain ⟨log, run⟩ := @attempts_of_refused url retries delay (announced url world) _ equipped
    (Nat.le_refl _) refused (fun long => (short long).elim) feasible
  have done : wait url retries delay world =
      EStateM.Result.error (exhausted url retries)
        { course url delay retries.toNat world with log := last } := by
    rw [same, run, spelled_of_short short, announced, course_log]
  rw [Action.reply, Action.after, done]
  exact .refused refused (leaves_course ..)

/-- Waiting that does not break off goes as it should. -/
theorem retried_of_unbroken :
    Retried url retries delay world (reply (wait url retries delay) world)
      (after (wait url retries delay) world) := by
  by_cases settled : ∃ k < retries.toNat, ¬ world.script.Refuses k
  · obtain ⟨k, within, other, refused⟩ : ∃ k < retries.toNat, ¬ world.script.Refuses k ∧
        ∀ i < k, world.script.Refuses i := by
      classical
      obtain ⟨within, other⟩ := Nat.find_spec settled
      refine ⟨Nat.find settled, within, other, fun i before => ?_⟩
      by_contra accepted
      exact Nat.find_min settled before ⟨Nat.lt_trans before within, accepted⟩
    exact retried_of_settled url unbroken within refused other
  · refine retried_of_refused url unbroken fun i within => ?_
    by_contra accepted
    exact settled ⟨i, within, accepted⟩

end Unbroken

/-- Attempts begin with a source of connections. -/
theorem Leaves.begins {attempts : Nat} {left : World}
    (leaves : Leaves url delay (attempts + 1) world left) : ∃ others, left.trace =
      world.trace ++ .createEngine url.text (World.engineOptions url false) :: others := by
  rw [leaves.trace, List.range_succ_eq_map, List.flatMap_cons]
  exact ⟨_, rfl⟩

section Retried

variable {url} {answer : Except Failure Unit} {left : World}
  (retried : Retried url retries delay world answer left)
include retried

theorem Retried.begins (more : 0 < retries) : ∃ others, left.trace =
    world.trace ++ .createEngine url.text (World.engineOptions url false) :: others := by
  cases retried with
  | settled _ _ _ leaves => exact leaves.begins
  | refused _ leaves =>
    obtain ⟨attempts, count⟩ := Nat.exists_eq_add_one.mpr (by omega : 0 < retries.toNat)
    rw [count] at leaves
    exact leaves.begins

/-- Nothing ends that goes as it should but the database. -/
theorem Retried.answer_cases : answer = .ok () ∨ (∃ broken : Server.Breakdown,
    answer = .error broken.raised) ∨ ∃ text, answer = .error (.unavailable text) := by
  cases retried with
  | @settled attempt =>
    cases world.script.connection attempt with
    | none => exact .inl rfl
    | some broken => exact .inr (.inl ⟨broken, rfl⟩)
  | refused => exact .inr (.inr ⟨_, rfl⟩)

theorem Retried.ne_tooLong : answer ≠ .error (.refused .tooLongToWrite) := by
  rcases retried.answer_cases with rfl | ⟨text | ⟨_ | _⟩, rfl⟩ | ⟨text, rfl⟩ <;>
    simp [Server.Breakdown.raised, Server.Outage.raised]

theorem Retried.ne_pause (fault : Pause.Fault) : answer ≠ .error (.pause fault) := by
  rcases retried.answer_cases with rfl | ⟨text | ⟨_ | _⟩, rfl⟩ | ⟨text, rfl⟩ <;>
    simp [Server.Breakdown.raised, Server.Outage.raised]

end Retried

/-- Waiting that breaks off does not go as it should. -/
theorem not_retried_of_breaksOff {failure : Failure} {left : World}
    (broken : BreaksOff url retries delay world failure left) :
    ¬ Retried url retries delay world (reply (wait url retries delay) world)
      (after (wait url retries delay) world) := fun retried => by
  obtain ⟨log, run⟩ := wait_of_breaksOff url broken
  obtain ⟨answer, left⟩ := Action.of_eq_error run
  rw [answer, left] at retried
  cases broken with
  | port | none | count | length => exact retried.ne_tooLong rfl
  | pause => exact retried.ne_pause _ rfl
  | engine shown more fault =>
    obtain ⟨others, trace⟩ := retried.begins more
    exact absurd (List.append_cancel_left trace) (by simp)

end Waiting

/-- Waiting for a database makes one attempt after another, up to the first that is not refused and
at most as many as said, with a pause between each two of them; that attempt decides, or else the
database did not become available. This is so unless waiting breaks off, and it is known how that
ends and what it leaves. -/
theorem retried_iff :
    (Retried url retries delay world (reply (wait url retries delay) world)
        (after (wait url retries delay) world) ↔
      ¬ ∃ failure left, BreaksOff url retries delay world failure left) ∧
      ∀ failure left, BreaksOff url retries delay world failure left →
        reply (wait url retries delay) world = .error failure ∧
          ∃ log, after (wait url retries delay) world = { left with log := log } := by
  refine ⟨⟨?_, retried_of_unbroken url⟩, ?_⟩
  · rintro retried ⟨failure, left, broken⟩
    exact not_retried_of_breaksOff url broken retried
  · intro failure left broken
    obtain ⟨log, run⟩ := wait_of_breaksOff url broken
    obtain ⟨answer, after⟩ := Action.of_eq_error run
    exact ⟨answer, log, after⟩

-- A pause that should take less than no time is not made, and no second attempt follows.
example :
    let url : Url := ⟨"sqlite", none, none, none, none, some ":memory:", []⟩
    let refusal : Server.Breakdown := .refusal "unable to open database file"
    let world := World.start .zero { Server.Script.idle with connects := [some refusal] }
    let left := after (wait url 2 (.whole (-1))) world
    (reply (wait url 2 (.whole (-1))) world).toOption = none ∧ left.pauses = [] ∧
      left.trace = requests url (some refusal) := by
  decide +kernel

/-- A database that accepts the first attempt is waited for in vain when the number of attempts that
may be made has 4301 digits, and one that refuses it is asked no more when the pause should take
less than no time. -/
theorem not_retried_endless_negative :
    let url : Url := ⟨"sqlite", none, none, none, none, some ":memory:", []⟩
    let world := World.start .zero .idle
    let retries : Int := Nat.pow 10 Whole.maxDigits
    let refusing := World.start .zero
      { Server.Script.idle with connects := [some (.refusal "unable to open database file")] }
    (world.script.connection 0 = none ∧ 0 < retries ∧
      reply (wait url retries defaultDelay) world ≠ .ok () ∧
      ¬ Retried url retries defaultDelay world (reply (wait url retries defaultDelay) world)
        (after (wait url retries defaultDelay) world)) ∧
    ∀ seconds < 0, ¬ Retried url 2 (.whole seconds) refusing
      (reply (wait url 2 (.whole seconds)) refusing)
      (after (wait url 2 (.whole seconds)) refusing) := by
  intro url world retries refusing
  have positive (digits : Nat) : (0 : Int) < Nat.pow 10 digits :=
    Int.natCast_pos.mpr (Nat.pow_pos (by decide))
  have same (number : Nat) : number ≤ (number : Int).natAbs := Nat.le_refl number
  have long : Long retries := same (Nat.pow 10 Whole.maxDigits)
  have broken : BreaksOff url retries defaultDelay world _ _ :=
    .count nofun rfl long (positive Whole.maxDigits) (.inl rfl)
  obtain ⟨_, run⟩ := wait_of_breaksOff url broken
  refine ⟨⟨rfl, positive Whole.maxDigits, ?_, not_retried_of_breaksOff url broken⟩, ?_⟩
  · rw [(Action.of_eq_error run).1]
    exact nofun
  · intro seconds negative
    have due : PauseDue url 2 refusing.script :=
      ⟨rfl, fun long => absurd long.ten_le (by decide), by decide, _, rfl⟩
    by_cases long : LongPause (.whole seconds)
    · exact not_retried_of_breaksOff url (.length nofun due long)
    · have refused : (Pause.whole seconds).fault? ≠ none := fun made =>
        absurd ((Pause.fault?_whole seconds).mp made).1 (by omega)
      obtain ⟨fault, refused⟩ := Option.ne_none_iff_exists'.mp refused
      exact not_retried_of_breaksOff url (.pause nofun due long refused)

end Availability

end SafeSql
