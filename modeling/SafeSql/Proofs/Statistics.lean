import SafeSql.Proofs.Actions
import SafeSql.Statistics

/-!
# The window of the statistics

Statistics are a window on a history without bounds: whatever is recorded, measured and cleared,
they hold the last entries of that history, as many as the limit allows. A measured block makes one
entry, at its end, whether it ends by itself or by raising.

## Main definitions

* `Statistics.Steps` — what can be done with statistics.
* `Statistics.Steps.run` — the steps, on statistics and the world.
* `Statistics.Steps.recorded` — the entries that they make since the last clear, and the clock.

## Main statements

* `Statistics.reply_measure`, `Statistics.after_measure` — a measured action.
* `Statistics.window_of_run` — statistics stay a window on the history.
* `Statistics.ring_of_steps` — the statistics after any steps.
-/

namespace SafeSql

open SafeSql.Action (reply after)

@[simp] theorem World.reply_now (world : World) : reply World.now world = .ok world.clock := rfl

@[simp] theorem World.after_now (world : World) : after World.now world = world := rfl

namespace Statistics

/-! ## Empty statistics -/

theorem of_empty {limit : Int} {statistics : Statistics} (started : empty limit = .ok statistics) :
    statistics.limit = limit ∧ statistics.entries = [] := by
  unfold empty at started
  split at started
  · split at started
    · cases started
    · cases started
      exact ⟨by dsimp only; omega, rfl⟩
  · simp [Except.bind_eq_ok] at started

/-- The statistics that a program begins with. -/
def fresh (limit : Nat) (positive : 0 < limit) : Statistics :=
  ⟨limit, [], positive, Nat.zero_le _⟩

/-- A positive limit is only refused when there are too many entries to count. -/
theorem empty_eq_fresh (limit : Nat) (positive : 0 < limit) :
    empty limit =
      if (limit : Int) ≤ maxLimit then .ok (fresh limit positive) else .error .tooManyToCount := by
  have size : 0 < (limit : Int).toNat := by omega
  rw [empty, dif_pos size]
  by_cases countable : (limit : Int) ≤ maxLimit
  · rw [if_neg (by omega), if_pos countable]
    rfl
  · rw [if_pos (by omega), if_neg countable]

theorem exists_empty {limit : Int} (positive : 0 < limit) (countable : limit ≤ maxLimit) :
    ∃ statistics, empty limit = .ok statistics := by
  obtain ⟨n, rfl⟩ := Int.eq_ofNat_of_zero_le (Int.le_of_lt positive)
  exact ⟨_, (empty_eq_fresh n (Int.natCast_pos.mp positive)).trans (if_pos countable)⟩

/-! ## The last elements of a list -/

@[simp] theorem lastOf_nil {α : Type} (limit : Nat) : lastOf limit ([] : List α) = [] :=
  List.drop_nil

theorem lastOf_of_le {α : Type} {limit : Nat} {list : List α} (short : list.length ≤ limit) :
    lastOf limit list = list := by
  rw [lastOf, Nat.sub_eq_zero_of_le short, List.drop_zero]

theorem length_lastOf {α : Type} (limit : Nat) (list : List α) :
    (lastOf limit list).length = min limit list.length := by
  rw [lastOf, List.length_drop]
  omega

theorem lastOf_append_lastOf {α : Type} (limit : Nat) (list more : List α) :
    lastOf limit (lastOf limit list ++ more) = lastOf limit (list ++ more) := by
  have same : lastOf limit list ++ more = (list ++ more).drop (list.length - limit) := by
    rw [lastOf, List.drop_append_of_le_length (Nat.sub_le ..)]
  rw [same, lastOf, lastOf, List.drop_drop]
  congr 1
  simp only [List.length_drop, List.length_append]
  omega

theorem getLast?_lastOf {α : Type} {limit : Nat} (pos : 0 < limit) (list : List α) :
    (lastOf limit list).getLast? = list.getLast? := by
  rw [lastOf, List.getLast?_drop]
  split
  · rw [eq_comm, List.getLast?_eq_none_iff, ← List.length_eq_zero_iff]
    omega
  · rfl

theorem map_lastOf {α β : Type} (limit : Nat) (f : α → β) (list : List α) :
    (lastOf limit list).map f = lastOf limit (list.map f) := by
  simp [lastOf]

/-! ## Entries -/

@[simp] theorem reply_record (entry : Entry) (state : Statistics × World) :
    reply (record entry) state = .ok () := rfl

@[simp] theorem after_record (entry : Entry) (state : Statistics × World) :
    after (record entry) state =
      (state.1.push entry, after (World.say logger Log.debug entry.message) state.2) := rfl

section Measure

variable {τ α : Type} {keep : Entry → Action (τ × World) Unit} {query : String}
  {action : Action (τ × World) (Option String × Except Failure α)} {state : τ × World}
  {noted : Option String} {result : Except Failure α}

/-- A measured action comes to what it comes to by itself. -/
theorem reply_measure (kept : ∀ entry state, reply (keep entry) state = .ok ())
    (ended : reply action state = .ok (noted, result)) :
    reply (measure (Action.onWorld World.now) keep query action) state = result := by
  simp [measure, kept, ended]

/-- A measured action leaves its entry, whether it comes to a value or to a failure. -/
theorem after_measure (kept : ∀ entry state, reply (keep entry) state = .ok ())
    (ended : reply action state = .ok (noted, result)) :
    after (measure (Action.onWorld World.now) keep query action) state =
      after
        (keep ⟨query, state.2.clock.time,
          (after action state).2.clock.counter.sub state.2.clock.counter,
          entryError noted result⟩)
        (after action state) := by
  simp [measure, kept, ended]

end Measure

/-! ## Steps -/

/-- What can be done with statistics, one thing after another. A measured block is itself such a
sequence: it notes errors on the way, and ends by itself or by raising a failure. A failure that
leaves the block is caught behind it. -/
inductive Steps
  | done
  | raise (failure : Failure)
  | note (text : String) (rest : Steps)
  /-- The clock goes on, or is set. -/
  | tick (clock : Clock) (rest : Steps)
  | record (entry : Entry) (rest : Steps)
  | clear (rest : Steps)
  | measure (query : String) (block rest : Steps)

namespace Steps

/-- The failure that a block raises at its end. -/
def raised? : Steps → Option Failure
  | .done => none
  | .raise failure => some failure
  | .note _ rest | .tick _ rest | .record _ rest | .clear rest | .measure _ _ rest => rest.raised?

/-- The last error that a block notes. -/
def noted? : Steps → Option String
  | .done | .raise _ => none
  | .note text rest => some (rest.noted?.getD text)
  | .tick _ rest | .record _ rest | .clear rest | .measure _ _ rest => rest.noted?

/-- The error in the entry of a block: the text of an ordinary failure that it raises, else the last
error that it notes. -/
def error? (block : Steps) : Option String :=
  ((block.raised?.filter Failure.isOrdinary).map Failure.message).or block.noted?

/-- How a block ends. -/
def ending (block : Steps) : Except Failure Unit :=
  match block.raised? with
  | none => .ok ()
  | some failure => .error failure

def run : Steps → Action (Statistics × World) Unit
  | .done | .raise _ => pure ()
  | .note _ rest => rest.run
  | .tick clock rest => do
    modify fun (statistics, world) => (statistics, { world with clock := clock })
    rest.run
  | .record entry rest => do
    Statistics.record entry
    rest.run
  | .clear rest => do
    modify fun (statistics, world) => (statistics.clear, world)
    rest.run
  | .measure query block rest => do
    let block := do
      block.run
      pure (block.noted?, block.ending)
    let _ ← (Statistics.measure (Action.onWorld World.now) Statistics.record query block).outcome
    rest.run

/-- A block that is measured. -/
def measured (query : String) (block : Steps) : Action (Statistics × World) Unit :=
  Statistics.measure (Action.onWorld World.now) Statistics.record query do
    block.run
    pure (block.noted?, block.ending)

/-- The entries that are made since the last clear, behind those of before, and the clock. A
measured block is one entry behind those that it makes: it starts with the time of the clock in
front of the block and takes as long as the counter of the clock goes on until its end. -/
def recorded : Steps → List Entry × Clock → List Entry × Clock
  | .done, whole | .raise _, whole => whole
  | .note _ rest, whole => rest.recorded whole
  | .tick clock rest, (entries, _) => rest.recorded (entries, clock)
  | .record entry rest, (entries, clock) => rest.recorded (entries ++ [entry], clock)
  | .clear rest, (_, clock) => rest.recorded ([], clock)
  | .measure query block rest, (entries, start) =>
    let (entries, stop) := block.recorded (entries, start)
    let entry : Entry := ⟨query, start.time, stop.counter.sub start.counter, block.error?⟩
    rest.recorded (entries ++ [entry], stop)

variable (query : String) (block : Steps) (state : Statistics × World)

@[simp] theorem reply_run : reply block.run state = .ok () := by
  induction block generalizing state with
  | measure query block rest ih ih' => simp [run, ih']
  | _ => simp_all [run]

theorem entryError_eq : entryError block.noted? block.ending = block.error? := by
  unfold entryError ending error?
  cases block.raised? with
  | none => rfl
  | some failure => cases ordinary : failure.isOrdinary <;> simp [ordinary, Option.filter]

/-- A measured block ends as it ends by itself. -/
theorem reply_measured : reply (measured query block) state = block.ending := by
  have ended : reply (do block.run; pure (block.noted?, block.ending)) state =
      .ok (block.noted?, block.ending) := by simp
  exact reply_measure (fun _ _ => rfl) ended

/-- A measured block leaves one entry more than it leaves by itself. -/
theorem after_measured : after (measured query block) state =
    after
      (Statistics.record ⟨query, state.2.clock.time,
        (after block.run state).2.clock.counter.sub state.2.clock.counter, block.error?⟩)
      (after block.run state) := by
  have ended : reply (do block.run; pure (block.noted?, block.ending)) state =
      .ok (block.noted?, block.ending) := by simp
  rw [measured, after_measure (fun _ _ => rfl) ended]
  simp [entryError_eq]

@[simp] theorem after_run_measure (rest : Steps) :
    after (Steps.measure query block rest).run state =
      after rest.run (after (measured query block) state) := by
  simp [run, measured]

end Steps

theorem entries_push_of_window {statistics : Statistics} {history : List Entry}
    (window : statistics.entries = lastOf statistics.limit history) (entry : Entry) :
    (statistics.push entry).entries = lastOf statistics.limit (history ++ [entry]) := by
  rw [entries_push, window, lastOf_append_lastOf]

/-- Statistics that hold the last entries of a history hold, after any steps, the last ones of what
the history has become. -/
theorem window_of_run (steps : Steps) (statistics : Statistics) (world : World)
    {history : List Entry} (window : statistics.entries = lastOf statistics.limit history) :
    let left := after steps.run (statistics, world)
    let whole := steps.recorded (history, world.clock)
    left.1.limit = statistics.limit ∧ left.1.entries = lastOf statistics.limit whole.1 ∧
      left.2.clock = whole.2 := by
  induction steps generalizing statistics world history with
  | done | raise => exact ⟨rfl, window, rfl⟩
  | note text rest ih => exact ih statistics world window
  | tick clock rest ih => exact ih statistics { world with clock := clock } window
  | clear rest ih => exact ih statistics.clear world (lastOf_nil _).symm
  | record entry rest ih =>
    exact ih (statistics.push entry) _ (entries_push_of_window window entry)
  | measure query block rest ih ih' =>
    -- The entry of the block comes behind those that its own steps make.
    obtain ⟨limit, entries, clock⟩ := ih statistics world window
    simp only [Steps.recorded, Steps.after_run_measure, Steps.after_measured, after_record]
    cases made : block.recorded (history, world.clock) with
    | mk whole stop =>
      rw [made] at entries clock
      obtain rfl : _ = stop := clock
      rw [← limit] at entries ⊢
      exact ih' _ _ (entries_push_of_window entries _)

/-- Statistics are a ring: after any steps they hold the last entries that were made since the last
clear, in order, as many as the limit allows, and the last statement is that of the newest one. A
measured block makes one entry behind those of its own steps, however it ends: it starts with the
time of the clock in front of the block, takes as long as the counter goes on until the end of the
block, and has the text of the ordinary failure that the block raises, else the last error that it
notes. -/
theorem ring_of_steps (limit : Nat) (positive : 0 < limit) (steps : Steps) (world : World) :
    let now := after steps.run (fresh limit positive, world)
    let whole := (steps.recorded ([], world.clock)).1
    empty limit =
      (if (limit : Int) ≤ maxLimit then .ok (fresh limit positive) else .error .tooManyToCount) ∧
    now.1.entries.length = min limit whole.length ∧ now.1.entries <:+ whole ∧
    now.1.lastQuery = whole.getLast?.map (·.query) ∧
    ∀ query block,
      let inside := after block.run now
      reply (Steps.measured query block) now = block.ending ∧
      (after (Steps.measured query block) now).1 =
        inside.1.push ⟨query, now.2.clock.time,
          inside.2.clock.counter.sub now.2.clock.counter, block.error?⟩ := by
  have window : (fresh limit positive).entries = lastOf limit [] := (lastOf_nil limit).symm
  obtain ⟨-, entries, -⟩ := window_of_run steps (fresh limit positive) world window
  dsimp only
  refine ⟨empty_eq_fresh limit positive, ?_, ?_, ?_, fun query block => ⟨?_, ?_⟩⟩
  · rw [entries, length_lastOf]
    rfl
  · rw [entries]
    exact List.drop_suffix ..
  · rw [lastQuery, entries]
    exact congrArg _ (getLast?_lastOf positive _)
  · exact Steps.reply_measured ..
  · rw [Steps.after_measured, after_record]

/-- A block that notes an error and is then left by a failure, behind a statement that its entry
pushes out, while the time of the clock is set back. -/
theorem ring_of_steps_measured :
    let later : Clock := .standard (Binary64.ofInt 0) (Binary64.ofInt 7)
    let steps : Steps := .record ⟨"a", Binary64.zero false, Binary64.zero false, none⟩ <|
      .clear <| .record ⟨"b", Binary64.zero false, Binary64.zero false, none⟩ <|
      .measure "c" (.note "slow" <| .tick later <| .raise .tooManyToCount) .done
    let world := World.start (.standard (Binary64.ofInt 1) (Binary64.ofInt 5)) .idle
    let now := after steps.run (fresh 1 Nat.one_pos, world)
    0 < 1 ∧ now.1.entries.length = 1 ∧ now.1.lastQuery = some "c" ∧
      now.1.entries <:+
        [⟨"b", Binary64.zero false, Binary64.zero false, none⟩,
          ⟨"c", Binary64.ofInt 1, (Binary64.ofInt 7).sub (Binary64.ofInt 5),
            some Failure.tooManyToCount.message⟩] := by
  intro later steps world now
  obtain ⟨-, size, window, last, -⟩ := ring_of_steps 1 Nat.one_pos steps world
  exact ⟨Nat.one_pos, size, last, window⟩

end Statistics

end SafeSql
