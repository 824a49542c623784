import SafeSql.CommandLine
import SafeSql.Proofs.Client.Attempts

/-!
# How a command line ends

What the options ask for ends with an exit code or a failure, and something may be said about it.
The rest of a command line is the reading of its words and the setup of the log, which do not
depend on whether a template is executed or only shown.

## Main definitions

* `CommandLine.Options.executing` — the options with execution asked for.
* `CommandLine.verdict`, `CommandLine.farewell` — what an end comes to, and what is said about it.

## Main statements

* `CommandLine.Options.parse_execute` — one more word asks for execution.
* `CommandLine.reply_guarded`, `CommandLine.after_guarded` — the end of what the options ask for.
* `CommandLine.run_of_ready` — a whole command line.
-/

namespace SafeSql.CommandLine

open SafeSql.Action (reply after)

/-! ## The option to execute -/

namespace Options

/-- The options with execution asked for. -/
def executing (options : Options) : Options :=
  { options with execute := true }

variable (options : Options)

theorem setValue_executing (switch : Switch) (value : String) :
    options.executing.setValue switch value = (options.setValue switch value).map executing := by
  unfold setValue
  dsimp only
  split
  · rfl
  · cases switch <;> rfl

theorem setFlag_executing (switch : Switch) :
    options.executing.setFlag switch = (options.setFlag switch).map executing := by
  cases switch <;> rfl

theorem setAttached_executing (switch : Switch) (attached : Attached) :
    options.executing.setAttached switch attached =
      (options.setAttached switch attached).map executing := by
  cases attached with
  | afterName value =>
    unfold setAttached
    dsimp only
    split
    · exact options.setValue_executing switch value
    · rfl
  | afterLetter value =>
    unfold setAttached
    dsimp only
    split
    · exact options.setValue_executing switch value
    · split
      · rfl
      · cases checkLetters switch value.toList with
        | error stop => rfl
        | ok => exact options.setFlag_executing switch

/-- The words make the same options beside the one that was set before. -/
theorem apply_executing (taken : Bool) (words : List Word) :
    options.executing.apply taken words =
      (options.apply taken words).map fun (options, left) => (options.executing, left) := by
  fun_induction apply options taken words with
  | case5 options taken text rest h x ih =>
    have same : ({ options with template := some text } : Options).executing =
      { options.executing with template := some text } := rfl
    simp_all [apply]
  | case4 options text rest x ih =>
    cases ended : options.apply true rest <;> simp_all [apply]
  | case9 options taken text rest ih =>
    cases ended : options.apply taken rest <;> simp_all [apply]
  | case15 options taken switch rest h stop failed =>
    rw [apply.eq_def]
    simp_all [setFlag_executing]
  | case16 options taken switch rest h set found ih =>
    rw [apply.eq_def]
    simp_all [setFlag_executing]
  | case3 | case8 =>
    simp_all only [apply]
    rfl
  | _ => simp_all [apply, setValue_executing, setAttached_executing]

/-- A word in front that asks for execution changes nothing else. -/
theorem parse_execute {words : List String} {options : Options}
    (parsed : parse words = .ok options) :
    parse ("--execute" :: words) = .ok options.executing := by
  obtain ⟨classified, read, parsed⟩ := Except.bind_eq_ok.mp parsed
  obtain ⟨⟨found, left⟩, applied, parsed⟩ := Except.bind_eq_ok.mp parsed
  have word : Word.classify "--execute" = .ok (.option .execute Option.none) := by decide
  have read' : Word.classifyAll ("--execute" :: words) =
      .ok (.option .execute Option.none :: classified) := by
    rw [Word.classifyAll, if_neg (by decide), word, read]
    rfl
  have applied' : none.apply false (.option .execute Option.none :: classified) =
      .ok (found.executing, left) := by
    have first : none.apply false (.option .execute Option.none :: classified) =
        none.executing.apply false classified := by
      rw [apply.eq_def]
      rfl
    rw [first, apply_executing, applied]
    rfl
  dsimp only at parsed
  cases none_left : left.isEmpty with
  | false => simp [none_left] at parsed
  | true =>
    obtain rfl : found = options := by simpa [none_left] using parsed
    rw [parse, read', Except.ok_bind, applied', Except.ok_bind]
    simp [none_left]

end Options

/-! ## The end -/

/-- What the end of what the options ask for comes to: an exit code, if it was to be expected. -/
def verdict : Except Failure Nat → Except Failure Nat
  | .ok code => .ok code
  | .error (.interrupt _) => .ok interruptCode
  | .error failure => if isExpected failure then .ok 1 else .error failure

theorem eq_of_verdict {result : Except Failure Nat} (ended : verdict result = .ok 0) :
    result = .ok 0 := by
  cases result with
  | ok code => exact ended
  | error failure =>
    unfold verdict at ended
    split at ended
    · contradiction
    · cases ended
    · split at ended <;> cases ended

/-- What is said about that end. -/
def farewell (time : Binary64) : Except Failure Nat → List Log.Record
  | .ok _ => []
  | .error (.interrupt _) => [⟨logger, Log.warning, "Operation interrupted by user", time⟩]
  | .error failure =>
    if isExpected failure then [⟨logger, Log.error, failure.message, time⟩] else []

theorem logger_of_mem_farewell {time : Binary64} {result : Except Failure Nat}
    {record : Log.Record} (mem : record ∈ farewell time result) : record.logger = logger := by
  unfold farewell at mem
  split at mem
  · cases mem
  · cases List.mem_singleton.mp mem
    rfl
  · split at mem
    · cases List.mem_singleton.mp mem
      rfl
    · cases mem

section Guarded

variable (settings : Settings) (options : Options) (state : Console × World)

/-- The end is that of what the options ask for, if it was not to be expected. -/
theorem reply_guarded : reply (guarded settings options) state =
    verdict (reply (perform settings options) state) := by
  rw [guarded, Action.reply_bind, Action.reply_outcome, Action.after_outcome]
  cases reply (perform settings options) state with
  | ok code => rfl
  | error failure =>
    cases expected : isExpected failure <;> cases failure <;> simp_all [verdict, isExpected]

theorem after_guarded : after (guarded settings options) state =
    ((after (perform settings options) state).1,
      { (after (perform settings options) state).2 with
        log := (after (perform settings options) state).2.log ++
          farewell (after (perform settings options) state).2.clock.time
            (reply (perform settings options) state) }) := by
  rw [guarded, Action.after_bind, Action.reply_outcome, Action.after_outcome]
  cases reply (perform settings options) state with
  | ok code => simp [farewell]
  | error failure =>
    cases expected : isExpected failure <;> cases failure <;>
      simp_all [farewell, isExpected]

end Guarded

/-! ## A whole command line -/

section Run

variable {words : List String} {settings : Settings} {options : Options}
  {registry : Log.Registry}

/-- The console before anything is written. -/
def blank : Console :=
  ⟨"", ""⟩

/-- Nothing is done when the log cannot be set up. -/
theorem run_of_unready {failure : Failure} (parsed : Options.parse words = .ok options)
    (unready : Log.Registry.setup (logSetup settings options) Log.Registry.start =
      EStateM.Result.error failure registry) (world : World) :
    run words settings world = ⟨.error failure, "", "", registry.files, world⟩ := by
  simp only [run, parsed, unready]

/-- A command line comes to what its options ask for. -/
theorem run_of_ready (parsed : Options.parse words = .ok options)
    (ready : Log.Registry.setup (logSetup settings options) Log.Registry.start =
      EStateM.Result.ok () registry) (world : World) :
    (run words settings world).result = reply (guarded settings options) (blank, world) ∧
      (run words settings world).printed =
        (after (guarded settings options) (blank, world)).1.printed ∧
      (run words settings world).world =
        (after (guarded settings options) (blank, world)).2 := by
  simp only [run, parsed, ready, reply, after, blank]
  cases guarded settings options (⟨"", ""⟩, world) <;> exact ⟨rfl, rfl, rfl⟩

end Run

end SafeSql.CommandLine
