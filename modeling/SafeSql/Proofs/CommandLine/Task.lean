import SafeSql.Proofs.CommandLine.Outcome

/-!
# Templates that are shown

A template on a command line is shown as it is rendered, or the error in it is reported, once its
arguments are read and its dialect is found. In any other case nothing is shown.

## Main definitions

* `CommandLine.Task` — a template with its arguments, and what it is rendered with.
* `CommandLine.Unfit` — nothing is done but to fail.
* `CommandLine.Silent` — nothing is shown, and no error is reported.

## Main statements

* `CommandLine.Task.shown_of_rendered`, `CommandLine.Task.shown_of_refused` — what is shown.
* `CommandLine.task_or_unfit`, `CommandLine.task_or_silent` — without a task nothing is shown.
-/

namespace SafeSql

open SafeSql.Action (reply after Keeps)

/-! ## Messages of one logger -/

namespace World

/-- The log grows by messages of one logger. -/
def Says (logger : String) (before now : World) : Prop :=
  ∃ records, now.log = before.log ++ records ∧ ∀ record ∈ records, record.logger = logger

instance (logger : String) : IsPreorder World (Says logger) where
  refl world := ⟨[], by simp⟩
  trans before now later := by
    rintro ⟨records, log, said⟩ ⟨records', log', said'⟩
    refine ⟨records ++ records', ?_, ?_⟩
    · rw [log', log, List.append_assoc]
    · intro record mem
      rcases List.mem_append.mp mem with mem | mem
      · exact said record mem
      · exact said' record mem

theorem says_say (logger : String) (level : Log.Level) (message : String) :
    Keeps (Says logger) (say logger level message) :=
  fun _ => ⟨_, rfl, by simp⟩

theorem says_of_log {logger : String} {α : Type} {action : Action World α}
    (same : ∀ world, (after action world).log = world.log) : Keeps (Says logger) action :=
  fun world => ⟨[], by simp [same]⟩

end World

/-- The world once an error is reported. -/
def Report.reported (report : Report) (error : SqlError) (world : World) : World :=
  { world with
    log := world.log ++ [⟨logger, report.level, report.message error, world.clock.time⟩] }

namespace Availability

theorem says_check (url : Url) : Keeps (World.Says logger) (check url) := by
  have quiet (event : Server.Event) : Keeps (World.Says logger) (World.request event) :=
    World.says_of_log fun _ => rfl
  have made : Keeps (World.Says logger) (World.createEngine url false) :=
    World.says_of_log fun world => by simp
  refine made.bind fun made => ?_
  cases made with
  | error text => exact Keeps.throw _
  | ok =>
  refine Keeps.ensuring ?_ (quiet .dispose)
  refine (World.says_of_log fun world => by simp).bind fun connected => ?_
  cases connected with
  | ok => exact (quiet .close).bind fun _ => Keeps.pure true
  | error text => exact (World.says_say _ _ _).bind fun _ => Keeps.pure false

theorem says_pause (length : Pause) : Keeps (World.Says logger) (World.pause length) := by
  refine World.says_of_log fun world => ?_
  rw [World.after_pause]
  split <;> rfl

theorem says_attempts (url : Url) (retries : Int) (delay : Pause) (left : Nat) :
    Keeps (World.Says logger) (attempts url retries delay left) := by
  induction left with
  | zero => exact Keeps.pure false
  | succ left ih =>
    refine (says_check url).bind fun available => ?_
    split
    · exact (Keeps.lift _).bind fun _ => (World.says_say _ _ _).bind fun _ => Keeps.pure true
    · split
      · exact (Keeps.lift _).bind fun _ => (Keeps.lift _).bind fun _ =>
          (World.says_say _ _ _).bind fun _ => (says_pause delay).bind fun _ => ih
      · exact ih

theorem says_wait (url : Url) (retries : Int) (delay : Pause) :
    Keeps (World.Says logger) (wait url retries delay) := by
  refine (Keeps.lift _).bind fun _ => (World.says_say _ _ _).bind fun _ =>
    (says_attempts url retries delay retries.toNat).bind fun available => ?_
  split
  · exact Keeps.pure ()
  · exact (Keeps.lift _).bind fun _ => (World.says_say _ _ _).bind fun _ => Keeps.throw _

end Availability

namespace CommandLine

/-! ## Tasks -/

/-- The name of the dialect for a template that is only shown. -/
def dialectName (settings : Settings) (options : Options) : String :=
  (options.dialect.or settings.templating.dialect).getD Settings.defaultDialect

/-- What a template is rendered to. -/
def Arguments.rendering (d : Dialect) (template : String) : Arguments → Except Failure Rendering
  | .positional values => Rendering.positional d (.text template) values none
  | .named values => Rendering.named d (.text template) values none

/-- A template with arguments that can be read is executed or shown. -/
theorem perform_of_read {settings : Settings} {options : Options} {template : String}
    {arguments : Arguments} (unchecked : options.checkConnection = false)
    (stated : options.template = some template)
    (apart : (options.named.isSome && options.arguments.isSome) = false)
    (read : readArguments options = .ok arguments) :
    perform settings options = (do
      if options.execute then execute settings options.dialect template arguments
      else preview settings options.dialect template arguments
      return 0) := by
  simp only [perform, unchecked, stated, apart, read, Action.lift]
  cases options.execute <;> rfl

/-- A template with its arguments, the dialect for which it is rendered, and how its errors are
reported: all that has to be there before a template can be shown. -/
structure Task (settings : Settings) (options : Options) where
  template : String
  arguments : Arguments
  dialect : Dialect
  report : Report
  unchecked : options.checkConnection = false
  stated : options.template = some template
  apart : (options.named.isSome && options.arguments.isSome) = false
  read : readArguments options = .ok arguments
  found : Dialect.find (dialectName settings options) = .ok dialect
  made : Report.create settings.templating.errorMode .itself = .ok report

namespace Task

variable {settings : Settings} {options : Options} (task : Task settings options)

def rendering : Except Failure Rendering :=
  task.arguments.rendering task.dialect task.template

theorem perform_shown (shown : options.execute = false) : perform settings options =
    (do preview settings options.dialect task.template task.arguments; return 0) := by
  rw [perform_of_read task.unchecked task.stated task.apart task.read, shown]
  rfl

theorem perform_executing : perform settings options.executing =
    (do execute settings options.dialect task.template task.arguments; return 0) :=
  @perform_of_read settings options.executing _ _ task.unchecked task.stated task.apart task.read

theorem preview_eq : preview settings options.dialect task.template task.arguments =
    (do print (← Action.onWorld (Database.settle task.report none task.rendering))) := by
  have found : Dialect.find ((options.dialect.or settings.templating.dialect).getD
      Settings.defaultDialect) = .ok task.dialect := task.found
  simp only [preview, found, task.made, Action.lift, pure_bind, rendering]
  cases task.arguments <;> rfl

/-- Rendered SQL is shown. -/
theorem shown_of_rendered (shown : options.execute = false) {sql : String}
    (rendered : task.rendering = .ok (.ok sql)) (world : World) :
    perform settings options (blank, world) =
      EStateM.Result.ok 0 (⟨"" ++ sql ++ "\n", ""⟩,
        after (World.say Database.renderingLogger Log.debug ("Rendered query: " ++ sql))
          world) := by
  rw [task.perform_shown shown, task.preview_eq, rendered]
  rfl

/-- An error is reported. -/
theorem shown_of_refused (shown : options.execute = false) {error : SqlError}
    (refused : task.rendering = .ok (.error error)) (world : World) :
    perform settings options (blank, world) =
      EStateM.Result.error (task.report.failure (error.withCaller none))
        (blank, task.report.reported (error.withCaller none) world) := by
  rw [task.perform_shown shown, task.preview_eq, refused]
  rfl

end Task

/-- What the options ask for fails before anything is shown or the world is asked for anything. -/
def Unfit (settings : Settings) (options : Options) : Prop :=
  ∃ failure console, console.printed = "" ∧ ∀ world,
    perform settings options (blank, world) = EStateM.Result.error failure (console, world)

/-- Nothing is shown, and no error is reported. -/
def Silent (settings : Settings) (options : Options) : Prop :=
  ∀ world,
    (reply (perform settings options) (blank, world) = .ok 0 →
      (after (perform settings options) (blank, world)).1.printed = "") ∧
    ∀ record ∈ (after (perform settings options) (blank, world)).2.log,
      record ∈ world.log ∨ record.logger ≠ Report.logger

section Silence

variable {settings : Settings} {options : Options}

theorem silent_of_unfit (unfit : Unfit settings options) : Silent settings options := by
  obtain ⟨failure, console, -, failed⟩ := unfit
  intro world
  obtain ⟨ended, left⟩ := Action.of_eq_error (failed world)
  rw [ended, left]
  exact ⟨nofun, fun record mem => .inl mem⟩

theorem silent_of_checked (checked : options.checkConnection = true) :
    Silent settings options := by
  intro world
  have left : after (perform settings options) (blank, world) = (blank,
      after (Availability.wait (settings.url Target.unstated) retries delay) world) := by
    simp only [perform, checked, if_true, Action.after_bind, Action.after_onWorld]
    split <;> rfl
  rw [left]
  refine ⟨fun _ => rfl, fun record mem => ?_⟩
  obtain ⟨records, log, said⟩ :=
    Availability.says_wait (settings.url Target.unstated) retries delay world
  rw [log] at mem
  rcases List.mem_append.mp mem with mem | mem
  · exact .inl mem
  · right
    rw [said record mem]
    exact (by decide : Availability.logger ≠ Report.logger)

theorem silent_of_unstated (unchecked : options.checkConnection = false)
    (unstated : options.template = none) : Silent settings options := by
  cases help : helpText settings with
  | error failure =>
    refine silent_of_unfit ⟨failure, blank, rfl, fun world => ?_⟩
    simp only [perform, unchecked, unstated, help]
    rfl
  | ok text =>
    intro world
    have ran : perform settings options (blank, world) =
        EStateM.Result.ok 1 (⟨"" ++ text, ""⟩,
          after (World.say logger Log.warning "No template given") world) := by
      simp only [perform, unchecked, unstated, help]
      rfl
    obtain ⟨ended, left⟩ := Action.of_eq_ok ran
    rw [ended, left]
    refine ⟨nofun, fun record mem => ?_⟩
    rcases List.mem_append.mp mem with mem | mem
    · exact .inl mem
    · cases List.mem_singleton.mp mem
      exact .inr (by decide : logger ≠ Report.logger)

variable (settings) in
/-- The arguments of a template are read, or nothing is done. -/
theorem read_or_unfit (unchecked : options.checkConnection = false) {template : String}
    (stated : options.template = some template) :
    ((options.named.isSome && options.arguments.isSome) = false ∧
      ∃ arguments, readArguments options = .ok arguments) ∨ Unfit settings options := by
  cases apart : options.named.isSome && options.arguments.isSome with
  | true =>
    refine .inr ⟨.exit usageCode, ⟨"", Usage.complaint .bothValues⟩, rfl, fun world => ?_⟩
    simp only [perform, unchecked, stated, apart]
    rfl
  | false =>
    cases read : readArguments options with
    | ok arguments => exact .inl ⟨rfl, arguments, rfl⟩
    | error failure =>
      refine .inr ⟨failure, blank, rfl, fun world => ?_⟩
      simp only [perform, unchecked, stated, apart, read]
      rfl

variable (settings) in
/-- A template that is to be shown is rendered, or nothing is done. -/
theorem task_or_unfit (shown : options.execute = false)
    (unchecked : options.checkConnection = false) {template : String}
    (stated : options.template = some template) :
    (∃ (task : Task settings options) (rendering : Rendering), task.rendering = .ok rendering) ∨
      Unfit settings options := by
  rcases read_or_unfit settings unchecked stated with ⟨apart, arguments, read⟩ | unfit
  · have stopped {failure : Failure} (unshown : ∀ world, preview settings options.dialect template
        arguments (blank, world) = EStateM.Result.error failure (blank, world)) :
        Unfit settings options := by
      refine ⟨failure, blank, rfl, fun world => ?_⟩
      rw [perform_of_read unchecked stated apart read, shown]
      simp only [bind, EStateM.bind, Bool.false_eq_true, if_false, unshown]
    cases found : Dialect.find (dialectName settings options) with
    | error failure =>
      refine .inr (@stopped failure fun world => ?_)
      rw [dialectName] at found
      simp only [preview, found]
      rfl
    | ok d =>
    cases made : Report.create settings.templating.errorMode .itself with
    | error failure =>
      refine .inr (@stopped failure fun world => ?_)
      rw [dialectName] at found
      simp only [preview, found, made]
      rfl
    | ok report =>
    let task : Task settings options :=
      ⟨template, arguments, d, report, unchecked, stated, apart, read, found, made⟩
    cases rendered : task.rendering with
    | ok rendering => exact .inl ⟨task, rendering, rendered⟩
    | error failure =>
      refine .inr (@stopped failure fun world => ?_)
      rw [show preview settings options.dialect template arguments = _ from task.preview_eq,
        rendered]
      rfl
  · exact .inr unfit

/-- Without a task, or when its rendering fails, nothing is shown and no error is reported. -/
theorem task_or_silent (shown : options.execute = false) :
    (∃ (task : Task settings options) (rendering : Rendering), task.rendering = .ok rendering) ∨
      Silent settings options := by
  cases unchecked : options.checkConnection with
  | true => exact .inr (silent_of_checked unchecked)
  | false =>
  cases stated : options.template with
  | none => exact .inr (silent_of_unstated unchecked stated)
  | some template => exact (task_or_unfit settings shown unchecked stated).imp_right silent_of_unfit

variable {world : World}

/-- What is shown is the rendered SQL of a task. -/
theorem task_of_printed (shown : options.execute = false) {sql : String}
    (ended : reply (guarded settings options) (blank, world) = .ok 0)
    (printed : (after (guarded settings options) (blank, world)).1.printed = sql ++ "\n") :
    ∃ task : Task settings options, task.rendering = .ok (.ok sql) := by
  rw [reply_guarded] at ended
  rw [after_guarded] at printed
  have performed := eq_of_verdict ended
  rcases task_or_silent shown with ⟨task, rendering, rendered⟩ | silent
  · cases rendering with
    | ok sql' =>
      rw [(Action.of_eq_ok (task.shown_of_rendered shown rendered world)).2] at printed
      obtain rfl : sql' = sql := by simpa using printed
      exact ⟨task, rendered⟩
    | error error =>
      rw [(Action.of_eq_error (task.shown_of_refused shown rendered world)).1] at performed
      cases performed
  · have empty := (silent world).1 performed
    have size := congrArg String.length (empty.symm.trans printed)
    rw [String.length_append, show "".length = 0 from rfl, show "\n".length = 1 from rfl] at size
    omega

/-- What is reported is the error of a task. -/
theorem task_of_reported (shown : options.execute = false) {record : Log.Record}
    (mem : record ∈ (after (guarded settings options) (blank, world)).2.log)
    (new : record ∉ world.log) (reported : record.logger = Report.logger) :
    ∃ (task : Task settings options) (error : SqlError), task.rendering = .ok (.error error) := by
  rw [after_guarded] at mem
  rcases List.mem_append.mp mem with mem | mem
  · rcases task_or_silent shown with ⟨task, rendering, rendered⟩ | silent
    · cases rendering with
      | ok sql =>
        rw [(Action.of_eq_ok (task.shown_of_rendered shown rendered world)).2] at mem
        rcases List.mem_append.mp mem with mem | mem
        · exact absurd mem new
        · cases List.mem_singleton.mp mem
          exact absurd reported (by decide : Database.renderingLogger ≠ Report.logger)
      | error error => exact ⟨task, error, rendered⟩
    · rcases (silent world).2 record mem with mem | other
      · exact absurd mem new
      · exact absurd reported other
  · rw [logger_of_mem_farewell mem] at reported
    exact absurd reported (by decide)

end Silence

end CommandLine

end SafeSql
