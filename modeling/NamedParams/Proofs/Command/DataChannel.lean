import NamedParams.Proofs.Command.DataRuns
import NamedParams.Proofs.Json.RoundTrip

namespace NamedParams

open NamedParams.CommandLine

/-- The entries of a log on the channel for output. -/
def printed (log : List Entry) : List Entry :=
  log.filter (·.channel = .out)

theorem printed_append (log rest : List Entry) :
    printed (log ++ rest) = printed log ++ printed rest :=
  List.filter_append _ _

theorem printed_of_out {log : List Entry} (hlog : ∀ entry ∈ log, entry.channel = .out) :
    printed log = log :=
  List.filter_eq_self.mpr fun entry hentry => decide_eq_true (hlog entry hentry)

theorem printed_of_err {log : List Entry} (hlog : ∀ entry ∈ log, entry.channel = .err) :
    printed log = [] :=
  List.filter_eq_nil_iff.mpr fun entry hentry => by simp [hlog entry hentry]

theorem Logger.channel_of_mem_message {logger : Logger} {level : Level} {text : String}
    {detail : Option Detail} {entry : Entry} (hentry : entry ∈ logger.message level text detail) :
    entry.channel = level.channel := by
  rw [Logger.message] at hentry
  split at hentry
  · cases hentry
  · grind

namespace Failure

/-- The messages for debugging on what caused a failure. -/
def origin (failure : Failure) (logger : Logger) : List Entry :=
  failure.cause.toList.flatMap fun cause =>
    if cause.detail.isShown then logger.message .debug "Original error:" (some cause.detail) else []

variable (failure : Failure) (logger : Logger)

/-- Of the report on a failure, only the messages for debugging are output. -/
theorem printed_report : printed (failure.report logger) = failure.origin logger := by
  have horigin : ∀ entry ∈ failure.origin logger, entry.channel = .out := by
    intro entry hentry
    obtain ⟨cause, -, hentry⟩ := List.mem_flatMap.mp hentry
    split at hentry
    · exact Logger.channel_of_mem_message hentry
    · cases hentry
  have hdetails : ∀ entry ∈ failure.details.toList.flatMap fun details =>
      logger.message .error "Details:" (some (.data details)), entry.channel = .err := by
    intro entry hentry
    obtain ⟨details, -, hentry⟩ := List.mem_flatMap.mp hentry
    exact Logger.channel_of_mem_message hentry
  have hmessage : ∀ entry ∈ logger.message .error ("[" ++ failure.code.name ++ "] " ++
      failure.message) none, entry.channel = .err :=
    fun entry hentry => Logger.channel_of_mem_message hentry
  have hreport : failure.report logger =
      logger.message .error ("[" ++ failure.code.name ++ "] " ++ failure.message) none ++
        (failure.details.toList.flatMap fun details =>
          logger.message .error "Details:" (some (.data details))) ++ failure.origin logger := rfl
  rw [hreport, printed_append, printed_append, printed_of_err hmessage, printed_of_err hdetails,
    printed_of_out horigin]
  rfl

theorem channel_of_mem_suggest {code : FailureCode} {entry : Entry}
    (hentry : entry ∈ suggest code logger) : entry.channel = .out := by
  rw [suggest] at hentry
  split at hentry
  · cases hentry
  · obtain hfirst | hentry := List.mem_append.mp hentry
    · exact Logger.channel_of_mem_message hfirst
    · obtain ⟨⟨action, index⟩, -, haction⟩ := List.mem_flatMap.mp hentry
      exact Logger.channel_of_mem_message haction

/-- All advice is output, however little of it is data. -/
theorem printed_handle : printed (failure.handle logger true) =
    failure.origin logger ++ suggest failure.code logger := by
  rw [handle, if_pos rfl, printed_append, printed_report,
    printed_of_out fun entry hentry => channel_of_mem_suggest logger hentry]

theorem length_suggest {code : FailureCode} (hcode : code.isRecoverable = true)
    (hquiet : logger.quiet = false) : (suggest code logger).length = code.advice.length + 1 := by
  have hinfo (text : String) : (logger.info text).length = 1 := by
    simp [Logger.info, Logger.message, hquiet]
  rw [FailureCode.isRecoverable] at hcode
  rw [suggest, if_neg (by simpa using hcode), List.length_append, hinfo, List.length_flatMap]
  simp [hinfo, Nat.add_comm]

end Failure

namespace Program

section Json

variable (tree : FileTree) (root : List String) (color : Bool) (time : String)
  (command : CommandInfo) (global : Arguments) {own : Arguments} (operands : List String)

theorem isRecoverable_thrown (failure : ConfigFailure) :
    (Failure.ofThrown .unknown failure.thrown).code.isRecoverable = true := by
  cases failure <;> rfl

theorem dataRun_cases (ending : CheckEnd) (targets : List String) (logger : Logger) :
    (∃ document status,
      ending.dataRun targets logger = ⟨[⟨.out, Json.pretty document⟩], .completed status⟩) ∨
    ∃ failure, failure.code.isRecoverable = true ∧
      ending.dataRun targets logger = .stop [] failure logger := by
  cases ending with
  | configFailed failure => exact .inr ⟨_, isRecoverable_thrown failure, rfl⟩
  | targetsFailed message => exact .inr ⟨_, rfl, rfl⟩
  | nothingFound => exact .inr ⟨_, rfl, rfl⟩
  | settingsFailed message => exact .inr ⟨_, rfl, rfl⟩
  | analyzed result => exact .inl ⟨_, _, rfl⟩

theorem commandRun_explain_of_json (hjson : own.isSet "--json" = true) :
    commandRun tree root color time explain global own operands =
      ⟨[⟨.out, RuleInfo.requireNamed.toJson.pretty⟩], .completed 0⟩ ∨
    ∃ failure : ConfigFailure, commandRun tree root color time explain global own operands =
      .stop [] (Failure.ofThrown .unknown failure.thrown) (errorLoggerOf color global) := by
  let output : OutputOptions := ⟨none, none, own.isSet "--json"⟩
  let command := runExplain (output.withShared (programOptions global))
  have hrun : commandRun tree root color time explain global own operands =
      runCommand tree root color (programOptions global) output command := rfl
  have hcommand (environment : Environment) : command environment =
      ⟨[⟨.out, RuleInfo.requireNamed.toJson.pretty⟩], .completed 0⟩ := by
    simp only [command, runExplain, output, OutputOptions.withShared, hjson, if_true]
  rw [hrun]
  cases hload : (ConfigLoader.start.load tree root ((programOptions global).request root)).1 with
  | error failure => exact .inr ⟨failure, runCommand_of_failure command hload⟩
  | ok loaded =>
    have hhandled (cause : Thrown) : (command (environmentOf root color (programOptions global)
        output loaded)).ending ≠ .broken cause := by
      rw [hcommand]
      rintro ⟨⟩
    rw [runCommand_of_json command hjson hload hhandled, hcommand]
    exact .inl rfl

/-- A run that is to print data prints one document and nothing else, or it stops at a failure
    against which there is advice. -/
theorem commandRun_cases (hjson : own.isSet "--json" = true) :
    (∃ document status, commandRun tree root color time command global own operands =
      ⟨[⟨.out, Json.pretty document⟩], .completed status⟩) ∨
    ∃ failure, failure.code.isRecoverable = true ∧
      commandRun tree root color time command global own operands =
        .stop [] failure (errorLoggerOf color global) := by
  by_cases hexplain : command = explain
  · subst hexplain
    obtain hrun | ⟨failure, hrun⟩ :=
      commandRun_explain_of_json tree root color time global operands hjson
    · exact .inl ⟨_, _, hrun⟩
    · exact .inr ⟨_, isRecoverable_thrown failure, hrun⟩
  · have hcheck : commandRun tree root color time command global own operands =
        commandRun tree root color time check global own operands := by
      rw [commandRun, commandRun, commandOf, commandOf, if_neg hexplain, if_neg (by decide)]
    obtain ⟨ending, hends⟩ := (taskOf root global own operands).exists_ends tree root time
    rw [hcheck, commandRun_check_of_json hjson hends]
    exact dataRun_cases ending operands _

end Json

/-- What a command line with `--json` leaves on the channel for output, when it is accepted and its
    command is run. A run that comes to its end prints one document there, and nothing anywhere
    else. A run that stops at a failure prints what can be done about it there, behind what is known
    about its cause if the messages for debugging are on: at least two entries. So nothing or a
    single document is printed exactly by the runs that come to their end. What a configuration that
    is a program prints of its own is outside of the model (`ConfigFile.readFormat`). -/
theorem run_json_printed (tree : FileTree) (root : List String) (color : Bool) (time : String)
    {command : CommandInfo} {global own : Arguments} {arguments operands : List String}
    (hparse : info.parse arguments = .run command global own operands)
    (hjson : own.isSet "--json" = true) :
    let shown := commandRun tree root color time command global own operands
    run tree root color time arguments = .ofRun shown ∧
    ((∃ document status, shown = ⟨[⟨.out, Json.pretty document⟩], .completed status⟩ ∧
        Json.parse document.pretty = some document.reread) ∨
      ∃ failure, shown = .stop [] failure (errorLoggerOf color global) ∧
        printed shown.log = failure.origin (errorLoggerOf color global) ++
          Failure.suggest failure.code (errorLoggerOf color global) ∧
        2 ≤ (Failure.suggest failure.code (errorLoggerOf color global)).length) ∧
    ((printed shown.log = [] ∨
        ∃ text document, printed shown.log = [⟨.out, text⟩] ∧ Json.parse text = some document) ↔
      shown.IsCompleted) := by
  intro shown
  refine ⟨run_eq_commandRun hparse, ?_⟩
  obtain ⟨document, status, hshown⟩ | ⟨failure, hcode, hshown⟩ :=
    commandRun_cases tree root color time command global operands hjson
  · have hread := Json.parse_pretty document
    refine ⟨.inl ⟨document, status, hshown, hread⟩, ?_⟩
    rw [show shown = _ from hshown]
    exact iff_of_true (.inr ⟨_, _, rfl, hread⟩) ⟨status, rfl⟩
  · have hprinted := failure.printed_handle (errorLoggerOf color global)
    have hlength := Failure.length_suggest (errorLoggerOf color global) hcode rfl
    have hadvice : failure.code.advice.length ≠ 0 := by
      simpa [FailureCode.isRecoverable] using hcode
    rw [show shown = _ from hshown]
    rw [CommandRun.stop, List.nil_append, hprinted]
    refine ⟨.inr ⟨failure, rfl, rfl, by omega⟩, iff_of_false ?_ nofun⟩
    rintro (hnone | ⟨text, document, hone, -⟩)
    · have hlengths := congrArg List.length hnone
      rw [List.length_append, List.length_nil] at hlengths
      omega
    · have hlengths := congrArg List.length hone
      rw [List.length_append, List.length_singleton] at hlengths
      omega

theorem run_json_printed_of_explain :
    ∃ global own, info.parse ["--no-config", "explain", "-j"] = .run explain global own [] ∧
      own.isSet "--json" = true ∧
      ∃ text document,
        printed (commandRun .empty ["p"] false "" explain global own []).log = [⟨.out, text⟩] ∧
        Json.parse text = some document := by
  let global : Arguments := ⟨[("--no-config", none)], ["explain"], ["-j"]⟩
  let own : Arguments := ⟨[("--json", none)], [], []⟩
  have hparse : info.parse ["--no-config", "explain", "-j"] = .run explain global own [] := by
    decide +kernel
  obtain ⟨-, -, hiff⟩ := run_json_printed .empty ["p"] false "" hparse rfl
  have hsome : (printed (commandRun .empty ["p"] false "" explain global own []).log).length = 1 :=
    rfl
  obtain hnone | hdocument := hiff.mpr ⟨0, rfl⟩
  · rw [hnone] at hsome
    contradiction
  · exact ⟨global, own, hparse, rfl, hdocument⟩

/-- Where there is nothing to check, three lines of advice are printed instead of data. -/
theorem advice_printed_of_noFiles :
    ∃ global own, info.parse ["check", "--json"] = .run check global own [] ∧
      own.isSet "--json" = true ∧
      let log := (commandRun .empty ["p"] false "" check global own []).log
      printed log =
        [⟨.out, "ℹ Info: Suggested recovery actions:"⟩,
          ⟨.out, "ℹ Info:    1. Pass the files or directories to check as arguments"⟩,
          ⟨.out, "ℹ Info:    2. Adjust the include patterns in your config"⟩] ∧
      ¬ (printed log = [] ∨ ∃ text, printed log = [⟨.out, text⟩]) := by
  let global : Arguments := ⟨[], ["check"], ["--json"]⟩
  let own : Arguments := ⟨[("--json", none)], [], []⟩
  have hprinted : printed (commandRun .empty ["p"] false "" check global own []).log =
      [⟨.out, "ℹ Info: Suggested recovery actions:"⟩,
        ⟨.out, "ℹ Info:    1. Pass the files or directories to check as arguments"⟩,
        ⟨.out, "ℹ Info:    2. Adjust the include patterns in your config"⟩] := by
    decide +kernel
  refine ⟨global, own, by decide +kernel, rfl, hprinted, ?_⟩
  rw [hprinted]
  simp

end Program

end NamedParams
