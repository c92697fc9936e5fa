import EntropyTables.Command.Arguments
import EntropyTables.Prompt
import EntropyTables.Summary
/-!
# Running a command

A run starts the log, finds the settings and then generates a table or lists all of them. Progress
goes to standard output, errors and the log to standard error; the exit code is zero on success, one
when the run fails and two when the arguments are not understood.
-/
namespace EntropyTables.Command

open Log (Logger)

variable {m : Type → Type} [Monad m] [System m]

/-! ## The log of a run -/

/-- The least serious level that the options let through. Warnings are the default; each `-v` lets
one more level through and each `-q` one less. -/
def Options.threshold (options : Options) : Log.Threshold :=
  match options.level with
  | some level => some level
  | .none => .ofRank (Log.Level.warn.rank + options.verbose - options.quiet)

def Options.choosesLevel (options : Options) : Bool :=
  options.verbose != 0 || options.quiet != 0 || options.level.isSome

/-- The logger of a run (`log_config_from_cli`, `build_env_filter`). The filter of the environment
holds if the options choose no level and its text says a filter. -/
def Options.logger (options : Options) (environment : Option String) : Logger where
  filter :=
    let configured := Log.Filter.configured options.threshold
    if options.choosesLevel then configured
    else (environment.bind Log.Filter.parse?).getD configured
  format := options.format.getD .pretty
  colored := options.color == some .always

/-! ## Generating -/

def say (text : String) : m Unit := do
  let _ ← Console.write text

def startBanner : String := "Working...\n"

def successBanner : String := "SUCCESS!\n"

/-- `resolve_mode`: the form of the CAVLC table is the option, else the setting, else the answer to
a question. Other tables have one form. -/
def resolveMode (settings : Settings) (table : Table) (mode : Option CavlcMode) :
    m (Except TableError CavlcMode) := do
  if table ≠ .cavlc then return .ok .lut
  match mode, settings.cavlc.mode with
  | some mode, _ => return .ok mode
  | none, some mode => return .ok mode
  | none, none => Prompt.ask

def errorLine (messages : List String) : String := "error: " ++ ": ".intercalate messages ++ "\n"

/-- `run_generate`: generates a table and answers with the exit code. -/
def generate (logger : Logger) (settings : Settings) (table : Table) (input output : Option Path)
    (mode : Option CavlcMode) (dryRun : Bool) : m UInt32 := do
  match ← resolveMode settings table mode with
  | .error e =>
    System.complain (errorLine e.messages)
    return 1
  | .ok mode =>
    let request : Request :=
      { selection := .of table mode
        input := input.getD (settings.inputFor table)
        output := output.getD (settings.outputFor table)
        dryRun }
    record logger
      { level := .debug, origin := .commands, message := "resolved generator request"
        fields := [("request", .text request.label)], span := none }
    say startBanner
    match ← request.run logger with
    | .error e =>
      let context := "generate " ++ table.name ++ " from " ++ request.input.text
      System.complain (errorLine (context :: e.messages))
      return 1
    | .ok report =>
      if report.output.isNone then say report.rendered
      say successBanner
      record logger
        { level := .info, origin := .commands, message := "done"
          fields := [("entries", .number report.entries), ("lines", .number report.sourceLines)]
          span := none }
      return 0

/-! ## The program -/

def usage : String := "usage: lutgen [options] generate TABLE [options] | tables [options]\n"

def version : String := "lutgen 0.1.0\n"

/-- The part of `main` after the arguments: runs a command and answers with the exit code. -/
def Invocation.run (invocation : Invocation) (environment : Option String) : m UInt32 := do
  let logger := invocation.options.logger environment
  if let some p := invocation.options.logFile then
    if let .error fault ← System.openLog p then
      System.complain (errorLine ["failed to initialize logging", fault.message])
      return 1
  match ← Settings.discover logger invocation.options.config with
  | .error e =>
    System.complain (errorLine [e.message])
    return 1
  | .ok settings =>
    match invocation.job with
    | .generate table input output mode dryRun =>
      generate logger settings table input output mode dryRun
    | .tables =>
      say (Summary.text settings ++ "\n")
      return 0

/-- `main`: runs the program with its arguments and the filter text of the environment. -/
def run (args : List String) (environment : Option String) : m UInt32 := do
  match Invocation.ofArguments args with
  | .error .usage =>
    System.complain usage
    return 2
  | .error .version =>
    say version
    return 0
  | .ok invocation => invocation.run environment

end EntropyTables.Command
