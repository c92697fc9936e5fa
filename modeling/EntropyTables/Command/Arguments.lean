import EntropyTables.Log.Format
import EntropyTables.Path
import EntropyTables.Table
/-!
# Command-line arguments

The arguments name a command, `generate` or `tables`. Options of the whole program may stand before
or after the command; those after it hold where both are given. Every option may be given once on
its side, except that `-v` and `-q` are counted; on one side they exclude each other.

What is not understood is refused without saying why. `--help`, `-h` and the command `help` are
among it: no help is shown, and asking for it ends like any other usage error.
-/
namespace EntropyTables.Command

inductive ColorChoice where
  | auto
  | always
  | never
  deriving DecidableEq, Repr, Inhabited

def ColorChoice.name : ColorChoice → String
  | .auto => "auto"
  | .always => "always"
  | .never => "never"

/-- Options of the whole program (`Cli`), as given on one side of the command. -/
structure Options where
  verbose : Nat
  quiet : Nat
  color : Option ColorChoice
  level : Option Log.Level
  format : Option Log.Format
  logFile : Option Path
  config : Option Path
  deriving DecidableEq, Repr, Inhabited

namespace Options

def none : Options := ⟨0, 0, .none, .none, .none, .none, .none⟩

/-- The options of both sides; those after the command hold where both are given. -/
def under (before after : Options) : Options where
  verbose := if after.verbose = 0 then before.verbose else after.verbose
  quiet := if after.quiet = 0 then before.quiet else after.quiet
  color := after.color.or before.color
  level := after.level.or before.level
  format := after.format.or before.format
  logFile := after.logFile.or before.logFile
  config := after.config.or before.config

end Options

/-- What the command `generate` is asked for (`GenerateArgs`). -/
structure GenerateOptions where
  table : Option Table
  input : Option Path
  output : Option Path
  mode : Option CavlcMode
  dryRun : Bool
  deriving DecidableEq, Repr, Inhabited

/-- What is given on one side of the command. -/
structure Given where
  options : Options
  generate : GenerateOptions
  deriving DecidableEq, Repr, Inhabited

def Given.nothing : Given := ⟨.none, ⟨none, none, none, none, false⟩⟩

/-- The side of the command that arguments stand on. -/
inductive Scope where
  | program
  | generate
  | tables
  deriving DecidableEq, Repr, Inhabited

/-- Why no command is run. -/
inductive Refusal where
  /-- The arguments are not understood. -/
  | usage
  /-- The version is asked for. -/
  | version
  deriving DecidableEq, Repr, Inhabited

/-! ## Options -/

/-- An option without a value. -/
inductive Switch where
  | verbose
  | quiet
  | version
  | dryRun
  deriving DecidableEq, Repr, Inhabited

/-- An option with a value. -/
inductive Setting where
  | color
  | level
  | format
  | logFile
  | config
  | input
  | output
  | mode
  deriving DecidableEq, Repr, Inhabited

def Switch.ofLetter? (scope : Scope) : Char → Option Switch
  | 'v' => some .verbose
  | 'q' => some .quiet
  | 'V' => if scope = .program then some .version else none
  | _ => none

def Switch.ofName? (scope : Scope) (name : String) : Option Switch :=
  if name = "verbose" then some .verbose
  else if name = "quiet" then some .quiet
  else if name = "version" ∧ scope = .program then some .version
  else if name = "dry-run" ∧ scope = .generate then some .dryRun
  else none

def Setting.ofName? (scope : Scope) (name : String) : Option Setting :=
  if name = "color" then some .color
  else if name = "log-level" then some .level
  else if name = "log-format" then some .format
  else if name = "log-file" then some .logFile
  else if name = "config" then some .config
  else if name = "input" ∧ scope = .generate then some .input
  else if name = "output" ∧ scope = .generate then some .output
  else if name = "mode" ∧ scope = .generate then some .mode
  else none

def Switch.apply (given : Given) : Switch → Except Refusal Given
  | .verbose =>
    .ok { given with options := { given.options with verbose := given.options.verbose + 1 } }
  | .quiet =>
    .ok { given with options := { given.options with quiet := given.options.quiet + 1 } }
  | .version => .error .version
  | .dryRun =>
    if given.generate.dryRun then .error .usage
    else .ok { given with generate := { given.generate with dryRun := true } }

/-- The value of an option that is given for the first time. -/
def once (before : Option α) (value : Option α) : Except Refusal (Option α) :=
  match before, value with
  | none, some value => .ok (some value)
  | _, _ => .error .usage

/-- The path that a value says; there is no empty path. -/
def pathOf? (value : String) : Option Path := if value.isEmpty then none else some ⟨value⟩

def Setting.apply (given : Given) (value : String) : Setting → Except Refusal Given
  | .color => do
    let all := [ColorChoice.auto, .always, .never]
    let color ← once given.options.color (all.find? (·.name == value))
    return { given with options := { given.options with color } }
  | .level => do
    let level ← once given.options.level (Log.Level.all.find? (·.name == value))
    return { given with options := { given.options with level } }
  | .format => do
    let format ← once given.options.format (Log.Format.all.find? (·.name == value))
    return { given with options := { given.options with format } }
  | .logFile => do
    let logFile ← once given.options.logFile (pathOf? value)
    return { given with options := { given.options with logFile } }
  | .config => do
    let config ← once given.options.config (pathOf? value)
    return { given with options := { given.options with config } }
  | .input => do
    let input ← once given.generate.input (pathOf? value)
    return { given with generate := { given.generate with input } }
  | .output => do
    let output ← once given.generate.output (pathOf? value)
    return { given with generate := { given.generate with output } }
  | .mode => do
    let mode ← once given.generate.mode (CavlcMode.ofName? value)
    return { given with generate := { given.generate with mode } }

/-! ## One side of the command -/

/-- The argument is an option or the mark after which there are none. -/
def looksLikeOption (arg : String) : Bool :=
  match arg.toList with
  | '-' :: _ :: _ => true
  | _ => false

/-- What is given with one more argument that is no option: the table to generate. -/
def applyPlain (scope : Scope) (given : Given) (arg : String) : Except Refusal Given :=
  if scope = .generate then do
    let table ← once given.generate.table (Table.all.find? (·.name == arg))
    return { given with generate := { given.generate with table } }
  else .error .usage

/-- What is given on one side of the command. Before the command this ends with its name, and the
name and the arguments after it are left. -/
def readSide (scope : Scope) (given : Given) :
    List String → Except Refusal (Given × Option (Scope × List String))
  | [] => .ok (given, none)
  | arg :: rest =>
    match arg.toList with
    | ['-', '-'] => do
      let given ← rest.foldlM (applyPlain scope) given
      return (given, none)
    | '-' :: '-' :: text =>
      let (name, attached) := text.span (· != '=')
      let name := String.ofList name
      match Setting.ofName? scope name, Switch.ofName? scope name, attached with
      | some setting, _, _ :: value => do
        readSide scope (← setting.apply given (String.ofList value)) rest
      | some setting, _, [] =>
        match rest with
        | [] => .error .usage
        | value :: rest =>
          if looksLikeOption value then .error .usage
          else do readSide scope (← setting.apply given value) rest
      | none, some switch, [] => do readSide scope (← switch.apply given) rest
      | _, _, _ => .error .usage
    | '-' :: letter :: letters => do
      let given ← (letter :: letters).foldlM
        (fun given c =>
          match Switch.ofLetter? scope c with
          | some switch => switch.apply given
          | none => .error .usage)
        given
      readSide scope given rest
    | _ =>
      if scope = .program then
        if arg = "generate" then .ok (given, some (.generate, rest))
        else if arg = "tables" then .ok (given, some (.tables, rest))
        else .error .usage
      else do readSide scope (← applyPlain scope given arg) rest

/-- The two counted options do not stand on one side. -/
def consistent (options : Options) : Bool := options.verbose = 0 || options.quiet = 0

/-! ## All arguments -/

inductive Job where
  | generate (table : Table) (input output : Option Path) (mode : Option CavlcMode) (dryRun : Bool)
  | tables
  deriving DecidableEq, Repr, Inhabited

/-- A command under options of the whole program. -/
structure Invocation where
  options : Options
  job : Job
  deriving DecidableEq, Repr, Inhabited

/-- `Cli::parse`: what the arguments ask for. -/
def Invocation.ofArguments (args : List String) : Except Refusal Invocation := do
  let (before, command) ← readSide .program .nothing args
  match command with
  | none => throw .usage
  | some (scope, rest) =>
    let (after, _) ← readSide scope .nothing rest
    if !consistent after.options || !consistent before.options then throw .usage
    let options := before.options.under after.options
    if scope = .tables then return ⟨options, .tables⟩
    match after.generate.table with
    | none => throw .usage
    | some table =>
      let g := after.generate
      return ⟨options, .generate table g.input g.output g.mode g.dryRun⟩

end EntropyTables.Command
