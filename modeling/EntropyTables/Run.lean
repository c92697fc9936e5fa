import EntropyTables.Files.Output
import EntropyTables.Generate
import EntropyTables.Log.Format
import EntropyTables.Text.Lines
/-!
# Generating one table

A run reads the transcribed table, collects its entries, renders them and replaces the output file.
Nothing is written unless everything before it succeeded, and a dry run writes nothing at all.
-/
namespace EntropyTables

open Log (Event Logger Value)

variable {m : Type → Type} [Monad m] [System m]

/-- What to generate, from where and to where (`RunRequest`). -/
structure Request where
  selection : Selection
  input : Path
  output : Path
  /-- Leaves the output file alone. -/
  dryRun : Bool
  deriving DecidableEq, Repr, Inhabited

namespace Request

def flagText (b : Bool) : String := if b then "true" else "false"

def label (r : Request) : String :=
  "RunRequest \x7b selection: " ++ r.selection.label ++ ", input: " ++ Text.quoted r.input.text
    ++ ", output: " ++ Text.quoted r.output.text ++ ", dry_run: " ++ flagText r.dryRun ++ " \x7d"

end Request

structure Report where
  table : Table
  input : Path
  /-- The file that was replaced, unless the run was dry. -/
  output : Option Path
  /-- The number of lines of the input file. -/
  sourceLines : Nat
  /-- The number of entries. -/
  entries : Nat
  /-- The generated text. -/
  rendered : String
  deriving DecidableEq, Repr, Inhabited

def record (logger : Logger) (event : Event) : m Unit := do
  if let some line := logger.line? (← System.now) event then System.log line

def recordAll (logger : Logger) : List Event → m Unit
  | [] => return ()
  | event :: rest => do
    record logger event
    recordAll logger rest

/-! ## Events -/

namespace Collection

/-- What `collect_entries`, `observe` and `finish` tell the log about the lines of a table. -/
def events (c : Collection) (table : Table) : List Event :=
  let accepted := c.validator.entries.toList.map fun entry =>
    { level := .trace, origin := .validator, message := "entry accepted"
      fields := [("index", .number entry.index),
        ("line", .number (c.validator.firstSeen.getD entry.index 0))]
      span := some table : Event }
  let complete := match c.entries, c.validator.domain with
    | .ok _, some domain =>
      [{ level := .debug, origin := .validator, message := "index domain complete"
         fields := [("domain", .number domain)], span := some table : Event }]
    | _, _ => []
  { level := .debug, origin := .pipeline, message := "normalized source lines"
    fields := [("lines", .number c.lines.length)], span := some table }
    :: accepted ++ complete

end Collection

/-! ## Reading and writing -/

def readText (p : Path) : m (Except Fault String) := do
  match ← System.load p with
  | .error fault => return .error fault
  | .ok bytes => return (String.fromUTF8? bytes).elim (.error .notUtf8) .ok

/-- `read_source_lines`: the lines of a transcribed table. -/
def readSource (p : Path) : m (Except TableError (List String)) := do
  match ← readText p with
  | .error fault => return .error (.io .reading p fault)
  | .ok text => return .ok (Text.stringLines text)

/-- Replaces the output file, unless the run is dry, and answers with the file replaced. -/
def deliver (logger : Logger) (r : Request) (rendered : String) :
    m (Except TableError (Option Path)) := do
  if r.dryRun then return .ok none
  match ← Output.replaceFile r.output rendered with
  | .error e => return .error e
  | .ok () =>
    record logger
      { level := .info, origin := .writer, message := "wrote table"
        fields := [("path", .text r.output.text), ("bytes", .number rendered.utf8ByteSize)]
        span := some r.selection.table }
    return .ok (some r.output)

/-! ## The run -/

/-- `run_pipeline`: generates one table. -/
def Request.run (logger : Logger) (r : Request) : m (Except TableError Report) := do
  let table := r.selection.table
  let tell (level : Log.Level) (origin : Log.Origin) (message : String)
      (fields : List (String × Value)) : m Unit :=
    record logger { level, origin, message, fields, span := some table }
  match ← readSource r.input with
  | .error e => return .error e
  | .ok raw =>
    tell .debug .source "read source file"
      [("path", .text r.input.text), ("lines", .number raw.length)]
    let collection := Collection.ofRaw r.selection raw
    recordAll logger (collection.events table)
    match collection.entries with
    | .error e => return .error e
    | .ok entries =>
      let rendered := r.selection.render entries
      tell .debug .pipeline "rendered table"
        [("entries", .number entries.length), ("bytes", .number rendered.utf8ByteSize)]
      match ← deliver logger r rendered with
      | .error e => return .error e
      | .ok output =>
        tell .info .pipeline "table generated"
          [("input", .text r.input.text), ("entries", .number entries.length),
            ("dry_run", .flag r.dryRun)]
        return .ok ⟨table, r.input, output, raw.length, entries.length, rendered⟩

end EntropyTables
