import EntropyTables.Path
import EntropyTables.Table
/-!
# Log events

An `Event` is one thing that a run tells about itself: how much it matters, which place in the
program tells it, a message and named values. Events of a table's generation belong to its span,
which opens at a place and level of its own and shows the table's name.
-/
namespace EntropyTables.Log

/-- How much an event matters, the most serious first. -/
inductive Level where
  | error
  | warn
  | info
  | debug
  | trace
  deriving DecidableEq, Repr, Inhabited

namespace Level

def all : List Level := [error, warn, info, debug, trace]

def rank : Level → Nat
  | error => 1
  | warn => 2
  | info => 3
  | debug => 4
  | trace => 5

def name : Level → String
  | error => "error"
  | warn => "warn"
  | info => "info"
  | debug => "debug"
  | trace => "trace"

def label (level : Level) : String := level.name.toUpper

end Level

/-- The least serious level that is let through, or none at all. -/
abbrev Threshold := Option Level

namespace Threshold

def rank : Threshold → Nat
  | none => 0
  | some level => level.rank

/-- The threshold that lets the first `n` levels through, or all of them. -/
def ofRank (n : Nat) : Threshold :=
  if n = 0 then none else some ((Level.all[n - 1]?).getD .trace)

def name : Threshold → String
  | none => "off"
  | some level => level.name

def admits (threshold : Threshold) (level : Level) : Bool := level.rank ≤ rank threshold

end Threshold

inductive Component where
  | program
  | console
  | generation
  | reading
  | writing
  | checking
  deriving DecidableEq, Repr, Inhabited

namespace Component

/-- All parts of the program, in the order in which filters list them. -/
def all : List Component := [program, console, generation, reading, writing, checking]

def name : Component → String
  | program => "lutgen"
  | console => "lut_cli"
  | generation => "lut_core"
  | reading => "lut_ingest"
  | writing => "lut_report"
  | checking => "lut_validate"

end Component

/-- The places in the parts of the program that tell something. -/
inductive Origin where
  /-- Where commands are run. -/
  | commands
  /-- Where settings are read. -/
  | settings
  /-- Where a table is generated. -/
  | pipeline
  /-- Where a source file is read. -/
  | source
  /-- Where a table is written. -/
  | writer
  /-- Where entries are checked. -/
  | validator
  deriving DecidableEq, Repr, Inhabited

namespace Origin

def component : Origin → Component
  | commands => .program
  | settings => .generation
  | pipeline => .generation
  | source => .reading
  | writer => .writing
  | validator => .checking

def place : Origin → String
  | commands => "commands"
  | settings => "config"
  | pipeline => "pipeline"
  | source => "source"
  | writer => "writer"
  | validator => "validator"

def name (origin : Origin) : String := origin.component.name ++ "::" ++ origin.place

end Origin

inductive Value where
  | text (s : String)
  | number (n : Int)
  | flag (b : Bool)
  deriving DecidableEq, Repr, Inhabited

/-- Something that a run tells about itself. -/
structure Event where
  level : Level
  origin : Origin
  message : String
  /-- The named values, in order. -/
  fields : List (String × Value)
  /-- The table whose generation the event belongs to. -/
  span : Option Table
  deriving DecidableEq, Repr, Inhabited

/-- The name of the span of a table's generation. -/
def spanName : String := "generate"

def spanLevel : Level := .info

def spanOrigin : Origin := .pipeline

def spanField : String := "table"

/-- The value that the span of a table shows. -/
def spanFields (table : Table) : List (String × Value) := [(spanField, .text table.name)]

namespace Event

/-- The names of the values of an event. Its message is one of them. -/
def fieldNames (event : Event) : List String := "message" :: event.fields.map Prod.fst

end Event

end EntropyTables.Log
