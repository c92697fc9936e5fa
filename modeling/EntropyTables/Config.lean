import EntropyTables.Files.Output
import EntropyTables.Run
import EntropyTables.Toml.Reader
/-!
# Settings

A configuration can say from which directory relative paths start, where each table is read and
written, and which form of the CAVLC table is wanted. Keys that say nothing are errors at every
level. A group of settings can also be written as an array, by position.
-/
namespace EntropyTables

open Log (Logger)

/-- What is set for one table (`TableConfig`). -/
structure TableSettings where
  input : Option Path
  output : Option Path
  mode : Option CavlcMode
  deriving DecidableEq, Repr, Inhabited

/-- What is set (`GeneratorConfig`). -/
structure Settings where
  /-- The directory that relative paths start from. -/
  root : Option Path
  ctxIdxInc : TableSettings
  cabacInit : TableSettings
  rangeTabLps : TableSettings
  cavlc : TableSettings
  deriving DecidableEq, Repr, Inhabited

def TableSettings.unset : TableSettings := ⟨none, none, none⟩

namespace Settings

def unset : Settings := ⟨none, .unset, .unset, .unset, .unset⟩

/-- `GeneratorConfig::table`: what is set for a table. -/
def forTable (s : Settings) : Table → TableSettings
  | .ctxIdxInc => s.ctxIdxInc
  | .cabacInit => s.cabacInit
  | .rangeTabLps => s.rangeTabLps
  | .cavlc => s.cavlc

/-- `GeneratorConfig::resolve`: a path seen from the directory that relative paths start from. -/
def resolve (s : Settings) (p : Path) : Path :=
  match s.root with
  | some root => root.join p
  | none => p

/-- `GeneratorConfig::input_for`: where a table is read. -/
def inputFor (s : Settings) (table : Table) : Path :=
  s.resolve ((s.forTable table).input.getD ⟨table.defaultInput⟩)

/-- `GeneratorConfig::output_for`: where a table is written. -/
def outputFor (s : Settings) (table : Table) : Path :=
  s.resolve ((s.forTable table).output.getD ⟨table.defaultOutput⟩)

end Settings

/-! ## From the tree of a document -/

open Toml (Value)

/-- The members of a group of settings: a table with no other keys than `keys`, or an array by
position. -/
def Toml.Value.group? (keys : List String) : Value → Option (List (String × Value))
  | .table members => if members.all fun m => keys.contains m.1 then some members else none
  | .array items => some (keys.zip items)
  | _ => none

/-- What a key is set to, if it is set. -/
def settingOf (decode : Value → Option α) (members : List (String × Value)) (key : String) :
    Option (Option α) :=
  match members.lookup key with
  | none => some none
  | some value => (decode value).map some

def Path.ofValue? : Value → Option Path
  | .string text => some ⟨text⟩
  | _ => none

/-- The form of the CAVLC table that a value says: its name, alone or with nothing in it. -/
def CavlcMode.ofValue? : Value → Option CavlcMode
  | .string name => ofName? name
  | .table [(name, .table [])] => ofName? name
  | .table [(name, .array [])] => ofName? name
  | _ => none

def TableSettings.ofValue? (value : Value) : Option TableSettings := do
  let members ← value.group? ["input", "output", "mode"]
  let input ← settingOf Path.ofValue? members "input"
  let output ← settingOf Path.ofValue? members "output"
  let mode ← settingOf CavlcMode.ofValue? members "mode"
  return ⟨input, output, mode⟩

namespace Settings

/-- What a value sets for the tables, with the directory that relative paths start from. -/
def ofTables? (root : Option Path) (value : Value) : Option Settings := do
  let members ← value.group? (Table.all.map Table.name)
  let section? (table : Table) : Option TableSettings :=
    (settingOf TableSettings.ofValue? members table.name).map (·.getD .unset)
  return ⟨root, ← section? .ctxIdxInc, ← section? .cabacInit, ← section? .rangeTabLps,
    ← section? .cavlc⟩

def ofValue? (value : Value) : Option Settings := do
  let members ← value.group? ["root", "tables"]
  let root ← settingOf Path.ofValue? members "root"
  ofTables? root ((members.lookup "tables").getD (.table []))

end Settings

/-! ## From a file -/

inductive ConfigError where
  /-- The system refused to read the file. -/
  | io (path : Path) (fault : Fault)
  /-- The text of the file is no configuration. -/
  | malformed (path : Path)
  deriving DecidableEq, Repr, Inhabited

def ConfigError.message : ConfigError → String
  | .io path fault => "failed to read config " ++ path.text ++ ": " ++ fault.message
  | .malformed path => "failed to parse config " ++ path.text ++ ": TOML parse error"

namespace Settings

/-- `GeneratorConfig::from_toml`: what the text of a file sets. -/
def ofText (p : Path) (text : String) : Except ConfigError Settings :=
  match (Toml.read? text).bind ofValue? with
  | some settings => .ok settings
  | none => .error (.malformed p)

def defaultFile : Path := ⟨"lutgen.toml"⟩

variable {m : Type → Type} [Monad m] [System m]

/-- `GeneratorConfig::load`: what a file sets. -/
def load (logger : Logger) (p : Path) : m (Except ConfigError Settings) := do
  match ← readText p with
  | .error fault => return .error (.io p fault)
  | .ok text =>
    match ofText p text with
    | .error e => return .error e
    | .ok settings =>
      record logger
        { level := .debug, origin := .settings, message := "loaded config"
          fields := [("path", .text p.text)], span := none }
      return .ok settings

/-- `GeneratorConfig::discover`: what the named file sets, or else the file that is read by default,
if it is there. -/
def discover (logger : Logger) (named : Option Path) : m (Except ConfigError Settings) := do
  match named with
  | some p => load logger p
  | none => if ← System.isFile defaultFile then load logger defaultFile else return .ok unset

end Settings

end EntropyTables
