import EntropyTables.Text.Blank
/-!
# The lookup tables

Four tables of the H.264 entropy coders can be generated. A `Table` fixes how wide its entries are,
which indices must be present and where its files lie by default; a `Selection` adds, for CAVLC,
which of its two forms is wanted.
-/
namespace EntropyTables

/-- The lookup tables that can be generated (`TableKind`). -/
inductive Table where
  /-- The assignment of ctxIdxInc by mode and frame or field status. -/
  | ctxIdxInc
  /-- The context initialization values (m, n) of CABAC for all slice types. -/
  | cabacInit
  /-- rangeTabLPS, by pStateIdx and qCodIRangeIdx. -/
  | rangeTabLps
  /-- The coeff_token codewords of CAVLC. -/
  | cavlc
  deriving DecidableEq, Repr, Inhabited

namespace Table

def all : List Table := [.ctxIdxInc, .cabacInit, .rangeTabLps, .cavlc]

def name : Table → String
  | .ctxIdxInc => "ctxidxinc"
  | .cabacInit => "cabac-init"
  | .rangeTabLps => "range-tab-lps"
  | .cavlc => "cavlc"

def description : Table → String
  | .ctxIdxInc => "ctxIdxInc assignment (switch/case)"
  | .cabacInit => "CABAC context initialization (m, n) values"
  | .rangeTabLps => "rangeTabLPS"
  | .cavlc => "CAVLC coeff_token bit patterns"

/-- The number of fields of an entry, if all entries have the same. -/
def fieldsPerEntry : Table → Option Nat
  | .ctxIdxInc => some 3
  | .cabacInit => some 8
  | .rangeTabLps => some 4
  | .cavlc => none

/-- The number of indices, counted from zero, that must all be present. -/
def domainSize : Table → Option Nat
  | .cabacInit => some 1024
  | _ => none

def defaultInput : Table → String
  | .ctxIdxInc => "scripts/gen/h264/cabac-lut/assign-ctxidxinc.txt"
  | .cabacInit => "scripts/gen/h264/cabac-lut/cabac-lut.txt"
  | .rangeTabLps => "scripts/gen/h264/cabac-lut/rangetablps.txt"
  | .cavlc => "scripts/gen/h264/cavlc-lut/cavlc-lut.txt"

def defaultOutput : Table → String
  | .ctxIdxInc => "scripts/gen/h264/cabac-lut/assign-ctxidxinc-output.txt"
  | .cabacInit => "scripts/gen/h264/cabac-lut/cabac-output.txt"
  | .rangeTabLps => "scripts/gen/h264/cabac-lut/rangetablps-output.txt"
  | .cavlc => "scripts/gen/h264/cavlc-lut/cavlc-output.txt"

/-- `TableKind::from_str`: the table of a name, whatever the case of its ASCII letters and the blanks
around it. -/
def ofName? (text : String) : Option Table :=
  let wanted := (Text.trim text.toList).map Char.toLower
  all.find? fun table => table.name.toList == wanted

def unknown (text : String) : String := "unknown table: " ++ text

end Table

/-- The two forms in which the CAVLC table can be written. -/
inductive CavlcMode where
  /-- The codewords, as binary literals. -/
  | lut
  /-- The width in bits of every column. -/
  | sizes
  deriving DecidableEq, Repr, Inhabited

namespace CavlcMode

def name : CavlcMode → String
  | .lut => "lut"
  | .sizes => "sizes"

/-- The form of a name, letter by letter. -/
def ofName? (text : String) : Option CavlcMode := [lut, sizes].find? fun mode => mode.name == text

end CavlcMode

/-- A table to generate, with the form of the CAVLC table where there is a choice
(`TableSelection`). -/
inductive Selection where
  | ctxIdxInc
  | cabacInit
  | rangeTabLps
  | cavlc (mode : CavlcMode)
  deriving DecidableEq, Repr, Inhabited

namespace Selection

/-- The selection of a table; `mode` matters for CAVLC only. -/
def of (table : Table) (mode : CavlcMode) : Selection :=
  match table with
  | .ctxIdxInc => .ctxIdxInc
  | .cabacInit => .cabacInit
  | .rangeTabLps => .rangeTabLps
  | .cavlc => .cavlc mode

def table : Selection → Table
  | .ctxIdxInc => .ctxIdxInc
  | .cabacInit => .cabacInit
  | .rangeTabLps => .rangeTabLps
  | .cavlc _ => .cavlc

/-- The selection as the log shows it. -/
def label : Selection → String
  | .ctxIdxInc => "CtxIdxInc"
  | .cabacInit => "CabacInit"
  | .rangeTabLps => "RangeTabLps"
  | .cavlc .lut => "Cavlc(Lut)"
  | .cavlc .sizes => "Cavlc(Sizes)"

end Selection

end EntropyTables
