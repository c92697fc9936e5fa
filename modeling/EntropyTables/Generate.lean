import EntropyTables.Layout
import EntropyTables.Validator
/-!
# From raw lines to generated text

`collect` reads the lines of a table in order, checks each entry as it comes, checks the domain once
and sorts by index; `transform` renders the result. The first fault ends the run.
-/
namespace EntropyTables

/-- `sort_entries`: the entries in ascending order of index, those of one index as they come. -/
def sortEntries (entries : List Entry) : List Entry :=
  entries.mergeSort fun a b => decide (a.index ≤ b.index)

/-- The inner loop of `collect_entries`: the validator after the entries of one line, and the first
fault among them. -/
def observeAll (v : Validator) (line : Nat) : List Entry → Validator × Option TableError
  | [] => (v, none)
  | entry :: rest =>
    match v.step entry line with
    | (v', some e) => (v', some e)
    | (v', none) => observeAll v' line rest

/-- The outer loop of `collect_entries`: the validator after the lines, and the first fault among
them. -/
def gather (layout : Layout) (v : Validator) : List Line → Validator × Option TableError
  | [] => (v, none)
  | line :: rest =>
    match layout.step line with
    | (_, .error e) => (v, some e)
    | (layout', .ok entries) =>
      match observeAll v line.number entries with
      | (v', some e) => (v', some e)
      | (v', none) => gather layout' v' rest

/-- What the reading of a table has come to, before the domain is checked. -/
structure Collection where
  /-- The lines with something on them. -/
  lines : List Line
  /-- What was accepted. -/
  validator : Validator
  /-- The fault that ended the reading. -/
  fault : Option TableError

namespace Collection

def ofRaw (selection : Selection) (raw : List String) : Collection :=
  let lines := Line.ofRaw raw
  let before := Validator.new selection.domainSize
  let (validator, fault) := gather (Layout.fresh selection) before lines
  ⟨lines, validator, fault⟩

/-- The accepted entries in order, if nothing was at fault and the domain is complete. -/
def entries (c : Collection) : Except TableError (List Entry) :=
  match c.fault with
  | some e => .error e
  | none => c.validator.finish.map sortEntries

end Collection

/-- `collect_entries`: the entries of a table, from its raw lines, in ascending order of index. -/
def collect (selection : Selection) (raw : List String) : Except TableError (List Entry) :=
  (Collection.ofRaw selection raw).entries

def transform (selection : Selection) (raw : List String) : Except TableError String :=
  (collect selection raw).map selection.render

end EntropyTables
