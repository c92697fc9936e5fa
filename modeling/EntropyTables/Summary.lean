import EntropyTables.Config
import EntropyTables.Grid
/-!
# The list of tables

Every table in one row of a grid: its name, what it holds, its shape and where it is read and
written.
-/
namespace EntropyTables.Summary

def maxWidth : Nat := 140

/-- `optional_cell`: a number, or what stands for its absence. -/
def count (n : Option Nat) (absent : String) : String := n.elim absent fun n => Text.decimal n

def row (settings : Settings) (table : Table) : List String :=
  [table.name, table.description, count table.fieldsPerEntry "varies", count table.domainSize "-",
    (settings.inputFor table).text, (settings.outputFor table).text]

/-- `tables_table`: all tables, with the settings in force. -/
def grid (settings : Settings) : Grid where
  sides := [.left, .left, .right, .right, .left, .left]
  header := ["Table", "Description", "Fields", "Domain", "Input", "Output"]
  rows := Table.all.map (row settings)

/-- `print_tables`: the list of tables as text. -/
def text (settings : Settings) : String := (grid settings).draw maxWidth

end EntropyTables.Summary
