import EntropyTables.Text.Decimal
/-!
# The entries of a table

An `Entry` is one logical row: its index, which is the only key for checking and ordering, and its
fields.
-/
namespace EntropyTables

/-- One literal value of an entry: a token kept as it was written, or a number. -/
inductive Field where
  | text (token : String)
  | int (value : Int)
  deriving DecidableEq, Repr, Inhabited

/-- The field as it stands in generated text. -/
def Field.toText : Field → String
  | .text token => token
  | .int value => Text.decimal value

/-- One logical row of a table (`TableEntry`). -/
structure Entry where
  /-- The position of the row in the table. -/
  index : Int
  /-- The values of the row, in order. -/
  fields : List Field
  deriving DecidableEq, Repr, Inhabited

end EntropyTables
