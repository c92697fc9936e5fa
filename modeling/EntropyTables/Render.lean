import EntropyTables.Entry
import EntropyTables.Grammar
/-!
# Generated text

Each output shape is written by one renderer, which writes one block for each entry, in order.
-/
namespace EntropyTables.Render

def caseIndent : String := "    "

def bodyIndent : String := "        "

/-- `field`: the field at a position, or nothing if the entry has no such field. -/
def fieldAt (entry : Entry) (position : Nat) : String :=
  (entry.fields[position]?).elim "" Field.toText

/-- `join_fields`: the fields of an entry, with commas between them. -/
def fieldList (entry : Entry) : String := ", ".intercalate (entry.fields.map Field.toText)

/-- A switch arm of `render_switch_cases`. The fields are the value for frame macroblocks in mode 1,
for field macroblocks in mode 1, and for any macroblock in another mode. -/
def switchCase (entry : Entry) : String :=
  caseIndent ++ "case " ++ Text.decimal entry.index ++ ":\n"
    ++ bodyIndent ++ "ctxIdxInc = (mode == 1) ? (isFrame ? " ++ fieldAt entry 0 ++ " : "
    ++ fieldAt entry 1 ++ ") : " ++ fieldAt entry 2 ++ ";\n"
    ++ bodyIndent ++ "break;\n"
    ++ "\n"

/-- A row of `render_cabac_init`: values after a comment with the index. -/
def cabacInitRow (entry : Entry) : String :=
  bodyIndent ++ "/*" ++ Text.decimal entry.index ++ "*/ " ++ fieldList entry ++ ",\n"

/-- A row of `render_range_tab_lps`: values under their index, after a comment with the index. -/
def rangeTabLpsRow (entry : Entry) : String :=
  bodyIndent ++ "/*" ++ Text.decimal entry.index ++ "*/ [" ++ Text.decimal entry.index ++ "] = ["
    ++ fieldList entry ++ "],\n"

/-- `push_row`: a row of cells, each but the last followed by a comma and a tab. -/
def cellRow (cells : List String) : String := bodyIndent ++ ",\t".intercalate cells ++ ",\n"

/-- A pattern as a binary literal; a cell without a codeword is zero. -/
def bitLiteral (text : String) : String :=
  if text = Grammar.noCodeword then "0b0" else "0b" ++ text

/-- A row of `render_bit_literals`: the first two cells stand as they are, the others are binary
literals. -/
def bitLiteralRow (entry : Entry) : String :=
  let cells := entry.fields.map Field.toText
  cellRow (cells.take 2 ++ (cells.drop 2).map bitLiteral)

def width (text : String) : Nat := if text = Grammar.noCodeword then 0 else text.length

/-- A row of `render_widths`. -/
def widthRow (entry : Entry) : String :=
  cellRow (entry.fields.map fun field => Text.decimal (width field.toText))

/-- The blocks of the entries, one after the other. -/
def blocks (block : Entry → String) (entries : List Entry) : String :=
  String.join (entries.map block)

def switchCases : List Entry → String := blocks switchCase

def cabacInit : List Entry → String := blocks cabacInitRow

def rangeTabLps : List Entry → String := blocks rangeTabLpsRow

def bitLiterals : List Entry → String := blocks bitLiteralRow

def widths : List Entry → String := blocks widthRow

end EntropyTables.Render
