import EntropyTables.Entry
import EntropyTables.Error
import EntropyTables.Line
/-!
# The line grammars

Each table has its own grammar for a line. The first token of an entry is its index, except for
CAVLC, whose rows carry none. A line of another shape is malformed, and the error names the leftmost
token at fault.
-/
namespace EntropyTables.Grammar

open Text (quoted decimal)

/-- `LutError::malformed`: the error of a line that does not match its grammar. -/
def malformed (line : Line) (reason : String) : TableError :=
  .malformedLine line.number line.text reason

/-- `parse_index`: the index that a token spells. -/
def readIndex (line : Line) (token : String) : Except TableError Int :=
  match Text.readInt64? token.toList with
  | some index => .ok index
  | none => .error (malformed line ("invalid index " ++ quoted token))

/-- `parse_int_field`: the integer field that a token spells. -/
def readValue (line : Line) (token : String) : Except TableError Field :=
  match Text.readInt64? token.toList with
  | some value => .ok (.int value)
  | none => .error (malformed line ("invalid value " ++ quoted token))

/-- A token kept as a field, as `parse_ctx_idx_inc_line` keeps its tokens. -/
def keepToken (_ : Line) (token : String) : Except TableError Field := .ok (.text token)

/-- The entry whose index is the first token and whose fields are the others: what
`parse_entry_pair` makes of a chunk and `cabac_init_entry` of the tokens that are there. -/
def readEntry (readField : Line → String → Except TableError Field) (line : Line)
    (tokens : List String) : Except TableError Entry := do
  let index ← readIndex line (tokens.headD "")
  let fields ← tokens.tail.mapM (readField line)
  return ⟨index, fields⟩

/-! ## Lines of two entries -/

/-- `parse_entry_pair`: the two entries of a line that holds exactly two, each of an index and
`width` fields. The other branch is the error of `expect_token_count`. -/
def readPair (width : Nat) (readField : Line → String → Except TableError Field) (line : Line) :
    Except TableError (List Entry) := do
  let tokens := line.tokens
  if tokens.length = 2 * (1 + width) then
    let first ← readEntry readField line (tokens.take (1 + width))
    let second ← readEntry readField line (tokens.drop (1 + width))
    return [first, second]
  else
    throw (malformed line
      ("expected " ++ decimal (2 * (1 + width) : Nat) ++ " tokens, found "
        ++ decimal tokens.length))

/-- `parse_ctx_idx_inc_line`: twice an index and three tokens. -/
def ctxIdxInc (line : Line) : Except TableError (List Entry) := readPair 3 keepToken line

/-- `parse_range_tab_lps_line`: twice an index and four integers. -/
def rangeTabLps (line : Line) : Except TableError (List Entry) := readPair 4 readValue line

/-! ## CABAC initialization -/

/-- `CABAC_INIT_FIELDS`: the number of values of a CABAC initialization entry. -/
def cabacWidth : Nat := 8

/-- The entry with zeros for the values that it lacks, as `cabac_init_entry` fills it up. -/
def fillWithZeros (entry : Entry) : Entry :=
  { entry with
    fields := entry.fields ++ List.replicate (cabacWidth - entry.fields.length) (.int 0) }

/-- `parse_cabac_init_line`: an index and eight integers, and perhaps a second entry. The page
layout of the source may cut the second one short; what it lacks is zero. -/
def cabacInit (line : Line) : Except TableError (List Entry) := do
  let tokens := line.tokens
  let single := 1 + cabacWidth
  if single ≤ tokens.length ∧ tokens.length ≤ 2 * single then
    let first ← readEntry readValue line (tokens.take single)
    if tokens.length = single then
      return [first]
    else
      let second ← readEntry readValue line (tokens.drop single)
      return [first, fillWithZeros second]
  else
    throw (malformed line
      ("expected " ++ decimal single ++ " to " ++ decimal (2 * single : Nat) ++ " tokens, found "
        ++ decimal tokens.length))

/-! ## CAVLC -/

/-- `CAVLC_NOT_APPLICABLE`: the cell that has no codeword. -/
def noCodeword : String := "-"

/-- The token without the commas at its end. -/
def stripCommas (token : String) : String :=
  String.ofList (token.toList.reverse.dropWhile (· == ',')).reverse

/-- `is_cavlc_pattern`: the cell is a codeword, or says that there is none. -/
def isPattern (cell : String) : Bool :=
  cell == noCodeword || (!cell.isEmpty && cell.toList.all fun c => c == '0' || c == '1')

/-- Accepts a cell that is a pattern. -/
def checkPattern (line : Line) (cell : String) : Except TableError Unit :=
  if isPattern cell then .ok ()
  else .error (malformed line ("invalid bit pattern " ++ quoted cell))

/-- `parse_cavlc_line`: two integers, then patterns, each with commas after it or not. The tokens
are kept as they are, and the entry gets the index `row`. -/
def cavlc (row : Int) (line : Line) : Except TableError Entry := do
  let cells := line.tokens.map stripCommas
  match cells with
  | first :: second :: patterns =>
    let _ ← readValue line first
    let _ ← readValue line second
    patterns.forM (checkPattern line)
    return ⟨row, cells.map .text⟩
  | _ =>
    throw (malformed line ("expected at least 2 tokens, found " ++ decimal cells.length))

end EntropyTables.Grammar
