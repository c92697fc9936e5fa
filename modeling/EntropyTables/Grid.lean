import EntropyTables.Grid.Wrap
/-!
# Boxed grids

A `Grid` is a header and rows of cells, drawn with box characters. If the widest lines of all cells
do not fit beside each other, the columns that need no more than an even share keep their width, and
the others share the rest; their lines are broken, at spaces where that helps.
-/
namespace EntropyTables

inductive Side where
  | left
  | right
  deriving DecidableEq, Repr, Inhabited

/-- A table of cells under a header. -/
structure Grid where
  /-- The side that each column keeps its text at. -/
  sides : List Side
  header : List String
  rows : List (List String)
  deriving DecidableEq, Repr, Inhabited

namespace Grid

open Text (shownColumns)

/-! ## Widths -/

def widest (measure : List Char → Nat) (lines : List (List Char)) : Nat :=
  (lines.map measure).foldl max 0

def byteSize (line : List Char) : Nat := line.foldl (fun n c => n + c.utf8Size) 0

/-- The cells of each column, with its header. -/
def columnCells (g : Grid) : List (List String) :=
  (List.range g.header.length).map fun i => (g.header :: g.rows).filterMap (·[i]?)

/-- The columns that a cell takes without breaking its lines. -/
def wholeWidth (cells : List String) : Nat :=
  widest shownColumns (cells.flatMap wholeLines)

/-- The width that a column would need if its lines were broken at a width. It is counted in bytes,
so that no column is made narrower than its text on any terminal. -/
def brokenWidth (width : Nat) (cells : List String) : Nat :=
  widest byteSize (cells.flatMap (triedLines width))

/-- The widths that are settled so far, and what is left for the others. -/
structure Shares where
  /-- For each column its width, once that is settled. -/
  settled : List (Option Nat)
  room : Nat
  deriving Inhabited

namespace Shares

/-- The number of columns without a width. -/
def open_ (s : Shares) : Nat := s.settled.countP Option.isNone

/-- What each of the columns without a width would get. -/
def even (s : Shares) : Nat := s.room / s.open_

def settle (s : Shares) (i width : Nat) : Shares :=
  ⟨s.settled.set i (some width), s.room - width⟩

/-- Goes through the columns without a width once and settles those for which `choose` finds a width
within an even share. -/
def pass (choose : Nat → Nat → Option Nat) (s : Shares) : Shares :=
  (List.range s.settled.length).foldl
    (fun s i =>
      match s.settled[i]?, choose s.even i with
      | some none, some width => s.settle i width
      | _, _ => s)
    s

/-- Goes through the columns as long as one more gets a width. -/
def passes (choose : Nat → Nat → Option Nat) : Nat → Shares → Shares
  | 0, s => s
  | fuel + 1, s =>
    let next := s.pass choose
    if next.open_ < s.open_ then passes choose fuel next else next

/-- Gives every column without a width an even share; what the division leaves goes to the first
ones, one each. -/
def distribute (s : Shares) : List Nat :=
  let even := s.even
  let (widths, _) := s.settled.foldl
    (fun (widths, extra) width =>
      match width with
      | some w => (widths ++ [w], extra)
      | none =>
        if extra = 0 then (widths ++ [even], 0) else (widths ++ [even + 1], extra - 1))
    (([] : List Nat), s.room - even * s.open_)
  widths

end Shares

/-- A column that breaks its lines gives room back from this much on. -/
def leastSaving : Nat := 3

def widths (g : Grid) (width : Nat) : List Nat :=
  let cells := g.columnCells
  let n := cells.length
  let borders := n + 1
  let paddings := 2 * n
  let start : Shares := ⟨List.replicate n none, width - borders - paddings⟩
  let fits (even i : Nat) : Option Nat :=
    let whole := wholeWidth (cells.getD i [])
    if whole ≤ even && 0 < even then some whole else none
  let saves (even i : Nat) : Option Nat :=
    let broken := brokenWidth even (cells.getD i [])
    if leastSaving ≤ even - broken then some broken else none
  let fitted := start.passes fits (n + 1)
  let saved := if fitted.open_ = 0 then fitted else fitted.passes saves (n + 1)
  let room := if saved.room < saved.open_ then saved.open_ else saved.room
  ({ saved with room } : Shares).distribute

/-! ## Drawing -/

def repeated (n : Nat) (c : Char) : List Char := List.replicate n c

/-- A line in a column, with a space on both sides. -/
def pad (side : Side) (width : Nat) (line : List Char) : List Char :=
  let fillup := repeated (width - shownColumns line) ' '
  match side with
  | .left => ' ' :: line ++ fillup ++ [' ']
  | .right => ' ' :: fillup ++ line ++ [' ']

def rowLines (g : Grid) (widths : List Nat) (row : List String) : List (List (List Char)) :=
  let cells := (row.zip widths).map fun (cell, width) => cellLines width cell
  let height := (cells.map List.length).foldl max 0
  let frames := g.sides.zip widths
  (List.range height).map fun i =>
    (cells.zip frames).map fun (lines, side, width) => pad side width (lines.getD i [])

/-- The text between the borders of a row's line. -/
def boxed (parts : List (List Char)) : List Char := '│' :: ['┆'].intercalate parts ++ ['│']

def border (left line cross right : Char) (widths : List Nat) : List Char :=
  left :: [cross].intercalate (widths.map fun w => repeated (w + 2) line) ++ [right]

/-- The grid, at most `width` wide if its columns allow it. -/
def draw (g : Grid) (width : Nat) : String :=
  let widths := g.widths width
  let lines (row : List String) := (g.rowLines widths row).map boxed
  String.ofList (['\n'].intercalate
    ([border '╭' '─' '┬' '╮' widths] ++ lines g.header ++ [border '╞' '═' '╪' '╡' widths]
      ++ g.rows.flatMap lines ++ [border '╰' '─' '┴' '╯' widths]))

end Grid

end EntropyTables
