import EntropyTables.Text.Cluster
import EntropyTables.Text.Shown
import EntropyTables.Text.Styled
/-!
# Breaking the lines of a cell

A cell's text is cut at its line feeds, and lines that are too wide are broken: at spaces where that
helps, else within a word, but never within a character as readers see it. Control sequences take no
column, and a style goes on from line to line.
-/
namespace EntropyTables.Grid

open Text (columns shownColumns clusters carryStyles splitStyled stylesAfter endStyles)

/-! ## Breaking words -/

def takeClusters (room : Nat) : List (List Char) → List Char × List Char
  | [] => ([], [])
  | cluster :: rest =>
    if columns cluster ≤ room then
      let (head, tail) := takeClusters (room - columns cluster) rest
      (cluster ++ head, tail)
    else ([], cluster ++ rest.flatten)

/-- The longest start of a word that fits, and the rest, each in its style. Of the word, `head` has
been taken, which takes `used` columns and has the styles in force; `kept` is the head up to what it
shows last. -/
def splitPiecesAt (room : Nat) (head kept : List Char) (used : Nat) (styles : List (List Char)) :
    List Text.Piece → List Char × List Char
  | [] => (head, [])
  | .control cs :: rest =>
    splitPiecesAt room (head ++ cs) kept used (stylesAfter styles cs) rest
  | .plain cs :: rest =>
    if used + columns cs ≤ room then
      splitPiecesAt room (head ++ cs) (head ++ cs) (used + columns cs) styles rest
    else
      let (more, tail) := takeClusters (room - used) (clusters cs)
      ((if more.isEmpty then kept else head ++ more) ++ endStyles styles,
        styles.flatten ++ tail ++ rest.flatMap Text.Piece.chars)

/-- The start of a word that goes on a line, and the rest; on a new line at least one character
goes. -/
def cutWord (room : Nat) (newLine : Bool) (word : List Char) : List Char × List Char :=
  match splitPiecesAt room [] [] 0 [] (Text.pieces word) with
  | ([], c :: rest) => if newLine then ([c], rest) else ([], c :: rest)
  | parts => parts

/-! ## Breaking lines -/

/-- A line is full when no more than this many columns are left. -/
def leastGap : Nat := 2

/-- Puts words on lines of a width. The line in hand is `line`; what cannot be on it goes on the
next ones. -/
def fill (width : Nat) : Nat → (line : List Char) → List (List Char) → List (List Char)
  | 0, _, _ => []
  | _ + 1, line, [] => if line.isEmpty then [] else [line]
  | fuel + 1, line, word :: words =>
    let gap := if line.isEmpty then [] else [' ']
    let room := width - shownColumns line - gap.length
    let close (line : List Char) :=
      if width - leastGap < shownColumns line then line :: fill width fuel [] words
      else fill width fuel line words
    if shownColumns word + shownColumns line + gap.length ≤ width then close (line ++ gap ++ word)
    else if !line.isEmpty && room ≤ leastGap then line :: fill width fuel [] (word :: words)
    else if width < shownColumns word then
      let (head, tail) := cutWord room line.isEmpty word
      (line ++ gap ++ head) :: fill width fuel [] (tail :: words)
    else line :: close word

def breakLine (width : Nat) (line : List Char) : List (List Char) :=
  let words := splitStyled ' ' line
  fill width (2 * (line.length + words.length) + 2) [] words

/-! ## The lines of a cell -/

/-- The lines of a cell as it is written, each in its style. -/
def wholeLines (cell : String) : List (List Char) := carryStyles [] (cell.toList.splitOn '\n')

def cellLines (width : Nat) (cell : String) : List (List Char) :=
  (wholeLines cell).flatMap fun line =>
    if width < shownColumns line then breakLine width line else [line]

/-- The lines of a cell when a width is tried. Then control sequences count as if they were shown,
so that a line may be broken that fits. -/
def triedLines (width : Nat) (cell : String) : List (List Char) :=
  (wholeLines cell).flatMap fun line =>
    if width < columns line then breakLine width line else [line]

end EntropyTables.Grid
