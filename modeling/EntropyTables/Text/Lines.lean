/-!
# The lines of a text

A line ends at a line feed, and one carriage return before that line feed belongs to the ending.
A carriage return elsewhere is part of the line, and a text that ends in a line feed has no
further empty line.

Main statement: `lines_append_newline` (one line at a time).
-/
namespace EntropyTables.Text

/-- A line read backwards, put in order, without the one carriage return that ends it. -/
def closeLine : List Char → List Char
  | '\r' :: rest => rest.reverse
  | carry => carry.reverse

/-- The lines of a text whose current line, read backwards, is `carry`. -/
def linesFrom (carry : List Char) : List Char → List (List Char)
  | [] => if carry.isEmpty then [] else [carry.reverse]
  | c :: cs => if c = '\n' then closeLine carry :: linesFrom [] cs else linesFrom (c :: carry) cs

def lines (cs : List Char) : List (List Char) := linesFrom [] cs

theorem linesFrom_append {w : List Char} (hw : '\n' ∉ w) (carry cs : List Char) :
    linesFrom carry (w ++ cs) = linesFrom (w.reverse ++ carry) cs := by
  induction w generalizing carry with
  | nil => rfl
  | cons c w ih =>
    have hc : c ≠ '\n' := fun h => hw (by simp [h])
    have hw' : '\n' ∉ w := fun h => hw (by simp [h])
    simp [linesFrom, hc, ih hw']

/-- Text up to a line feed is the first line, less one carriage return at its end. -/
theorem lines_append_newline {w : List Char} (hw : '\n' ∉ w) (cs : List Char) :
    lines (w ++ '\n' :: cs) = closeLine w.reverse :: lines cs := by
  simp [lines, linesFrom_append hw, linesFrom]

def stringLines (s : String) : List String := (lines s.toList).map String.ofList

end EntropyTables.Text
