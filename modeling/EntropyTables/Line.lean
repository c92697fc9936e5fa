import EntropyTables.Text.Blank
/-!
# The lines of a transcribed table

A raw line is put in its canonical form before it is read: both ways in which a transcription spells
a minus sign become `-`, and the blanks around the text go. Lines with nothing left are dropped, but
the rest keep their place in the file as their number.
-/
namespace EntropyTables

/-- A line in its canonical form, with its position in the file, counted from one (`SourceLine`). -/
structure Line where
  number : Nat
  text : String
  deriving DecidableEq, Repr, Inhabited

namespace Line

/-- Puts `-` for every run of the three characters that the UTF-8 bytes of the minus sign give when
they are taken for Windows-1252. -/
def mendMisdecoded : List Char → List Char
  | '\u00e2' :: '\u02c6' :: '\u2019' :: cs => '-' :: mendMisdecoded cs
  | c :: cs => c :: mendMisdecoded cs
  | [] => []

def mendMinus (cs : List Char) : List Char := cs.map fun c => if c = '\u2212' then '-' else c

def canonical (cs : List Char) : List Char := Text.trim (mendMinus (mendMisdecoded cs))

/-- `normalize_line`: the canonical form of a line, unless nothing is left of it. -/
def normalize (raw : String) : Option String :=
  let text := canonical raw.toList
  if text.isEmpty then none else some (String.ofList text)

/-- `source_lines`: the lines with something on them, in order. -/
def ofRaw (raw : List String) : List Line :=
  (raw.zipIdx 1).filterMap fun (text, number) => (normalize text).map (⟨number, ·⟩)

def tokens (line : Line) : List String := Text.tokens line.text

end Line

end EntropyTables
