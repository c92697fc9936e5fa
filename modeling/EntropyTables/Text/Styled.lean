/-!
# Text in styles

Control sequences set the style of what follows them. `pieces` cuts a text into sequences and what
is between them. A text that is cut in two must not lose its style: `carryStyles` ends the style of
each part and begins it again in the next. Of the commands that a terminal knows, only those of a
few common forms count as control sequences here.
-/
namespace EntropyTables.Text

/-! ## Where a sequence ends -/

def isIntroducer (c : Char) : Bool := c == '\x1b' || c == '\u009b'

/-- How far a control sequence has been read. -/
inductive SequencePart where
  /-- The marks at its start. -/
  | marks
  /-- That many digits of a parameter. -/
  | digits (n : Nat)
  /-- The separator before a parameter. -/
  | separator
  deriving DecidableEq, Repr, Inhabited

/-- The character can end a control sequence. Digits can as well. -/
def isFinalLetter (c : Char) : Bool :=
  ('A' ≤ c && c ≤ 'P') || c == 'R' || c == 'Z' || c == 'c' || ('f' ≤ c && c ≤ 'n') || c == 'q'
    || c == 'r' || c == 'y' || c == '=' || c == '>' || c == '<'

/-- The characters of the longest control sequence after its introducer. `read` of them have been
read, and `found` is the longest that is complete. -/
def sequenceLength (part : SequencePart) (read : Nat) (found : Option Nat) :
    List Char → Option Nat
  | [] => found
  | c :: cs =>
    if c.isDigit then
      match part with
      | .digits n =>
        if n < 5 then sequenceLength (.digits (n + 1)) (read + 1) (some (read + 1)) cs else found
      | _ => sequenceLength (.digits 1) (read + 1) (some (read + 1)) cs
    else
      match part with
      | .digits n =>
        if 5 ≤ n then found
        else if c = ';' then sequenceLength .separator (read + 1) found cs
        else if isFinalLetter c then some (read + 1)
        else found
      | .separator =>
        if c = ';' then sequenceLength .separator (read + 1) found cs
        else if isFinalLetter c then some (read + 1)
        else found
      | .marks =>
        if "[()#;?".toList.contains c then sequenceLength .marks (read + 1) found cs
        else if isFinalLetter c then some (read + 1)
        else found

/-- The characters of a sequence that holds a text, up to the bell or the string terminator at its
end. -/
def stringLength (read : Nat) : List Char → Option Nat
  | [] => none
  | '\x07' :: _ => some (read + 1)
  | '\x1b' :: '\\' :: _ => some (read + 2)
  | '\x1b' :: _ => none
  | _ :: cs => stringLength (read + 1) cs

def controlLength? : List Char → Option Nat
  | ']' :: cs => stringLength 1 cs
  | cs => sequenceLength .marks 0 none cs

/-! ## Pieces -/

/-- A part of a text: a control sequence, or what is shown. -/
inductive Piece where
  | control (cs : List Char)
  | plain (cs : List Char)
  deriving DecidableEq, Repr, Inhabited

def Piece.chars : Piece → List Char
  | control cs => cs
  | plain cs => cs

/-- The part that is read backwards so far, if it is not empty. -/
def plainPiece (carry : List Char) : List Piece :=
  if carry.isEmpty then [] else [.plain carry.reverse]

/-- The parts of a text after `carry`, what is shown before it, read backwards. -/
def piecesFrom (carry : List Char) : List Char → List Piece
  | [] => plainPiece carry
  | c :: cs =>
    match if isIntroducer c then controlLength? cs else none with
    | some n => plainPiece carry ++ .control (c :: cs.take n) :: piecesFrom [] (cs.drop n)
    | none => piecesFrom (c :: carry) cs
  termination_by cs => cs.length
  decreasing_by
    all_goals simp only [List.length_drop, List.length_cons]
    all_goals omega

def pieces (cs : List Char) : List Piece := piecesFrom [] cs

/-! ## Styles -/

def resetStyle : List Char := ['\x1b', '[', '0', 'm']

def stylesAfter (styles : List (List Char)) (control : List Char) : List (List Char) :=
  if control = resetStyle then [] else styles ++ [control]

def stylesAt (styles : List (List Char)) (cs : List Char) : List (List Char) :=
  (pieces cs).foldl
    (fun styles piece =>
      match piece with
      | .control control => stylesAfter styles control
      | .plain _ => styles)
    styles

def endStyles (styles : List (List Char)) : List Char := if styles.isEmpty then [] else resetStyle

/-- The parts of a text, each with the styles that are in force at its start, and ended after it. -/
def carryStyles (styles : List (List Char)) : List (List Char) → List (List Char)
  | [] => []
  | part :: parts =>
    let after := stylesAt styles part
    (styles.flatten ++ part ++ endStyles after) :: carryStyles after parts

/-- The parts between the marks `mark` of a list of pieces. Marks inside a control sequence do not
count. -/
def splitPieces (mark : Char) : List Piece → List (List Char)
  | [] => [[]]
  | .control cs :: rest =>
    match splitPieces mark rest with
    | part :: parts => (cs ++ part) :: parts
    | [] => [cs]
  | .plain cs :: rest =>
    match (cs.splitOn mark).reverse, splitPieces mark rest with
    | last :: before, part :: parts => before.reverse ++ (last ++ part) :: parts
    | _, parts => parts

def splitStyled (mark : Char) (cs : List Char) : List (List Char) :=
  carryStyles [] (splitPieces mark (pieces cs))

end EntropyTables.Text
