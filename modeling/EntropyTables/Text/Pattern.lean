/-!
# Patterns

A `Pattern` describes texts. It can match a text in several ways, and these have an order: the first
branch of an alternative goes before the others, and a repetition prefers more rounds, or fewer if
it is reluctant. `rows` lists for each place of a text where the matches from there end, the
preferred first. Of all matches in a text, the preferred one from the leftmost place counts;
`matchesToEnd` says that it reaches the end of the text.
-/
namespace EntropyTables.Text

/-! ## Sets of characters -/

inductive CharSet where
  | none
  /-- The characters from one to another, both included. -/
  | range (first last : Char)
  /-- A set with the ASCII letters of the other case added. -/
  | folded (set : CharSet)
  | compl (set : CharSet)
  | union (a b : CharSet)
  | inter (a b : CharSet)
  | diff (a b : CharSet)
  | symmDiff (a b : CharSet)
  deriving DecidableEq, Repr, Inhabited

namespace CharSet

def single (c : Char) : CharSet := range c c

def contains : CharSet → Char → Bool
  | none, _ => false
  | range first last, c => first ≤ c && c ≤ last
  | folded set, c => set.contains c || set.contains c.toLower || set.contains c.toUpper
  | compl set, c => !set.contains c
  | union a b, c => a.contains c || b.contains c
  | inter a b, c => a.contains c && b.contains c
  | diff a b, c => a.contains c && !b.contains c
  | symmDiff a b, c => a.contains c != b.contains c

end CharSet

/-! ## Conditions on a place -/

/-- A condition on a place in a text, which no character meets. -/
inductive Anchor where
  | start
  | finish
  /-- The start of a line; `returns` says that a carriage return also ends lines. -/
  | lineStart (returns : Bool)
  /-- The end of a line. -/
  | lineFinish (returns : Bool)
  /-- Between a character of a word and another. -/
  | wordEdge
  | noWordEdge
  | wordStart
  | wordFinish
  deriving DecidableEq, Repr, Inhabited

def isWordChar (c : Char) : Bool := c.isAlphanum || c == '_'

namespace Anchor

/-- The condition holds between two characters, each absent at an end of the text. -/
def holds (before after : Option Char) : Anchor → Bool
  | start => before.isNone
  | finish => after.isNone
  | lineStart false => before.all (· == '\n')
  | lineStart true => before.all fun c => c == '\n' || (c == '\r' && after != some '\n')
  | lineFinish false => after.all (· == '\n')
  | lineFinish true => after.all fun c => c == '\r' || (c == '\n' && before != some '\r')
  | wordEdge => before.any isWordChar != after.any isWordChar
  | noWordEdge => before.any isWordChar == after.any isWordChar
  | wordStart => !before.any isWordChar && after.any isWordChar
  | wordFinish => before.any isWordChar && !after.any isWordChar

end Anchor

/-! ## Patterns -/

inductive Pattern where
  | empty
  | char (set : CharSet)
  | anchor (anchor : Anchor)
  | seq (p q : Pattern)
  | alt (p q : Pattern)
  /-- Nothing or `p`; `greedy` prefers `p`. -/
  | optional (greedy : Bool) (p : Pattern)
  /-- One or more rounds of `p`; `greedy` prefers more. -/
  | plus (greedy : Bool) (p : Pattern)
  deriving DecidableEq, Repr, Inhabited

namespace Pattern

/-- Any number of rounds. -/
def star (greedy : Bool) (p : Pattern) : Pattern := optional greedy (plus greedy p)

def seqAll (ps : List Pattern) : Pattern := ps.foldr seq empty

/-! ## Matching -/

/-- The rows of a text for a pattern that takes one character, from the place `i` on. -/
def charRows (set : CharSet) (i : Nat) : List Char → List (List Nat)
  | [] => [[]]
  | c :: cs => (if set.contains c then [i + 1] else []) :: charRows set (i + 1) cs

/-- The rows of a text for a condition, from the place `i` on, with the character before it. -/
def anchorRows (anchor : Anchor) (before : Option Char) (i : Nat) : List Char → List (List Nat)
  | [] => [if anchor.holds before none then [i] else []]
  | c :: cs =>
    (if anchor.holds before (some c) then [i] else []) :: anchorRows anchor (some c) (i + 1) cs

/-- The rows for one or more rounds, from the rows for one, from the place `i` on. A round that
takes nothing is the last. -/
def plusRows (greedy : Bool) (i : Nat) : List (List Nat) → List (List Nat)
  | [] => []
  | row :: rest =>
    let later := plusRows greedy (i + 1) rest
    let ends := row.flatMap fun j =>
      if j ≤ i then [j]
      else
        let more := later.getD (j - (i + 1)) []
        if greedy then more ++ [j] else j :: more
    ends.eraseDups :: later

/-- For each place of a text, where the matches from there end, the preferred first. -/
def rows (cs : List Char) : Pattern → List (List Nat)
  | empty => (List.range (cs.length + 1)).map fun i => [i]
  | char set => charRows set 0 cs
  | anchor a => anchorRows a none 0 cs
  | seq p q =>
    let after := q.rows cs
    (p.rows cs).map fun row => (row.flatMap fun j => after.getD j []).eraseDups
  | alt p q => List.zipWith (fun a b => (a ++ b).eraseDups) (p.rows cs) (q.rows cs)
  | optional greedy p =>
    (p.rows cs).mapIdx fun i row => (if greedy then row ++ [i] else i :: row).eraseDups
  | plus greedy p => plusRows greedy 0 (p.rows cs)

/-- Where the preferred match from the leftmost place ends, if there is a match. -/
def matchEnd? (p : Pattern) (cs : List Char) : Option Nat := (p.rows cs).findSome? List.head?

def matchesToEnd (p : Pattern) (s : String) : Bool :=
  p.matchEnd? s.toList == some s.toList.length

end Pattern

end EntropyTables.Text
