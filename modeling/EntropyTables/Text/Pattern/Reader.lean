import EntropyTables.Text.Alphanumeric
import EntropyTables.Text.Pattern
/-!
# Reading patterns

`Pattern.read?` reads a pattern from its text; no answer means that the text is no pattern. Flags in
parentheses, `(?s)` or `(?s:…)`, change how the rest of a group or a group of its own is read.

A pattern works on whole characters of any script. What needs a table of all scripts (`\d`, `\b`,
the folding of case) is known for ASCII alone, which `(?-u)` chooses, and is refused otherwise. In
ASCII a set that takes more than ASCII characters is refused, and so is a dot. Counted repetitions
are refused.
-/
namespace EntropyTables.Text.Pattern

/-! ## Flags -/

/-- How a part of a pattern is read. -/
structure Mode where
  /-- Letters stand for both cases. -/
  folds : Bool
  /-- The anchors hold at every line. -/
  lines : Bool
  /-- A dot takes the end of a line. -/
  dotAll : Bool
  /-- Repetitions are reluctant unless they are marked. -/
  reluctant : Bool
  /-- A carriage return also ends lines. -/
  returns : Bool
  /-- Blanks and comments may stand between the parts. -/
  loose : Bool
  /-- Only ASCII is known. -/
  ascii : Bool
  deriving DecidableEq, Repr, Inhabited

namespace Mode

def initial : Mode := ⟨false, false, false, false, false, false, false⟩

/-- The mode with the flag of a letter set, if there is such a flag. -/
def set? (mode : Mode) (value : Bool) : Char → Option Mode
  | 'i' => some { mode with folds := value }
  | 'm' => some { mode with lines := value }
  | 's' => some { mode with dotAll := value }
  | 'U' => some { mode with reluctant := value }
  | 'R' => some { mode with returns := value }
  | 'x' => some { mode with loose := value }
  | 'u' => some { mode with ascii := !value }
  | _ => none

/-- The text after blanks and comments; `comment` says that a comment has begun. -/
def skipLoose (comment : Bool) : List Char → List Char
  | [] => []
  | c :: cs =>
    if comment then skipLoose (c != '\n') cs
    else if isBlank c then skipLoose false cs
    else if c = '#' then skipLoose true cs
    else c :: cs

def skip (mode : Mode) (cs : List Char) : List Char :=
  if mode.loose then skipLoose false cs else cs

/-! ## Sets -/

/-- The set of a range of characters, with both cases if letters stand for both. -/
def range? (mode : Mode) (first last : Char) : Option CharSet :=
  if mode.ascii then
    if 0x80 ≤ last.toNat then none
    else some (if mode.folds then .folded (.range first last) else .range first last)
  else if mode.folds then none
  else some (.range first last)

def ranges? (mode : Mode) (ranges : List (Char × Char)) : Option CharSet :=
  ranges.foldlM (fun set r => (mode.range? r.1 r.2).map set.union) .none

def compl? (mode : Mode) (set : CharSet) : Option CharSet :=
  if mode.ascii then none else some (.compl set)

def literal? (mode : Mode) (c : Char) : Option Pattern :=
  if mode.ascii && 0x80 ≤ c.toNat then some (.char (.single c))
  else (mode.range? c c).map .char

def dot? (mode : Mode) : Option Pattern :=
  if mode.ascii then none
  else if mode.dotAll then some (.char (.compl .none))
  else if mode.returns then some (.char (.compl (.union (.single '\n') (.single '\r'))))
  else some (.char (.compl (.single '\n')))

def startAnchor (mode : Mode) : Anchor := if mode.lines then .lineStart mode.returns else .start

def finishAnchor (mode : Mode) : Anchor := if mode.lines then .lineFinish mode.returns else .finish

end Mode

/-- The characters of a class by its name. -/
def classRanges? (name : String) : Option (List (Char × Char)) :=
  match name with
  | "alnum" => some [('0', '9'), ('A', 'Z'), ('a', 'z')]
  | "alpha" => some [('A', 'Z'), ('a', 'z')]
  | "ascii" => some [('\x00', '\x7f')]
  | "blank" => some [('\t', '\t'), (' ', ' ')]
  | "cntrl" => some [('\x00', '\x1f'), ('\x7f', '\x7f')]
  | "digit" => some [('0', '9')]
  | "graph" => some [('!', '~')]
  | "lower" => some [('a', 'z')]
  | "print" => some [(' ', '~')]
  | "punct" => some [('!', '/'), (':', '@'), ('[', '\x60'), ('\x7b', '~')]
  | "space" => some [('\t', '\r'), (' ', ' ')]
  | "upper" => some [('A', 'Z')]
  | "word" => some [('0', '9'), ('A', 'Z'), ('_', '_'), ('a', 'z')]
  | "xdigit" => some [('0', '9'), ('A', 'F'), ('a', 'f')]
  | _ => none

/-! ## Escapes -/

/-- What a backslash and the characters after it stand for. -/
inductive Escape where
  | char (c : Char)
  | set (set : CharSet)
  | anchor (anchor : Anchor)

/-- The character that `digits` hexadecimal digits name. -/
def readHex (mode : Mode) : (digits value : Nat) → List Char → Option (Char × List Char)
  | 0, value, cs => if value.isValidChar then some (Char.ofNat value, cs) else none
  | digits + 1, value, cs =>
    match mode.skip cs with
    | c :: cs =>
      if c.isDigit then readHex mode digits (16 * value + (c.toNat - '0'.toNat)) cs
      else if 'a' ≤ c.toLower ∧ c.toLower ≤ 'f' then
        readHex mode digits (16 * value + (c.toLower.toNat - 'a'.toNat + 10)) cs
      else none
    | [] => none

def isEscapable (c : Char) : Bool :=
  c.toNat < 0x80 && !c.isAlphanum && c != '<' && c != '>'

/-- What the text after a backslash starts with. -/
def readEscape (mode : Mode) (cs : List Char) : Option (Escape × List Char) :=
  let ascii (escape : Option Escape) (rest : List Char) : Option (Escape × List Char) :=
    if mode.ascii then escape.map (·, rest) else none
  let named (name : String) (rest : List Char) : Option (Escape × List Char) :=
    ascii (((classRanges? name).bind mode.ranges?).map .set) rest
  match cs with
  | [] => none
  | 'x' :: rest => do
    let (c, rest) ← readHex mode 2 0 rest
    if mode.ascii && 0x80 ≤ c.toNat then none else some (.char c, rest)
  | 'u' :: rest => (readHex mode 4 0 rest).map fun (c, rest) => (.char c, rest)
  | 'U' :: rest => (readHex mode 8 0 rest).map fun (c, rest) => (.char c, rest)
  | 'd' :: rest => named "digit" rest
  | 's' :: rest => named "space" rest
  | 'w' :: rest => named "word" rest
  | 'a' :: rest => some (.char '\x07', rest)
  | 'f' :: rest => some (.char '\x0c', rest)
  | 't' :: rest => some (.char '\t', rest)
  | 'n' :: rest => some (.char '\n', rest)
  | 'r' :: rest => some (.char '\r', rest)
  | 'v' :: rest => some (.char '\x0b', rest)
  | 'A' :: rest => some (.anchor .start, rest)
  | 'z' :: rest => some (.anchor .finish, rest)
  | 'b' :: rest => ascii (some (.anchor .wordEdge)) rest
  | 'B' :: rest => ascii (some (.anchor .noWordEdge)) rest
  | '<' :: rest => ascii (some (.anchor .wordStart)) rest
  | '>' :: rest => ascii (some (.anchor .wordFinish)) rest
  | c :: rest => if isEscapable c then some (.char c, rest) else none

/-! ## Sets in brackets -/

inductive SetOp where
  | inter
  | diff
  | symmDiff

def SetOp.apply : SetOp → CharSet → CharSet → CharSet
  | inter => .inter
  | diff => .diff
  | symmDiff => .symmDiff

/-- The set with what waits for it on the left. -/
def finishSet (pending : Option (CharSet × SetOp)) (set : CharSet) : CharSet :=
  match pending with
  | some (left, op) => op.apply left set
  | none => set

/-- One item of a set: a character, or what an escape stands for. -/
def readSetItem (mode : Mode) : List Char → Option (Escape × List Char)
  | '\\' :: rest => readEscape mode rest
  | c :: rest => some (.char c, rest)
  | [] => none

/-- An item of a set or a range between two. -/
def readSetRange (mode : Mode) (cs : List Char) : Option (CharSet × List Char) := do
  let (item, rest) ← readSetItem mode cs
  let alone (rest : List Char) : Option (CharSet × List Char) :=
    match item with
    | .char c => (mode.range? c c).map (·, rest)
    | .set set => some (set, rest)
    | .anchor _ => none
  match mode.skip rest with
  | '-' :: after =>
    match mode.skip after with
    | [] => none
    | ']' :: _ | '-' :: _ => alone ('-' :: after)
    | after =>
      let (last, rest) ← readSetItem mode after
      match item, last with
      | .char first, .char last =>
        if first ≤ last then (mode.range? first last).map (·, rest) else none
      | _, _ => none
  | rest => alone rest

/-- A class by its name, after the bracket that opens it: whether it is the complement that is
meant, and the ranges of the class. -/
def readClass? : List Char → Option ((Bool × List (Char × Char)) × List Char)
  | ':' :: cs =>
    let (negated, cs) := match cs with
      | '^' :: cs => (true, cs)
      | cs => (false, cs)
    match cs.span (· != ':') with
    | (name, ':' :: ']' :: rest) =>
      (classRanges? (String.ofList name)).map fun ranges => ((negated, ranges), rest)
    | _ => none
  | _ => none

/-- The set with the dashes at the start of a text, which stand for themselves. -/
def readDashes (mode : Mode) : Nat → CharSet × Bool → List Char →
    Option ((CharSet × Bool) × List Char)
  | 0, _, _ => none
  | fuel + 1, (set, any), cs =>
    match cs with
    | '-' :: rest => do
      let dash ← mode.range? '-' '-'
      readDashes mode fuel (set.union dash, true) (mode.skip rest)
    | cs => some ((set, any), cs)

mutual

/-- A set in brackets, after the bracket that opens it. -/
def readSet (fuel : Nat) (mode : Mode) (cs : List Char) : Option (CharSet × List Char) :=
  match fuel with
  | 0 => none
  | fuel + 1 => do
    let (negated, cs) := match mode.skip cs with
      | '^' :: rest => (true, mode.skip rest)
      | rest => (false, rest)
    let ((set, any), cs) ← readDashes mode (cs.length + 1) (.none, false) cs
    let (set, cs) ← match any, cs with
      | false, ']' :: rest => (mode.range? ']' ']').map (·, rest)
      | _, cs => some (set, cs)
    let (set, rest) ← readSetItems fuel mode none set cs
    return (← if negated then mode.compl? set else some set, rest)

/-- The items of a set, through the bracket that closes it. -/
def readSetItems (fuel : Nat) (mode : Mode) (pending : Option (CharSet × SetOp)) (set : CharSet)
    (cs : List Char) : Option (CharSet × List Char) :=
  match fuel with
  | 0 => none
  | fuel + 1 =>
    match mode.skip cs with
    | [] => none
    | ']' :: rest => some (finishSet pending set, rest)
    | '&' :: '&' :: rest =>
      readSetItems fuel mode (some (finishSet pending set, .inter)) .none rest
    | '-' :: '-' :: rest =>
      readSetItems fuel mode (some (finishSet pending set, .diff)) .none rest
    | '~' :: '~' :: rest =>
      readSetItems fuel mode (some (finishSet pending set, .symmDiff)) .none rest
    | '[' :: rest =>
      match readClass? rest with
      | some ((negated, ranges), rest) => do
        let item ← mode.ranges? ranges
        let item ← if negated then mode.compl? item else some item
        readSetItems fuel mode pending (set.union item) rest
      | none => do
        let (item, rest) ← readSet fuel mode rest
        readSetItems fuel mode pending (set.union item) rest
    | cs => do
      let (item, rest) ← readSetRange mode cs
      readSetItems fuel mode pending (set.union item) rest

end

/-! ## Groups -/

def readName (names : List (List Char)) (cs : List Char) : Option (List Char × List Char) :=
  match cs.span (· != '>') with
  | (first :: more, _ :: rest) =>
    if (first == '_' || isAlphabetic first)
        && (more.all fun c => c == '_' || c == '.' || c == '[' || c == ']' || isAlphanumeric c)
        && !names.contains (first :: more) then
      some (first :: more, rest)
    else none
  | _ => none

/-- Flags, up to the colon or the parenthesis that ends them; `seen` are the flags so far and
`negated` says that a dash came before. -/
def readFlags (mode : Mode) (seen : List Char) (negated : Bool) : List Char →
    Option (Mode × List Char)
  | [] => none
  | c :: cs =>
    if c = ':' ∨ c = ')' then
      if seen.head? = some '-' then none else some (mode, c :: cs)
    else if seen.contains c then none
    else if c = '-' then readFlags mode (c :: seen) true cs
    else do readFlags (← mode.set? (!negated) c) (c :: seen) negated cs

/-- The branches of an alternative, up to the end of the text or of the group. `branches` are those
already read, `items` the parts of the current branch read backwards, where flags are no pattern,
and `names` the names of groups that are taken. -/
def readBranches (fuel : Nat) (mode : Mode) (names : List (List Char)) (branches : Option Pattern)
    (items : List (Option Pattern)) (cs : List Char) :
    Option (Pattern × List (List Char) × List Char) :=
  match fuel with
  | 0 => none
  | fuel + 1 =>
    let branch := seqAll (items.reverse.filterMap id)
    let all := (branches.map (·.alt branch)).getD branch
    let take (p : Option Pattern) (rest : List Char) :
        Option (Pattern × List (List Char) × List Char) :=
      p.bind fun p => readBranches fuel mode names branches (some p :: items) rest
    let group (inner : Mode) (names : List (List Char)) (rest : List Char) :
        Option (Pattern × List (List Char) × List Char) :=
      match readBranches fuel inner names none [] rest with
      | some (p, names, ')' :: rest) => readBranches fuel mode names branches (some p :: items) rest
      | _ => none
    let repeated (rounds : Bool → Pattern → Pattern) (rest : List Char) :
        Option (Pattern × List (List Char) × List Char) :=
      match items with
      | some p :: items =>
        let (marked, rest) := match rest with
          | '?' :: rest => (true, rest)
          | rest => (false, rest)
        readBranches fuel mode names branches
          (some (rounds (marked == mode.reluctant) p) :: items) rest
      | _ => none
    match mode.skip cs with
    | [] => some (all, names, [])
    | ')' :: rest => some (all, names, ')' :: rest)
    | '|' :: rest => readBranches fuel mode names (some all) [] rest
    | '?' :: rest => repeated optional rest
    | '*' :: rest => repeated star rest
    | '+' :: rest => repeated plus rest
    | '\x7b' :: _ => none
    | '.' :: rest => take mode.dot? rest
    | '^' :: rest => take (some (.anchor mode.startAnchor)) rest
    | '$' :: rest => take (some (.anchor mode.finishAnchor)) rest
    | '[' :: rest => do
      let (set, rest) ← readSet (2 * rest.length + 2) mode rest
      take (some (.char set)) rest
    | '\\' :: rest => do
      let (escape, rest) ← readEscape mode rest
      match escape with
      | .char c => take (mode.literal? c) rest
      | .set set => take (some (.char set)) rest
      | .anchor a => take (some (.anchor a)) rest
    | '(' :: rest =>
      match mode.skip rest with
      | '?' :: 'P' :: '<' :: rest | '?' :: '<' :: rest => do
        let (name, rest) ← readName names rest
        group mode (name :: names) rest
      | '?' :: rest => do
        let (inner, after) ← readFlags mode [] false rest
        match after with
        | ':' :: after => group inner names after
        | _ :: after =>
          if rest.head? = some ')' then none
          else readBranches fuel inner names branches (none :: items) after
        | [] => none
      | rest => group mode names rest
    | c :: rest => take (mode.literal? c) rest

def read? (s : String) : Option Pattern :=
  match readBranches (s.toList.length + 1) .initial [] none [] s.toList with
  | some (p, _, []) => some p
  | _ => none

end EntropyTables.Text.Pattern
