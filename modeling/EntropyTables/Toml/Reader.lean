import EntropyTables.Toml.Draft
import EntropyTables.Toml.Scalar
/-!
# Reading a configuration document

A reader takes what it reads from the start of the text and answers with the rest; no answer means
that the text is no document. Between statements, and inside brackets, comments and line breaks may
stand; a carriage return counts only before a line feed.
-/
namespace EntropyTables.Toml

/-- What is left of the text after something was read from its start. -/
abbrev Reader (α : Type) := List Char → Option (α × List Char)

/-! ## Between the values -/

def isPlain (c : Char) : Bool := c == '\t' || (0x20 ≤ c.toNat && c.toNat != 0x7f)

def skipSpace (cs : List Char) : List Char := cs.dropWhile isSpace

/-- The text after blanks, line breaks and comments; `comment` says that a comment has begun. -/
def skipFiller (comment : Bool) : List Char → Option (List Char)
  | [] => some []
  | c :: cs =>
    if c = '\n' then skipFiller false cs
    else if c = '\r' then
      if cs.head? = some '\n' then skipFiller false cs else none
    else if comment then
      if isPlain c then skipFiller true cs else none
    else if isSpace c then skipFiller false cs
    else if c = '#' then skipFiller true cs
    else some (c :: cs)

def endStatement (cs : List Char) : Option (List Char) :=
  let rest := skipSpace cs
  if rest.head?.all fun c => c == '\n' || c == '\r' || c == '#' then skipFiller false rest else none

/-! ## Strings -/

def hexValue (c : Char) : Nat :=
  if c.isDigit then c.toNat - '0'.toNat else c.toLower.toNat - 'a'.toNat + 10

def charOfHex? (digits : List Char) : Option Char :=
  if digits.all isHexDigit then
    let n := digits.foldl (fun n c => 16 * n + hexValue c) 0
    if n.isValidChar then some (Char.ofNat n) else none
  else none

/-- The character of an escape by code point with `n` digits. -/
def readHex (n : Nat) : Reader Char := fun cs =>
  if n ≤ cs.length then (charOfHex? (cs.take n)).map (·, cs.drop n) else none

/-- The character that follows a backslash stands for. -/
def readEscape : Reader Char
  | 'b' :: cs => some ('\x08', cs)
  | 't' :: cs => some ('\t', cs)
  | 'n' :: cs => some ('\n', cs)
  | 'f' :: cs => some ('\x0c', cs)
  | 'r' :: cs => some ('\r', cs)
  | 'e' :: cs => some ('\x1b', cs)
  | '"' :: cs => some ('"', cs)
  | '\\' :: cs => some ('\\', cs)
  | 'x' :: cs => readHex 2 cs
  | 'u' :: cs => readHex 4 cs
  | 'U' :: cs => readHex 8 cs
  | _ => none

/-- The rest of a string in double quotes, after its first quote. -/
def readBasic : Nat → List Char → Reader String
  | 0, _, _ => none
  | fuel + 1, read, cs =>
    match cs with
    | '"' :: rest => some (String.ofList read.reverse, rest)
    | '\\' :: rest => do
      let (c, rest) ← readEscape rest
      readBasic fuel (c :: read) rest
    | c :: rest => if isPlain c then readBasic fuel (c :: read) rest else none
    | [] => none

/-- The rest of a string in single quotes, after its first quote. -/
def readLiteral (cs : List Char) : Option (String × List Char) :=
  match cs.span (· != '\x27') with
  | (text, _ :: rest) => if text.all isPlain then some (String.ofList text, rest) else none
  | (_, []) => none

def dropNewline : List Char → List Char
  | '\n' :: cs => cs
  | '\r' :: '\n' :: cs => cs
  | cs => cs

/-- The character at the start of the text may stand in a string of several lines. -/
def startsPlain : List Char → Bool
  | '\r' :: '\n' :: _ => true
  | c :: _ => c == '\n' || isPlain c
  | [] => false

/-- The end of a string of several lines, if the text starts with one: up to two quotes before the
three that end it belong to the string. -/
def closing? (mark : Char) (cs : List Char) : Option (List Char × List Char) :=
  let quotes := ((cs.takeWhile (· == mark)).take 5).length
  if 3 ≤ quotes then some (List.replicate (quotes - 3) mark, cs.drop quotes) else none

def skipBreaks : List Char → List Char
  | '\r' :: '\n' :: cs => skipBreaks cs
  | c :: cs => if isSpace c || c == '\n' then skipBreaks cs else c :: cs
  | [] => []

/-- The text after a backslash that joins lines: all blanks and line breaks go, at least one of them
a line break. -/
def skipJoint (cs : List Char) : Option (List Char) :=
  match skipSpace cs with
  | '\n' :: rest => some (skipBreaks rest)
  | '\r' :: '\n' :: rest => some (skipBreaks rest)
  | _ => none

/-- The rest of a string of several lines, after the quotes that start it and a line break. -/
def readLines (mark : Char) : Nat → List Char → Reader String
  | 0, _, _ => none
  | fuel + 1, read, cs =>
    match closing? mark cs with
    | some (quotes, rest) => some (String.ofList (read.reverse ++ quotes), rest)
    | none =>
      match cs with
      | [] => none
      | c :: rest =>
        if c = '\\' ∧ mark = '"' then
          match skipJoint rest with
          | some rest => readLines mark fuel read rest
          | none => do
            let (c, rest) ← readEscape rest
            readLines mark fuel (c :: read) rest
        else if startsPlain cs then readLines mark fuel (c :: read) rest
        else none

/-- A string of any kind; `several` allows those of several lines. -/
def readString (several : Bool) : Reader String
  | '"' :: '"' :: '"' :: cs =>
    if several then readLines '"' (cs.length + 1) [] (dropNewline cs) else none
  | '"' :: cs => readBasic (cs.length + 1) [] cs
  | '\x27' :: '\x27' :: '\x27' :: cs =>
    if several then readLines '\x27' (cs.length + 1) [] (dropNewline cs) else none
  | '\x27' :: cs => readLiteral cs
  | _ => none

/-! ## Keys -/

def isKeyChar (c : Char) : Bool := c.isAlphanum || c == '-' || c == '_'

def readKeyPart (cs : List Char) : Option (String × List Char) :=
  match cs with
  | '"' :: _ | '\x27' :: _ => readString false cs
  | _ =>
    match cs.span isKeyChar with
    | ([], _) => none
    | (part, rest) => some (String.ofList part, rest)

/-- The greatest number of parts of a key. -/
def maxParts : Nat := 80

/-- The parts of a key before the last, and the last; the key has at most `parts` of them. -/
def readKey (parts : Nat) (cs : List Char) : Option ((List String × String) × List Char) :=
  match parts with
  | 0 => none
  | parts + 1 => do
    let (part, rest) ← readKeyPart (skipSpace cs)
    match skipSpace rest with
    | '.' :: rest =>
      let ((around, key), rest) ← readKey parts rest
      return ((part :: around, key), rest)
    | rest => return (([], part), rest)

/-! ## Values -/

def maxDepth : Nat := 80

mutual

/-- A value; `depth` more brackets may be opened. -/
def readValue (fuel depth : Nat) (cs : List Char) : Option (Value × List Char) :=
  match fuel with
  | 0 => none
  | fuel + 1 =>
    match cs, depth with
    | '"' :: _, _ | '\x27' :: _, _ => (readString true cs).map fun (s, rest) => (.string s, rest)
    | '[' :: rest, depth + 1 => do
      let (items, rest) ← readItems fuel depth (← skipFiller false rest)
      return (.array items, rest)
    | '\x7b' :: rest, depth + 1 => do
      let (pairs, rest) ← readPairs fuel depth (← skipFiller false rest)
      return (← Draft.inline pairs, rest)
    | _, _ =>
      let (text, rest) := spanScalar cs
      if isScalar text then some (.scalar, rest) else none

/-- The items of an array, through its closing bracket. -/
def readItems (fuel depth : Nat) (cs : List Char) : Option (List Value × List Char) :=
  match fuel with
  | 0 => none
  | fuel + 1 =>
    match cs with
    | ']' :: rest => some ([], rest)
    | _ => do
      let (item, rest) ← readValue fuel depth cs
      match ← skipFiller false rest with
      | ',' :: rest =>
        let (items, rest) ← readItems fuel depth (← skipFiller false rest)
        return (item :: items, rest)
      | ']' :: rest => return ([item], rest)
      | _ => none

/-- The keys and values of a table in braces, through its closing brace. -/
def readPairs (fuel depth : Nat) (cs : List Char) :
    Option (List (List String × String × Value) × List Char) :=
  match fuel with
  | 0 => none
  | fuel + 1 =>
    match cs with
    | '\x7d' :: rest => some ([], rest)
    | _ => do
      let ((around, key), rest) ← readKey maxParts cs
      match ← skipFiller false rest with
      | '=' :: rest =>
        let (value, rest) ← readValue fuel depth (← skipFiller false rest)
        match ← skipFiller false rest with
        | ',' :: rest =>
          let (pairs, rest) ← readPairs fuel depth (← skipFiller false rest)
          return ((around, key, value) :: pairs, rest)
        | '\x7d' :: rest => return ([(around, key, value)], rest)
        | _ => none
      | _ => none

end

/-! ## Statements -/

def readStatement (cs : List Char) : Option (Statement × List Char) :=
  match cs with
  | '[' :: '[' :: rest => do
    let ((around, key), rest) ← readKey maxParts rest
    match rest with
    | ']' :: ']' :: rest => return (.element around key, rest)
    | _ => none
  | '[' :: rest => do
    let ((around, key), rest) ← readKey maxParts rest
    match rest with
    | ']' :: rest => return (.header around key, rest)
    | _ => none
  | _ => do
    let ((around, key), rest) ← readKey maxParts cs
    match rest with
    | '=' :: rest =>
      let (value, rest) ← readValue (rest.length + 1) maxDepth (skipSpace rest)
      return (.pair around key value, rest)
    | _ => none

def readStatements : Nat → List Char → Option (List Statement)
  | 0, _ => none
  | _ + 1, [] => some []
  | fuel + 1, cs => do
    let (statement, rest) ← readStatement cs
    return statement :: (← readStatements fuel (← endStatement rest))

/-- The text without the mark that may stand at the start of a file. -/
def dropMark : List Char → List Char
  | '\ufeff' :: cs => cs
  | cs => cs

def read? (text : String) : Option Value := do
  let cs ← skipFiller false (dropMark text.toList)
  Draft.assemble (← readStatements (cs.length + 1) cs)

end EntropyTables.Toml
