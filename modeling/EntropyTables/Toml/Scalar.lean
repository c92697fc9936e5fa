/-!
# Numbers, truth values, dates and times

The texts that stand for a value without quotes or brackets: where such a text ends, and which texts
are one. Only their shape matters, so there is a test for it and no value.
-/
namespace EntropyTables.Toml

def isSpace (c : Char) : Bool := c == ' ' || c == '\t'

def isStop (c : Char) : Bool := "=,[]\x7b\x7d#\r\n".toList.contains c

/-- The character can start a run of such a text after a blank. -/
def startsRun (c : Char) : Bool := !isStop c && c != '.' && c != '"' && c != '\x27'

/-- The text that a value without quotes or brackets takes at the start of `cs`, and what follows
it. Blanks belong to it only between its parts. -/
def spanScalar : List Char → List Char × List Char
  | [] => ([], [])
  | c :: cs =>
    if isStop c || (isSpace c && !(cs.dropWhile isSpace).head?.any startsRun) then ([], c :: cs)
    else
      let (text, rest) := spanScalar cs
      (c :: text, rest)

/-! ## Numbers -/

def dropSign : List Char → List Char
  | '+' :: cs => cs
  | '-' :: cs => cs
  | cs => cs

/-- Every underscore stands between two digits; `before` says that a digit comes before the text. -/
def joinsDigits (isDigit : Char → Bool) (before : Bool) : List Char → Bool
  | [] => true
  | '_' :: cs => before && cs.head?.any isDigit && joinsDigits isDigit false cs
  | c :: cs => joinsDigits isDigit (isDigit c) cs

def isHexDigit (c : Char) : Bool := c.isDigit || ('a' ≤ c && c ≤ 'f') || ('A' ≤ c && c ≤ 'F')

/-- Digits of a base, with underscores between them; there may be none. -/
def isBased (isDigit : Char → Bool) (cs : List Char) : Bool :=
  cs.all (fun c => isDigit c || c == '_') && joinsDigits isDigit false cs

/-- There is a digit, and a leading zero only if it is the one digit. -/
def isWhole (cs : List Char) : Bool :=
  let digits := cs.filter Char.isDigit
  digits.length == 1 || (1 < digits.length && cs.head? != some '0')

def spanDigits (cs : List Char) : List Char × List Char :=
  cs.span fun c => c.isDigit || c == '_'

/-- Nothing, or an exponent: its letter, a sign or none, and digits. -/
def isExponent : List Char → Bool
  | [] => true
  | c :: cs =>
    let (digits, rest) := spanDigits (dropSign cs)
    (c == 'e' || c == 'E') && digits.any Char.isDigit && rest.isEmpty

/-- A number with a fraction, an exponent or both, without a sign. -/
def isFloat (cs : List Char) : Bool :=
  let (whole, rest) := spanDigits cs
  joinsDigits Char.isDigit false cs && isWhole whole &&
    match rest with
    | '.' :: rest =>
      let (fraction, rest) := spanDigits rest
      fraction.any Char.isDigit && isExponent rest
    | rest => isExponent rest

/-! ## Dates and times -/

def fixedNat? (n : Nat) (cs : List Char) : Option Nat :=
  if cs.length = n && cs.all Char.isDigit then some (Nat.ofDigitChars 10 cs 0) else none

def daysOf (year month : Nat) : Nat :=
  if month = 2 then
    if year % 4 = 0 ∧ (year % 100 ≠ 0 ∨ year % 400 = 0) then 29 else 28
  else if month = 4 ∨ month = 6 ∨ month = 9 ∨ month = 11 then 30
  else 31

def isDate (cs : List Char) : Bool :=
  match cs.splitOn '-' with
  | [y, m, d] =>
    match fixedNat? 4 y, fixedNat? 2 m, fixedNat? 2 d with
    | some year, some month, some day =>
      1 ≤ month && month ≤ 12 && 1 ≤ day && day ≤ daysOf year month
    | _, _, _ => false
  | _ => false

/-- A number of two digits that is at most `greatest`. -/
def isUpTo (greatest : Nat) (cs : List Char) : Bool :=
  (fixedNat? 2 cs).any (· ≤ greatest)

def isSeconds (cs : List Char) : Bool :=
  let (whole, fraction) := cs.span (· != '.')
  isUpTo 60 whole && (fraction.isEmpty || (1 < fraction.length && fraction.tail.all Char.isDigit))

def isTime (cs : List Char) : Bool :=
  match cs.splitOn ':' with
  | [h, m] => isUpTo 23 h && isUpTo 59 m
  | [h, m, s] => isUpTo 23 h && isUpTo 59 m && isSeconds s
  | _ => false

/-- A time of day with its distance from universal time, or without. -/
def isOffsetTime (cs : List Char) : Bool :=
  match cs.span fun c => c != 'Z' && c != 'z' && c != '+' && c != '-' with
  | (time, []) => isTime time
  | (time, sign :: rest) =>
    if sign = 'Z' ∨ sign = 'z' then isTime time && rest.isEmpty
    else
      isTime time &&
        match rest.splitOn ':' with
        | [h, m] => isUpTo 23 h && isUpTo 59 m
        | _ => false

def isDateTime (cs : List Char) : Bool :=
  isDate cs || isTime cs ||
    (isDate (cs.take 10) && isOffsetTime (cs.drop 11) &&
      match cs[10]? with
      | some c => c == 'T' || c == 't' || c == ' '
      | none => false)

/-! ## Any of them -/

/-- What the characters after the first digits of a decimal text decide: a dash or a colon makes it
a date or a time, a point or an exponent's letter a number with a fraction, and an underscore an
integer. Of an integer only the places of the underscores count, since its digits are read where
it is used. -/
def isDecimalOrTime (cs : List Char) : Bool :=
  let unsigned := dropSign cs
  match unsigned.span Char.isDigit with
  | (digits, []) => isWhole digits
  | (_, c :: rest) =>
    if c = '-' ∨ c = ':' then isDateTime cs
    else if (c :: rest).contains ' ' then false
    else if (c :: rest).any fun c => c == '.' || c == 'e' || c == 'E' then isFloat unsigned
    else c = '_' && unsigned.head? != some '0' && joinsDigits isHexDigit false unsigned

/-- The text stands for a number, a truth value, a date or a time. -/
def isScalar (cs : List Char) : Bool :=
  match cs with
  | '0' :: 'x' :: digits => isBased isHexDigit digits
  | '0' :: 'o' :: digits => isBased (fun c => '0' ≤ c && c ≤ '7') digits
  | '0' :: 'b' :: digits => isBased (fun c => c == '0' || c == '1') digits
  | _ =>
    ["true", "false"].contains (String.ofList cs)
      || ["inf", "nan"].contains (String.ofList (dropSign cs)) || isDecimalOrTime cs

end EntropyTables.Toml
