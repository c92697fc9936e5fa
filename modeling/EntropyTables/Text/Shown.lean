import EntropyTables.Text.Columns
/-!
# What a terminal shows of a text

A terminal takes what follows an escape character for a command, for instance to color the text, and
shows nothing of it. It reads one character after another and keeps a `Reading`: whether it is in a
command, and how that will end.
-/
namespace EntropyTables.Text

inductive Reading where
  | text
  /-- What follows an escape character. -/
  | escape
  /-- The same, after marks that do not end it. -/
  | marked
  /-- The parameters of a command, up to the letter at its end. -/
  | parameters
  /-- A string that belongs to a command. A bell can end it if `bell` is set. -/
  | string (bell : Bool)
  deriving DecidableEq, Repr, Inhabited

namespace Reading

def isCancel (c : Char) : Bool := c == '\x18' || c == '\x1a'

def next (reading : Reading) (c : Char) : Reading :=
  if c = '\x1b' then .escape
  else if isCancel c then .text
  else
    match reading with
    | .text => .text
    | .escape =>
      if c = '[' then .parameters
      else if c = ']' then .string true
      else if c = 'P' ∨ c = 'X' ∨ c = '^' ∨ c = '_' then .string false
      else if ' ' ≤ c ∧ c ≤ '/' then .marked
      else if '0' ≤ c ∧ c ≤ '~' then .text
      else .escape
    | .marked => if '0' ≤ c ∧ c ≤ '~' then .text else .marked
    | .parameters => if '@' ≤ c ∧ c ≤ '~' then .text else .parameters
    | .string bell => if bell && c == '\x07' then .text else .string bell

def isString : Reading → Bool
  | .string _ => true
  | _ => false

end Reading

/-- What is shown of a text. Of a command that is not at its end, `held` has been read, backwards;
if the text ends there, it is no command. -/
def shownFrom (reading : Reading) (held : List Char) : List Char → List Char
  | [] => held.reverse
  | c :: cs =>
    let next := reading.next c
    if next = .text then (if reading = .text then [c] else []) ++ shownFrom .text [] cs
    else shownFrom next (if reading.isString && next == .escape then [] else c :: held) cs

def shown (cs : List Char) : List Char := shownFrom .text [] cs

def shownColumns (cs : List Char) : Nat := columns (shown cs)

end EntropyTables.Text
