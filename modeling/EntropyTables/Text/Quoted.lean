import EntropyTables.Text.Blank
import EntropyTables.Text.Extend
import EntropyTables.Text.Ignorable
import EntropyTables.Text.Unprintable
/-!
# Quoted text

`quoted` puts a text in double quotes so that it stands on one line and shows every character. The
quote and the backslash get a backslash; the tab, the line feed, the carriage return and the null
character are written by letter; any other character that has no shape of its own is written by its
code point in hexadecimal, `\u{1f}`; the rest stand as they are.

Main statement: `escape_ne_nil` (no character is lost).
-/
namespace EntropyTables.Text

/-- The character has no shape that could stand for itself. -/
def isShapeless (c : Char) : Bool :=
  inRanges unprintableRanges c.toNat || inRanges ignorableRanges c.toNat
    || inRanges extendRanges c.toNat

/-- A character by its code point, in lower-case hexadecimal without leading zeros. -/
def codePoint (c : Char) : List Char :=
  ['\\', 'u', '\x7b'] ++ Nat.toDigits 16 c.toNat ++ ['\x7d']

def escape (c : Char) : List Char :=
  if c = '\x00' then ['\\', '0']
  else if c = '\t' then ['\\', 't']
  else if c = '\r' then ['\\', 'r']
  else if c = '\n' then ['\\', 'n']
  else if c = '\\' then ['\\', '\\']
  else if c = '"' then ['\\', '"']
  else if isShapeless c then codePoint c
  else [c]

theorem escape_ne_nil (c : Char) : escape c ≠ [] := by
  unfold escape codePoint
  repeat' split
  all_goals simp

def quote (cs : List Char) : List Char := '"' :: cs.flatMap escape ++ ['"']

def quoted (s : String) : String := String.ofList (quote s.toList)

end EntropyTables.Text
