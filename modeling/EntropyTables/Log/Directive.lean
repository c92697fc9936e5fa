import EntropyTables.Log.Event
import EntropyTables.Text.Decimal
import EntropyTables.Text.Pattern.Reader
/-!
# Filter directives

A `Directive` is one rule of a filter: a threshold, and the scope that it holds in. A scope can name
the start of the places it speaks of, a span, and a field with a pattern for its value, as in
`lut_core[generate{table=ca.*}]=debug`. A directive that is only a level holds everywhere.

The parts of a directive are found in its text without the blanks around it, and are then taken from
the text with them at the bytes counted there. So blanks before a directive shift its parts, and a
cut within a character spoils it.
-/
namespace EntropyTables.Log

structure FieldTest where
  name : String
  /-- The pattern for the value, if any value will not do. -/
  value : Option String
  deriving DecidableEq, Repr, Inhabited

/-- Where a directive holds. -/
structure Scope where
  /-- What the names of the places start with. -/
  target : Option String
  /-- The name of the span. -/
  span : Option String
  /-- A field of the event or of the span. -/
  field : Option FieldTest
  deriving DecidableEq, Repr, Inhabited

structure Directive where
  scope : Scope
  threshold : Threshold
  deriving DecidableEq, Repr, Inhabited

/-! ## Thresholds -/

/-- The threshold that a text spells: a number up to five or a name in any case. -/
def Threshold.ofText? (text : List Char) : Option Threshold :=
  let digits := match text with
    | '+' :: cs => cs
    | cs => cs
  match Text.readNat? digits with
  | some n => if n ≤ 5 then some (Threshold.ofRank n) else none
  | none =>
    let wanted := text.map Char.toLower
    (none :: Level.all.map some).find? fun t => (Threshold.name t).toList == wanted

/-- The threshold after the equals sign of a directive; nothing there stands for everything. -/
def Threshold.after? (text : List Char) : Option Threshold :=
  if text.isEmpty then some (some .trace) else Threshold.ofText? text

/-! ## Fields -/

namespace FieldTest

/-- The text is a number, which may have a fraction, an exponent or a special name. -/
def isNumber (text : List Char) : Bool :=
  let unsigned := match text with
    | '+' :: cs => cs
    | '-' :: cs => cs
    | cs => cs
  if ["inf", "infinity", "nan"].contains (String.ofList (unsigned.map Char.toLower)) then true
  else
    let (whole, rest) := unsigned.span Char.isDigit
    let (fraction, rest) := match rest with
      | '.' :: rest => rest.span Char.isDigit
      | rest => ([], rest)
    let exponent := match rest with
      | [] => true
      | e :: '+' :: digits => (e == 'e' || e == 'E') && !digits.isEmpty && digits.all Char.isDigit
      | e :: '-' :: digits => (e == 'e' || e == 'E') && !digits.isEmpty && digits.all Char.isDigit
      | e :: digits => (e == 'e' || e == 'E') && !digits.isEmpty && digits.all Char.isDigit
    !(whole ++ fraction).isEmpty && exponent

/-- The test that a text spells: a name, or a name with a number or a pattern for the value. -/
def ofText? (text : List Char) : Option FieldTest :=
  match text.splitOn '=' with
  | name :: value :: _ =>
    let value' := String.ofList value
    if isNumber value || (Text.Pattern.read? value').isSome then
      some ⟨String.ofList name, some value'⟩
    else none
  | _ => if text.isEmpty then none else some ⟨String.ofList text, none⟩

/-- The test holds of a value that is a text. No text is equal to a number. -/
def holdsOf (test : FieldTest) (value : String) : Bool :=
  test.value.all fun pattern =>
    !isNumber pattern.toList
      && (Text.Pattern.read? pattern).any fun p => p.matchesToEnd value

end FieldTest

/-! ## Directives -/

namespace Directive

def canStart (c : Char) : Bool :=
  c == '-' || c == ':' || c == '_' || Text.isAlphanumeric c

def byteSize (cs : List Char) : Nat := cs.foldl (fun n c => n + c.utf8Size) 0

/-- The text after its first `n` bytes, if a character starts there. -/
def dropBytes : Nat → List Char → Option (List Char)
  | 0, cs => some cs
  | _ + 1, [] => none
  | n + 1, c :: cs => if c.utf8Size ≤ n + 1 then dropBytes (n + 1 - c.utf8Size) cs else none

/-- The first `n` bytes of a text, if a character ends there. -/
def takeBytes : Nat → List Char → Option (List Char)
  | 0, _ => some []
  | _ + 1, [] => none
  | n + 1, c :: cs =>
    if c.utf8Size ≤ n + 1 then (takeBytes (n + 1 - c.utf8Size) cs).map (c :: ·) else none

/-- As many bytes as `part` has, from the byte `start` on. -/
def cut? (text : List Char) (start : Nat) (part : List Char) : Option (List Char) :=
  (dropBytes start text).bind (takeBytes (byteSize part))

/-- The threshold that ends a directive, after its scope; `start` is the byte at which `rest`, what
is left to read, starts. -/
def thresholdFrom? (text : List Char) (start : Nat) : (rest : List Char) → Option Threshold
  | [] => some (some .trace)
  | '=' :: _ => (dropBytes (start + 1) text).bind Threshold.after?
  | _ => none

/-- The span and the field of a directive, after the bracket that opens them, with the byte at which
what follows them starts, and what follows them. -/
def span? (text : List Char) (start : Nat) (inner : List Char) :
    Option ((Option String × Option FieldTest) × Nat × List Char) :=
  let (span, rest) := inner.span fun c => c != ']' && c != '\x7b'
  let name := (cut? text start span).map String.ofList
  let start := start + byteSize span + 1
  match rest with
  | ']' :: rest => name.map fun name => ((some name, none), start, rest)
  | '\x7b' :: inside =>
    let (field, rest) := inside.span (· != '\x7d')
    match rest with
    | '\x7d' :: ']' :: rest => do
      let test ← FieldTest.ofText? (← cut? text start field)
      let name := (← name)
      return ((if span.isEmpty then none else some name, some test),
        start + byteSize field + 2, rest)
    | _ => none
  | _ => none

def ofText? (text : List Char) : Option Directive :=
  let (target, rest) := (Text.trim text).span fun c => c != '=' && c != '['
  if !target.head?.all canStart then none
  else
    match rest with
    | [] =>
      if target.isEmpty then none
      else
        match Threshold.ofText? text with
        | some t => some ⟨⟨none, none, none⟩, t⟩
        | none => some ⟨⟨some (String.ofList text), none, none⟩, some .trace⟩
    | '[' :: inner => do
      let ((span, field), start, rest) ← span? text (byteSize target + 1) inner
      let name := (← cut? text 0 target)
      return ⟨⟨if target.isEmpty then none else some (String.ofList name), span, field⟩,
        ← thresholdFrom? text start rest⟩
    | rest =>
      if target.isEmpty then none
      else do
        let name := (← cut? text 0 target)
        return ⟨⟨some (String.ofList name), none, none⟩,
          ← thresholdFrom? text (byteSize target) rest⟩

end Directive

end EntropyTables.Log
