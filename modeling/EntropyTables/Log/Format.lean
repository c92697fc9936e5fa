import EntropyTables.Log.Filter
/-!
# Log lines

An event becomes one line, in one of three formats. `pretty` puts the span before the message,
`compact` puts its name there and its value at the end, and `json` writes an object. In color the
first two carry the control sequences that a terminal understands.
-/
namespace EntropyTables.Log

/-- How events are written (`LogFormat`). -/
inductive Format where
  | pretty
  | compact
  | json
  deriving DecidableEq, Repr, Inhabited

namespace Format

def name : Format → String
  | pretty => "pretty"
  | compact => "compact"
  | json => "json"

def all : List Format := [pretty, compact, json]

end Format

/-! ## Control sequences -/

/-- A style of terminal text, by its number. -/
abbrev Style := Nat

def bold : Style := 1
def dim : Style := 2
def italic : Style := 3

def Level.color : Level → Style
  | .error => 31
  | .warn => 33
  | .info => 32
  | .debug => 34
  | .trace => 35

def paint (colored : Bool) (style : Style) (text : String) : String :=
  if colored then "\x1b[" ++ Text.decimal style ++ "m" ++ text ++ "\x1b[0m" else text

/-! ## Lines of text -/

def Value.toText : Value → String
  | .text s => s
  | .number n => Text.decimal n
  | .flag b => if b then "true" else "false"

def fieldText (colored : Bool) (field : String × Value) : String :=
  paint colored italic field.1 ++ paint colored dim "=" ++ field.2.toText

/-- The level at the start of a line, in five columns. -/
def levelText (colored : Bool) (level : Level) : String :=
  let label := level.label
  paint colored level.color (String.ofList (List.replicate (5 - label.length) ' ') ++ label)

def fieldTexts (colored : Bool) (fields : List (String × Value)) : String :=
  " ".intercalate (fields.map (fieldText colored))

def Event.body (colored : Bool) (event : Event) : String :=
  " ".intercalate (event.message :: event.fields.map (fieldText colored))

/-- The line of an event with its span before the message. -/
def prettyLine (colored : Bool) (span : Option Table) (event : Event) : String :=
  let spanText := match span with
    | none => ""
    | some table =>
      paint colored bold spanName ++ paint colored bold "\x7b"
        ++ fieldTexts colored (spanFields table) ++ paint colored bold "\x7d"
        ++ paint colored dim ":" ++ " "
  levelText colored event.level ++ " " ++ spanText ++ event.body colored ++ "\n"

/-- The line of an event with the value of its span at the end. -/
def compactLine (colored : Bool) (span : Option Table) (event : Event) : String :=
  let (before, after) := match span with
    | none => ("", "")
    | some table =>
      (paint colored bold spanName ++ ": ",
        " " ++ paint colored dim (fieldTexts colored (spanFields table)))
  levelText colored event.level ++ " " ++ before ++ event.body colored ++ after ++ "\n"

/-! ## Lines of objects -/

def jsonEscape (c : Char) : List Char :=
  if c = '"' then ['\\', '"']
  else if c = '\\' then ['\\', '\\']
  else if c = '\x08' then ['\\', 'b']
  else if c = '\x0c' then ['\\', 'f']
  else if c = '\n' then ['\\', 'n']
  else if c = '\r' then ['\\', 'r']
  else if c = '\t' then ['\\', 't']
  else if c.toNat < 0x20 then
    let digits := Nat.toDigits 16 c.toNat
    ['\\', 'u'] ++ List.replicate (4 - digits.length) '0' ++ digits
  else [c]

def jsonText (s : String) : String :=
  "\"" ++ String.ofList (s.toList.flatMap jsonEscape) ++ "\""

def jsonValue : Value → String
  | .text s => jsonText s
  | .number n => Text.decimal n
  | .flag b => if b then "true" else "false"

/-- An object, from its keys and the texts of their values. -/
def jsonObject (members : List (String × String)) : String :=
  "\x7b" ++ ",".intercalate (members.map fun (key, value) => jsonText key ++ ":" ++ value) ++ "\x7d"

def jsonMembers (fields : List (String × Value)) : List (String × String) :=
  fields.map fun (key, value) => (key, jsonValue value)

/-- The line of an event as an object. -/
def jsonLine (clock : String) (span : Option Table) (event : Event) : String :=
  let spanMembers := match span with
    | none => []
    | some table =>
      let object := jsonObject (jsonMembers (spanFields table ++ [("name", .text spanName)]))
      [("span", object), ("spans", "[" ++ object ++ "]")]
  jsonObject
    ([("timestamp", jsonText clock), ("level", jsonText event.level.label),
      ("fields", jsonObject (jsonMembers (("message", .text event.message) :: event.fields)))]
      ++ spanMembers) ++ "\n"

/-! ## Logging -/

structure Logger where
  filter : Filter
  format : Format
  colored : Bool
  deriving DecidableEq, Repr, Inhabited

namespace Logger

def silent : Logger := ⟨[], .pretty, false⟩

/-- The line of an event, if it is logged. -/
def line? (logger : Logger) (clock : String) (event : Event) : Option String :=
  if logger.filter.admits event then
    let span := if logger.filter.showsSpan then event.span else none
    some <| match logger.format with
      | .pretty => prettyLine logger.colored span event
      | .compact => compactLine logger.colored span event
      | .json => jsonLine clock span event
  else none

end Logger

end EntropyTables.Log
