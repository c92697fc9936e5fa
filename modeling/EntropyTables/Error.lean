import EntropyTables.Path
import EntropyTables.Table
import EntropyTables.Text.Decimal
import EntropyTables.Text.Quoted
/-!
# What can go wrong

A `Fault` is what the system around a run can answer instead of doing what it is asked. A
`TableError` is what a run can report about a table; it holds the values that point at the offending
line, so that a caller can branch on the cause and need not read the message.
-/
namespace EntropyTables

/-- A refusal of the system. -/
inductive Fault where
  | notFound
  | alreadyExists
  | isADirectory
  | notADirectory
  | busy
  | nameTooLong
  /-- A path holds a null character. -/
  | nullInPath
  /-- Bytes that should be UTF-8 text are not. -/
  | notUtf8
  | brokenPipe
  | timedOut
  /-- Any other refusal, in the words of the system. -/
  | refused (reason : String)
  deriving DecidableEq, Repr, Inhabited

def Fault.message : Fault → String
  | .notFound => "No such file or directory (os error 2)"
  | .alreadyExists => "File exists (os error 17)"
  | .isADirectory => "Is a directory (os error 21)"
  | .notADirectory => "Not a directory (os error 20)"
  | .busy => "Device or resource busy (os error 16)"
  | .nameTooLong => "File name too long (os error 36)"
  | .nullInPath => "file name contained an unexpected NUL byte"
  | .notUtf8 => "stream did not contain valid UTF-8"
  | .brokenPipe => "broken pipe"
  | .timedOut => "timed out"
  | .refused reason => reason

/-- What a run was doing with a file or stream. -/
inductive Activity where
  | reading
  | creatingDirectory
  | creating
  | replacing
  | prompting
  deriving DecidableEq, Repr, Inhabited

/-- The activity as it stands after `failed to`. -/
def Activity.phrase : Activity → String
  | .reading => "read"
  | .creatingDirectory => "create directory"
  | .creating => "create"
  | .replacing => "replace"
  | .prompting => "prompt on"

/-- What a run can report about a table (`LutError`). -/
inductive TableError where
  /-- A line does not match the grammar of its table. -/
  | malformedLine (lineNumber : Nat) (line reason : String)
  /-- An index is declared twice. -/
  | duplicateIndex (index : Int) (line firstLine : Nat)
  /-- An index of the domain is absent. -/
  | missingIndex (index : Int)
  /-- An index lies outside the domain of its table. -/
  | indexOutOfRange (index : Int) (line domain : Nat)
  /-- The answer to the mode prompt is neither `1` nor `2`. -/
  | invalidChoice (input : String)
  /-- The system refused. -/
  | io (activity : Activity) (path : Path) (fault : Fault)
  deriving DecidableEq, Repr, Inhabited

namespace TableError

/-- The message of a refusal, from the texts of its parts. -/
def ioMessage (activity path fault : String) : String :=
  "failed to " ++ activity ++ " " ++ path ++ ": " ++ fault

def message : TableError → String
  | .malformedLine lineNumber line reason =>
    "malformed line " ++ Text.decimal lineNumber ++ ": " ++ reason ++ ": " ++ Text.quoted line
  | .duplicateIndex index line firstLine =>
    "duplicate index " ++ Text.decimal index ++ " on line " ++ Text.decimal line
      ++ " (first seen on line " ++ Text.decimal firstLine ++ ")"
  | .missingIndex index => "missing index " ++ Text.decimal index
  | .indexOutOfRange index line domain =>
    "index " ++ Text.decimal index ++ " on line " ++ Text.decimal line ++ " is outside 0.."
      ++ Text.decimal domain
  | .invalidChoice input => "invalid choice " ++ Text.quoted input ++ ", expected 1 or 2"
  | .io activity path fault => ioMessage activity.phrase path.text fault.message

/-- The messages of the error and of its causes, outermost first. -/
def messages (e : TableError) : List String :=
  match e with
  | .io _ _ fault => [e.message, fault.message]
  | _ => [e.message]

end TableError

/-- `CavlcMode::from_choice`: the form that an answer to the prompt chooses, `1` for the codewords
and `2` for the widths. -/
def CavlcMode.ofChoice (answer : String) : Except TableError CavlcMode :=
  let choice := Text.trimmed answer
  if choice = "1" then .ok .lut
  else if choice = "2" then .ok .sizes
  else .error (.invalidChoice choice)

end EntropyTables
