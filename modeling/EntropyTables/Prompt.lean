import EntropyTables.Files.System
/-!
# Asking for the form of the CAVLC table

The question is shown before the answer is read, and exactly one line is taken from the input.
-/
namespace EntropyTables.Prompt

variable {m : Type → Type} [Monad m] [Console m]

/-- `CAVLC_PROMPT`, which is shown before the answer. -/
def question : String := "Select output: 1 = generate LUT, 2 = generate sizes: "

def failed (fault : Fault) : TableError := .io .prompting ⟨"stdio"⟩ fault

/-- The form that the bytes of an answer choose. -/
def chosen (answer : ByteArray) : Except TableError CavlcMode :=
  match String.fromUTF8? answer with
  | none => .error (failed .notUtf8)
  | some text => CavlcMode.ofChoice text

/-- `read_cavlc_mode`: asks for the form of the table. -/
def ask : m (Except TableError CavlcMode) := do
  if let .error fault ← Console.write question then return .error (failed fault)
  if let .error fault ← Console.flush then return .error (failed fault)
  return chosen (← Console.readLine)

end EntropyTables.Prompt
