import EntropyTables.Files.Tree
/-!
# The system around a run

`System` is what a run may ask of the system around it: files, a console and a log. `World` is a
system as a value, for which a run is a plain function of the state before it.
-/
namespace EntropyTables

/-- The bytes of a text are read as the text. -/
theorem fromUTF8?_toUTF8 (text : String) : String.fromUTF8? text.toUTF8 = some text := by
  rw [String.fromUTF8?, String.toUTF8_eq_toByteArray, dif_pos text.isValidUTF8]
  rfl

/-! ## Console -/

/-- A console that asks and answers. -/
class Console (m : Type → Type) where
  /-- Writes text to standard output. -/
  write : String → m (Except Fault Unit)
  /-- Passes on what was written. -/
  flush : m (Except Fault Unit)
  /-- Takes the bytes of standard input through the next line feed. -/
  readLine : m ByteArray

/-- A console as a value. -/
structure Terminal where
  /-- The bytes that nobody has read yet. -/
  input : List UInt8
  /-- What was written. -/
  shown : String
  /-- The fault of every write. -/
  writeFault : Option Fault
  /-- The fault of every flush. -/
  flushFault : Option Fault
  deriving DecidableEq

namespace Terminal

/-- The console before the first write, with the given input and no faults. -/
def ofInput (input : List UInt8) : Terminal := ⟨input, "", none, none⟩

def answer : Option Fault → Except Fault Unit
  | none => .ok ()
  | some fault => .error fault

/-- Splits bytes after the first line feed. -/
def splitLine (bytes : List UInt8) : List UInt8 × List UInt8 :=
  match bytes.span (· != 10) with
  | (line, feed :: rest) => (line ++ [feed], rest)
  | (line, []) => (line, [])

instance : Console (StateM Terminal) where
  write text := modifyGet fun t =>
    (answer t.writeFault,
      if t.writeFault.isNone then { t with shown := t.shown ++ text } else t)
  flush := modifyGet fun t => (answer t.flushFault, t)
  readLine := modifyGet fun t =>
    let (line, rest) := splitLine t.input
    (⟨line.toArray⟩, { t with input := rest })

end Terminal

/-! ## System -/

/-- What a run may ask of the system around it. -/
class System (m : Type → Type) extends Console m where
  /-- The bytes of a file. -/
  load : Path → m (Except Fault ByteArray)
  /-- The path leads to a file. -/
  isFile : Path → m Bool
  /-- The path leads to a directory. -/
  isDirectory : Path → m Bool
  /-- Makes one directory. -/
  makeDirectory : Path → m (Except Fault Unit)
  /-- Makes a file hold the bytes and nothing else. -/
  store : Path → ByteArray → m (Except Fault Unit)
  /-- Gives a file another name, in place of any file that has it. -/
  move : Path → Path → m (Except Fault Unit)
  /-- Removes a file. -/
  remove : Path → m (Except Fault Unit)
  /-- Writes text to standard error. -/
  complain : String → m Unit
  /-- Sends the log to the end of a file from now on. -/
  openLog : Path → m (Except Fault Unit)
  /-- Writes text to the log, which is standard error until a file is opened. -/
  log : String → m Unit
  /-- The present time, as the log shows it. -/
  now : m String

inductive LogPlace where
  | standardError
  /-- The file at a location. -/
  | file (location : Location)
  /-- A file that has lost its name. -/
  | nameless
  deriving DecidableEq, Repr

namespace LogPlace

/-- Where the log goes after a file was moved: it follows its file. -/
def afterMove (source target : Option Location) : LogPlace → LogPlace
  | .file location =>
    if source = some location then target.elim .nameless .file
    else if target = some location then .nameless
    else .file location
  | other => other

/-- Where the log goes after a file was removed. -/
def afterRemove (removed : Option Location) : LogPlace → LogPlace
  | .file location => if removed = some location then .nameless else .file location
  | other => other

end LogPlace

structure World where
  tree : FileTree
  terminal : Terminal
  /-- What was written to standard error. -/
  errors : String
  logPlace : LogPlace
  /-- The time that every log line shows. -/
  clock : String
  deriving DecidableEq

namespace World

/-- The world before a run, with the given files and standard input. -/
def start (tree : FileTree) (input : List UInt8) (clock : String) : World :=
  ⟨tree, .ofInput input, "", .standardError, clock⟩

def onTerminal (operation : StateM Terminal α) : StateM World α := fun w =>
  let (a, terminal) := operation w.terminal
  (a, { w with terminal })

def withTree (w : World) : Except Fault FileTree → Except Fault Unit × World
  | .ok tree => (.ok (), { w with tree })
  | .error fault => (.error fault, w)

/-- Moves a file; a log that goes to it goes on there. -/
def move (w : World) (source target : Path) : Except Fault Unit × World :=
  match w.tree.move source target with
  | .error fault => (.error fault, w)
  | .ok tree =>
    let logPlace := w.logPlace.afterMove (w.tree.location? source) (w.tree.location? target)
    (.ok (), { w with tree, logPlace })

/-- Removes a file; a log that goes to it is lost. -/
def remove (w : World) (p : Path) : Except Fault Unit × World :=
  match w.tree.remove p with
  | .error fault => (.error fault, w)
  | .ok tree =>
    (.ok (), { w with tree, logPlace := w.logPlace.afterRemove (w.tree.location? p) })

/-- Opens a file for the log, which is made if there is none. -/
def openLog (w : World) (p : Path) : Except Fault Unit × World :=
  match w.tree.writable p with
  | .error fault => (.error fault, w)
  | .ok location =>
    let tree :=
      if (w.tree.node? location).isSome then w.tree else w.tree.put location (.file .empty)
    (.ok (), { w with tree, logPlace := .file location })

def log (w : World) (text : String) : World :=
  match w.logPlace with
  | .standardError => { w with errors := w.errors ++ text }
  | .file location => { w with tree := w.tree.append location text.toUTF8 }
  | .nameless => w

instance : System (StateM World) where
  write text := onTerminal (Console.write text)
  flush := onTerminal Console.flush
  readLine := onTerminal Console.readLine
  load p := do return (← get).tree.load p
  isFile p := do return (← get).tree.isFile p
  isDirectory p := do return (← get).tree.isDirectory p
  makeDirectory p := modifyGet fun w => w.withTree (w.tree.makeDirectory p)
  store p bytes := modifyGet fun w => w.withTree (w.tree.store p bytes)
  move source target := modifyGet fun w => w.move source target
  remove p := modifyGet fun w => w.remove p
  complain text := modify fun w => { w with errors := w.errors ++ text }
  openLog p := modifyGet fun w => w.openLog p
  log text := modify fun w => w.log text
  now := do return (← get).clock

end World

end EntropyTables
