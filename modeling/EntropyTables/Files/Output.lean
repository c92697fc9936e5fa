import EntropyTables.Files.System
/-!
# Replacing a file

`replaceFile` writes the new text to a sibling of the file first and then gives that sibling the
name of the file, so that the file holds either its earlier text or the whole new one. The
directories around the file are made if they are missing.
-/
namespace EntropyTables.Output

variable {m : Type → Type} [Monad m] [System m]

/-- `create_dir_all`: makes the first of the directories, and before it the others as far as they
are missing; they are given innermost first. -/
def makeDirectories : List Path → m (Except Fault Unit)
  | [] => return .ok ()
  | p :: around => do
    match ← System.makeDirectory p with
    | .ok () => return .ok ()
    | .error .notFound =>
      match ← makeDirectories around with
      | .error fault => return .error fault
      | .ok () =>
        match ← System.makeDirectory p with
        | .ok () => return .ok ()
        | .error fault => return if ← System.isDirectory p then .ok () else .error fault
    | .error fault => return if ← System.isDirectory p then .ok () else .error fault

/-- `temp_path_for`: the sibling that holds the new text of a file until it is complete. -/
def sibling (p : Path) : Path := p.withFileName (p.fileName?.getD "output" ++ ".tmp")

/-- Gives the file the new text by way of its sibling: `write_temp`, then `rename`. -/
def storeAndMove (p : Path) (text : String) : m (Except TableError Unit) := do
  match ← System.store (sibling p) text.toUTF8 with
  | .error fault => return .error (.io .creating (sibling p) fault)
  | .ok () =>
    match ← System.move (sibling p) p with
    | .error fault => return .error (.io .replacing p fault)
    | .ok () => return .ok ()

/-- `write_output`: gives the file the new text, or leaves it as it is. -/
def replaceFile (p : Path) (text : String) : m (Except TableError Unit) := do
  if let some parent := p.parent? then
    if let .error fault ← makeDirectories parent.ancestors then
      return .error (.io .creatingDirectory parent fault)
  let result ← storeAndMove p text
  if let .error _ := result then
    let _ ← System.remove (sibling p)
  return result

end EntropyTables.Output
