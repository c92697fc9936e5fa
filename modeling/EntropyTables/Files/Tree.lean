import EntropyTables.Error
/-!
# A tree of files and directories

A `FileTree` maps locations to files and directories, and a path is followed from the root or from
the working directory. There are no links and no permissions. Every operation either answers with
the tree that it leaves or with the fault that the system gives, the first that it meets.

Main statements: `node?_put` and `node?_erase` (what a change does to each location).
-/
namespace EntropyTables

inductive Node where
  | file (bytes : ByteArray)
  | directory

instance : DecidableEq Node
  | .file a, .file b => decidable_of_iff (a.data = b.data) (by simp [ByteArray.ext_iff])
  | .directory, .directory => isTrue rfl
  | .file _, .directory => isFalse nofun
  | .directory, .file _ => isFalse nofun

/-- A place below the root, as the names that lead to it, innermost first. -/
abbrev Location := List String

/-- Files and directories, with the directory that relative paths start from. -/
structure FileTree where
  nodes : List (Location × Node)
  workingDirectory : Location
  deriving DecidableEq

namespace FileTree

/-! ## Locations -/

/-- What lies at a location; the root is a directory. -/
def node? (t : FileTree) (location : Location) : Option Node :=
  if location = [] then some .directory else t.nodes.lookup location

def put (t : FileTree) (location : Location) (node : Node) : FileTree :=
  { t with nodes := (location, node) :: t.nodes.filter fun entry => entry.1 != location }

def erase (t : FileTree) (location : Location) : FileTree :=
  { t with nodes := t.nodes.filter fun entry => entry.1 != location }

theorem lookup_filter_ne (nodes : List (Location × Node)) (location other : Location) :
    (nodes.filter fun entry => entry.1 != location).lookup other =
      if other = location then none else nodes.lookup other := by
  induction nodes with
  | nil => simp
  | cons entry nodes ih =>
    obtain ⟨at_, node⟩ := entry
    by_cases h : at_ = location
    · subst h
      by_cases ho : other = at_
      · simpa [ho] using ih
      · have : (other == at_) = false := by simp [ho]
        simp [List.lookup_cons, ih, ho, this]
    · by_cases ho : other = at_
      · subst ho; simp [h]
      · have : (other == at_) = false := by simp [ho]
        simp [List.lookup_cons, h, this, ih]

/-- After a change at a location below the root only that location differs. -/
theorem node?_put (t : FileTree) {location : Location} (hl : location ≠ []) (node : Node)
    (other : Location) :
    (t.put location node).node? other = if other = location then some node else t.node? other := by
  by_cases hr : other = []
  · subst hr; simp [node?, Ne.symm hl]
  · by_cases ho : other = location
    · subst ho; simp [node?, put, hl]
    · have : (other == location) = false := by simp [ho]
      simp [node?, put, hr, ho, List.lookup_cons, this, lookup_filter_ne]

/-- After a removal below the root only that location differs. -/
theorem node?_erase (t : FileTree) {location : Location} (hl : location ≠ []) (other : Location) :
    (t.erase location).node? other = if other = location then none else t.node? other := by
  by_cases hr : other = []
  · subst hr; simp [node?, Ne.symm hl]
  · simp [node?, erase, hr, lookup_filter_ne]

/-! ## Following a path -/

def maxName : Nat := 255

/-- The least number of bytes that a path is too long with. -/
def pathLimit : Nat := 4096

/-- One step down or up from a directory; a name must lead to a directory. -/
def enter (t : FileTree) (directory : Location) (step : String) : Except Fault Location :=
  if step = "." then .ok directory
  else if step = ".." then .ok directory.tail
  else if maxName < step.utf8ByteSize then .error .nameTooLong
  else
    match t.node? (step :: directory) with
    | some .directory => .ok (step :: directory)
    | some (.file _) => .error .notADirectory
    | none => .error .notFound

/-- What a path leads to, as far as it goes without looking at its last name. -/
inductive Place where
  /-- The path ends in `.`, `..` or the root. -/
  | directory (location : Location)
  /-- The path ends in a name, with a slash after it or not. -/
  | entry (directory : Location) (name : String) (slash : Bool)
  deriving DecidableEq, Repr

/-- Follows a path up to its last step. -/
def place (t : FileTree) (p : Path) : Except Fault Place :=
  if '\x00' ∈ p.text.toList then .error .nullInPath
  else if p.text.isEmpty then .error .notFound
  else if pathLimit ≤ p.text.utf8ByteSize then .error .nameTooLong
  else
    match p.partsInward.filter fun part => part ≠ "" with
    | [] => .ok (.directory [])
    | last :: outer => do
      let start := if p.isAbsolute then [] else t.workingDirectory
      let directory ← outer.reverse.foldlM t.enter start
      if last = "." then return .directory directory
      else if last = ".." then return .directory directory.tail
      else return .entry directory last (p.text.toList.getLast? == some '/')

def find (t : FileTree) (directory : Location) (name : String) : Except Fault (Option Node) :=
  if maxName < name.utf8ByteSize then .error .nameTooLong
  else .ok (t.node? (name :: directory))

/-- The location of the name that a path ends in, whether anything lies there or not. -/
def location? (t : FileTree) (p : Path) : Option Location :=
  match t.place p with
  | .ok (.entry directory name _) => some (name :: directory)
  | _ => none

/-! ## Operations -/

def load (t : FileTree) (p : Path) : Except Fault ByteArray := do
  match ← t.place p with
  | .directory _ => throw .isADirectory
  | .entry directory name slash =>
    match ← t.find directory name with
    | none => throw .notFound
    | some .directory => throw .isADirectory
    | some (.file bytes) => if slash then throw .notADirectory else return bytes

def isFile (t : FileTree) (p : Path) : Bool := (t.load p).isOk

def isDirectory (t : FileTree) (p : Path) : Bool :=
  match t.place p with
  | .ok (.directory _) => true
  | .ok (.entry directory name _) =>
    match t.find directory name with
    | .ok (some .directory) => true
    | _ => false
  | .error _ => false

def makeDirectory (t : FileTree) (p : Path) : Except Fault FileTree := do
  match ← t.place p with
  | .directory _ => throw .alreadyExists
  | .entry directory name _ =>
    match ← t.find directory name with
    | some _ => throw .alreadyExists
    | none => return t.put (name :: directory) .directory

/-- Where a file can be written: a name that leads to no directory. -/
def writable (t : FileTree) (p : Path) : Except Fault Location := do
  match ← t.place p with
  | .directory _ => throw .isADirectory
  | .entry directory name slash =>
    if slash then throw .isADirectory
    match ← t.find directory name with
    | some .directory => throw .isADirectory
    | _ => return name :: directory

def store (t : FileTree) (p : Path) (bytes : ByteArray) : Except Fault FileTree := do
  return t.put (← t.writable p) (.file bytes)

/-- Gives a file another name, in place of any file that has it. Directories are not moved. -/
def move (t : FileTree) (source target : Path) : Except Fault FileTree := do
  match ← t.place source, ← t.place target with
  | .entry directory name slash, .entry directory' name' slash' =>
    let moved ← t.find directory name
    let replaced ← t.find directory' name'
    match moved with
    | none => throw .notFound
    | some .directory => throw .isADirectory
    | some (.file bytes) =>
      if slash || slash' then throw .notADirectory
      if replaced = some .directory then throw .isADirectory
      return (t.erase (name :: directory)).put (name' :: directory') (.file bytes)
  | _, _ => throw .busy

def remove (t : FileTree) (p : Path) : Except Fault FileTree := do
  match ← t.place p with
  | .directory _ => throw .isADirectory
  | .entry directory name slash =>
    match ← t.find directory name with
    | none => throw .notFound
    | some .directory => throw .isADirectory
    | some (.file _) => if slash then throw .notADirectory else return t.erase (name :: directory)

def append (t : FileTree) (location : Location) (bytes : ByteArray) : FileTree :=
  match t.node? location with
  | some (.file before) => t.put location (.file (before ++ bytes))
  | _ => t

/-! ## Building and listing -/

/-- The tree with a directory and those around it. -/
def withDirectory (t : FileTree) : Location → FileTree
  | [] => t
  | name :: outer =>
    if (t.node? (name :: outer)).isSome then t
    else (t.withDirectory outer).put (name :: outer) .directory

/-- The directory that holds the working directory of a built tree, and its name. -/
def home : Location := ["work", "tmp"]

/-- A tree with the given directories and files below its working directory. -/
def build (directories : List Path) (files : List (Path × ByteArray)) : FileTree :=
  let below (p : Path) := p.partsInward.filter (fun part => part ≠ "" ∧ part ≠ ".") ++ home
  let bare := (FileTree.mk [] home).withDirectory home
  let withDirectories := directories.foldl (fun t p => t.withDirectory (below p)) bare
  files.foldl
    (fun t (p, bytes) => (t.withDirectory (below p).tail).put (below p) (.file bytes))
    withDirectories

/-- What lies below the working directory, by paths that start there. -/
def listing (t : FileTree) : List (String × Node) :=
  t.nodes.filterMap fun (location, node) =>
    let outward := location.reverse
    let home := t.workingDirectory.reverse
    if home.isPrefixOf outward && home.length < outward.length then
      some ("/".intercalate (outward.drop home.length), node)
    else none

end FileTree

end EntropyTables
