import EntropyTables.Toml.Value
/-!
# Putting a document together

The statements of a document fill a tree one after the other. How a table came into being decides
what may still be added to it: a table that only stands on the way to another may be declared later,
one that dotted keys made takes more dotted keys, a declared one is declared once, and a value that
is written out is complete. A statement that breaks these rules spoils the document.
-/
namespace EntropyTables.Toml

/-- How a table that is still open came into being. -/
inductive Origin where
  /-- On the way to a table that was declared. -/
  | passed
  /-- On the way of a dotted key. -/
  | dotted
  /-- By its own header. -/
  | declared
  deriving DecidableEq, Repr

/-- A part of a document that is still being put together. -/
inductive Draft where
  /-- A value that is written out. -/
  | complete (value : Value)
  | table (origin : Origin) (members : List (String × Draft))
  /-- Tables that share a header; the last one is open. -/
  | tables (elements : List (List (String × Draft)))
  deriving Inhabited

abbrev Members := List (String × Draft)

inductive Statement where
  /-- Opens the table of a path. -/
  | header (around : List String) (key : String)
  /-- Opens one more of the tables of a path. -/
  | element (around : List String) (key : String)
  /-- Gives a key of the open table its value. -/
  | pair (around : List String) (key : String) (value : Value)

namespace Draft

/-- The members with a key's draft in place of the one it had, or added at the end. -/
def set (key : String) (draft : Draft) : Members → Members
  | [] => [(key, draft)]
  | (k, d) :: rest => if k = key then (k, draft) :: rest else (k, d) :: set key draft rest

/-- What a step through a table leads into. -/
def table? : Option Draft → (made : Origin) → Option (Members × (Members → Draft))
  | none, made => some ([], .table made)
  | some (.table origin members), made =>
    if made = .dotted ∧ origin = .declared then none else some (members, .table origin)
  | some (.tables elements), _ =>
    match elements.getLast? with
    | some last => some (last, fun members => .tables (elements.dropLast ++ [members]))
    | none => none
  | some (.complete _), _ => none

/-- Changes the table at the end of a path; tables that are missing on the way are made. -/
def changeAt (made : Origin) (change : Members → Option Members) :
    List String → Members → Option Members
  | [], members => change members
  | key :: path, members => do
    let (inner, close) ← table? (members.lookup key) made
    return set key (close (← changeAt made change path inner)) members

def declare (key : String) (members : Members) : Option Members :=
  match members.lookup key with
  | none => some (set key (.table .declared []) members)
  | some (.table .passed inner) => some (set key (.table .declared inner) members)
  | some _ => none

def addElement (key : String) (members : Members) : Option Members :=
  match members.lookup key with
  | none => some (set key (.tables [[]]) members)
  | some (.tables elements) => some (set key (.tables (elements ++ [[]])) members)
  | some _ => none

def assign (key : String) (value : Value) (members : Members) : Option Members :=
  match members.lookup key with
  | none => some (set key (.complete value) members)
  | some _ => none

/-- The table at the end of a path of dotted keys was made by dotted keys. -/
def endsDotted : List String → Members → Bool
  | [], _ => true
  | [key], members =>
    match members.lookup key with
    | none | some (.table .dotted _) => true
    | _ => false
  | key :: path, members =>
    match table? (members.lookup key) .dotted with
    | some (inner, _) => endsDotted path inner
    | none => false

def assignAt (around : List String) (key : String) (value : Value) (members : Members) :
    Option Members :=
  if endsDotted around members then changeAt .dotted (assign key value) around members else none

/-- The document and the path of its open table, after a statement. -/
def follow (state : Members × List String) : Statement → Option (Members × List String)
  | .header around key => do
    return (← changeAt .passed (declare key) around state.1, around ++ [key])
  | .element around key => do
    return (← changeAt .passed (addElement key) around state.1, around ++ [key])
  | .pair around key value => do
    return (← changeAt .passed (assignAt around key value) state.2 state.1, state.2)

mutual

def toValue : Draft → Value
  | .complete value => value
  | .table _ members => .table (toMembers members)
  | .tables elements => .array (toTables elements)

def toMembers : Members → List (String × Value)
  | [] => []
  | (key, draft) :: rest => (key, toValue draft) :: toMembers rest

/-- The tables that share a header, finished. -/
def toTables : List Members → List Value
  | [] => []
  | members :: rest => .table (toMembers members) :: toTables rest

end

/-- The tree that the statements of a document say. -/
def assemble (statements : List Statement) : Option Value := do
  let (members, _) ← statements.foldlM follow ([], [])
  return .table (toMembers members)

/-- The table that pairs of dotted keys and values say. -/
def inline (pairs : List (List String × String × Value)) : Option Value := do
  let members ← pairs.foldlM
    (fun members (around, key, value) => assignAt around key value members) []
  return .table (toMembers members)

end Draft

end EntropyTables.Toml
