/-!
# File paths as text

A path is kept as it was written. Its parts are what stands between the slashes; empty parts and a
`.` that is not the first part name nothing and are skipped, so that `a//b/.` has the same last
component as `a/b`.
-/
namespace EntropyTables

/-- A path, as it was written. -/
structure Path where
  text : String
  deriving DecidableEq, Repr, Inhabited

namespace Path

def isAbsolute (p : Path) : Bool := p.text.toList.head? == some '/'

/-- What stands between the slashes, innermost first. -/
def partsInward (p : Path) : List String :=
  ((p.text.toList.splitOn '/').map String.ofList).reverse

/-- The parts, innermost first, without the trailing ones that name nothing. -/
def dropNameless : List String → List String
  | [] => []
  | part :: outer =>
    if part = "" ∨ (part = "." ∧ outer ≠ []) then dropNameless outer else part :: outer

def ofParts (absolute : Bool) (parts : List String) : Path :=
  ⟨if parts.isEmpty then (if absolute then "/" else "")
    else String.intercalate "/" parts.reverse⟩

/-- The path without its last component, if it has one that is not the root. -/
def parent? (p : Path) : Option Path :=
  match dropNameless p.partsInward with
  | [] => none
  | _ :: outer => some (ofParts p.isAbsolute (dropNameless outer))

/-- The last component, if it is a name. -/
def fileName? (p : Path) : Option String :=
  match dropNameless p.partsInward with
  | [] => none
  | part :: _ => if part = "." ∨ part = ".." then none else some part

/-- The second path seen from the first. One slash is put between them unless the first is empty or
ends in one; an absolute second path stands alone. -/
def join (base p : Path) : Path :=
  if p.isAbsolute then p
  else if base.text.isEmpty || base.text.toList.getLast? == some '/' then ⟨base.text ++ p.text⟩
  else ⟨base.text ++ "/" ++ p.text⟩

/-- The path with another name in place of its last component; a path whose last component is no
name gets the name added. -/
def withFileName (p : Path) (name : String) : Path :=
  match p.fileName?, p.parent? with
  | some _, some parent => parent.join ⟨name⟩
  | _, _ => p.join ⟨name⟩

/-- The path given by its parts and the paths around it, innermost first, without the empty one. -/
def chain (absolute : Bool) : List String → List Path
  | [] => if absolute then [ofParts absolute []] else []
  | part :: outer =>
    if part = "" ∨ (part = "." ∧ outer ≠ []) then chain absolute outer
    else ofParts absolute (part :: outer) :: chain absolute outer

/-- The path and the paths around it, innermost first, without the empty one. -/
def ancestors (p : Path) : List Path := chain p.isAbsolute p.partsInward

end Path

end EntropyTables
