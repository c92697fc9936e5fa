import EntropyTables.Proofs.Failing
import EntropyTables.Proofs.PathNames
/-!
# Where paths lead

`place_eq_ok_iff` says what a path that can be followed looks like, and `Reaches` where it leads a
file operation to. Each operation is then told by that location alone (`load_eq_ok_iff`,
`writable_eq_ok_iff`, `move_eq_ok_iff`, `remove_eq_ok_iff`, `makeDirectory_eq_ok`).

A tree that keeps the directories of another follows all the paths that the other follows, to the
same places (`Keeps.place`). Nothing that a run does takes a directory away, so the places of paths
outlast the run.
-/
namespace EntropyTables

def Path.Usable (p : Path) : Prop :=
  '\x00' ∉ p.text.toList ∧ p.text ≠ "" ∧ p.text.utf8ByteSize < FileTree.pathLimit

theorem Path.Leads.usable {q s : Path} (h : Path.Leads q s) (hs : s.Usable) : q.Usable := by
  obtain ⟨hnul, -, hsize⟩ := hs
  have hmore : ∃ more, s.text = q.text ++ more := by
    obtain ⟨-, ⟨rest, hr⟩ | ⟨rfl, rest, hr⟩⟩ := h
    · exact ⟨"/" ++ rest, by rw [hr, String.append_assoc]⟩
    · exact ⟨rest, hr⟩
  obtain ⟨more, hm⟩ := hmore
  rw [hm, String.toList_append, List.mem_append, not_or] at hnul
  rw [hm, String.utf8ByteSize_append] at hsize
  exact ⟨hnul.1, h.1, by omega⟩

namespace FileTree

/-! ## Following names -/

def origin (t : FileTree) (p : Path) : Location := if p.isAbsolute then [] else t.workingDirectory

/-- The directory that names lead to, innermost first. -/
def walk (t : FileTree) (start : Location) (names : List String) : Except Fault Location :=
  names.reverse.foldlM t.enter start

theorem walk_append (t : FileTree) (start : Location) (inner outer : List String) :
    t.walk start (inner ++ outer) = t.walk start outer >>= fun d => t.walk d inner := by
  simp [walk, List.foldlM_append]

theorem walk_cons (t : FileTree) (start : Location) (name : String) (outer : List String) :
    t.walk start (name :: outer) = t.walk start outer >>= fun d => t.enter d name := by
  rw [← List.singleton_append, walk_append]
  congr 1
  funext d
  exact bind_pure (t.enter d name)

/-- What a path leads to that ends in a name in a directory. -/
def ending (p : Path) (directory : Location) (last : String) : Place :=
  if last = "." then .directory directory
  else if last = ".." then .directory directory.tail
  else .entry directory last (p.text.toList.getLast? == some '/')

theorem place_eq_ok_iff {t : FileTree} {p : Path} {place : Place} :
    t.place p = .ok place ↔ p.Usable ∧ ((p.names = [] ∧ place = .directory []) ∨
      ∃ last outer directory, p.names = last :: outer ∧
        t.walk (t.origin p) outer = .ok directory ∧ place = ending p directory last) := by
  unfold FileTree.place
  split
  · next hnul => simp [Path.Usable, hnul]
  · next hnul =>
    split
    · next he =>
      have he : p.text = "" := by simpa using he
      simp [Path.Usable, he]
    · next he =>
      have he : p.text ≠ "" := by simpa using he
      split
      · next hsize => simp [Path.Usable, Nat.not_lt.2 hsize]
      · next hsize =>
        have hu : p.Usable := ⟨hnul, he, Nat.lt_of_not_le hsize⟩
        split
        · next hn =>
          have hn : p.names = [] := hn
          simp [hu, hn, eq_comm]
        · next last outer hn =>
          have hn : p.names = last :: outer := hn
          show (t.walk (t.origin p) outer >>= _) = _ ↔ _
          rw [bind_eq_ok_iff]
          simp only [hu, hn, true_and, List.cons.injEq, reduceCtorEq, false_and, false_or]
          constructor
          · rintro ⟨directory, hd, h⟩
            refine ⟨last, outer, directory, ⟨rfl, rfl⟩, hd, ?_⟩
            unfold ending
            split_ifs at h ⊢ <;> exact (Except.ok.inj h).symm
          · rintro ⟨_, _, directory, ⟨rfl, rfl⟩, hd, rfl⟩
            refine ⟨directory, hd, ?_⟩
            unfold ending
            split_ifs <;> rfl

theorem place_eq_entry {t : FileTree} {p : Path} {directory : Location} {name : String} {slash : Bool}
    (h : t.place p = .ok (.entry directory name slash)) :
    p.Usable ∧ name ≠ "." ∧ name ≠ ".." ∧ slash = (p.text.toList.getLast? == some '/') ∧
      ∃ outer, p.names = name :: outer ∧ t.walk (t.origin p) outer = .ok directory := by
  obtain ⟨hu, ⟨-, he⟩ | ⟨last, outer, d, hn, hw, he⟩⟩ := place_eq_ok_iff.1 h
  · cases he
  · unfold ending at he
    split_ifs at he with hdot hdots
    cases he
    exact ⟨hu, hdot, hdots, rfl, outer, hn, hw⟩

/-- A path whose names can all be entered leads to a directory. -/
theorem isDirectory_of_walk {t : FileTree} {p : Path} (hu : p.Usable) {directory : Location}
    (h : t.walk (t.origin p) p.names = .ok directory) : t.isDirectory p = true := by
  cases hn : p.names with
  | nil =>
    have hp : t.place p = .ok (.directory []) := place_eq_ok_iff.2 ⟨hu, .inl ⟨hn, rfl⟩⟩
    simp [isDirectory, hp]
  | cons last outer =>
    rw [hn, walk_cons] at h
    obtain ⟨d, hd, he⟩ := bind_eq_ok_iff.1 h
    have hp : t.place p = .ok (ending p d last) :=
      place_eq_ok_iff.2 ⟨hu, .inr ⟨last, outer, d, hn, hd, rfl⟩⟩
    unfold ending at hp
    unfold enter at he
    split_ifs at he hp with hdot hdots hlong
    · simp [isDirectory, hp]
    · simp [isDirectory, hp]
    · split at he
      · next hnode => simp [isDirectory, hp, find, hlong, hnode]
      · cases he
      · cases he

/-! ## Where a file operation is led to -/

/-- The path leads a file operation to the location: its last name can be the name of a file. -/
def Reaches (t : FileTree) (p : Path) (location : Location) : Prop :=
  ∃ directory name, t.place p = .ok (.entry directory name false) ∧
    ¬ maxName < name.utf8ByteSize ∧ location = name :: directory

theorem location?_eq_some_iff {t : FileTree} {p : Path} {l : Location} :
    t.location? p = some l ↔ ∃ directory name slash,
      t.place p = .ok (.entry directory name slash) ∧ l = name :: directory := by
  constructor
  · intro h
    unfold FileTree.location? at h
    split at h
    · next d name slash hp => exact ⟨d, name, slash, hp, (Option.some.inj h).symm⟩
    · cases h
  · rintro ⟨d, name, slash, hp, rfl⟩
    simp [FileTree.location?, hp]

theorem ne_nil_of_location? {t : FileTree} {p : Path} {l : Location} (h : t.location? p = some l) :
    l ≠ [] := by
  obtain ⟨d, name, slash, -, rfl⟩ := location?_eq_some_iff.1 h
  exact List.cons_ne_nil name d

theorem Reaches.location? {t : FileTree} {p : Path} {l : Location} (h : t.Reaches p l) :
    t.location? p = some l := by
  obtain ⟨d, name, hp, -, hl⟩ := h
  exact location?_eq_some_iff.2 ⟨d, name, false, hp, hl⟩

theorem Reaches.unique {t : FileTree} {p : Path} {l l' : Location} (h : t.Reaches p l)
    (h' : t.Reaches p l') : l = l' :=
  Option.some.inj (h.location?.symm.trans h'.location?)

theorem Reaches.ne_nil {t : FileTree} {p : Path} {l : Location} (h : t.Reaches p l) : l ≠ [] :=
  ne_nil_of_location? h.location?

theorem find_eq_ok_iff {t : FileTree} {directory : Location} {name : String} {node : Option Node} :
    t.find directory name = .ok node ↔
      ¬ maxName < name.utf8ByteSize ∧ node = t.node? (name :: directory) := by
  unfold find
  split_ifs with hlong
  · simp [hlong]
  · simp [hlong, eq_comm]

theorem load_eq_ok_iff {t : FileTree} {p : Path} {bytes : ByteArray} :
    t.load p = .ok bytes ↔ ∃ l, t.Reaches p l ∧ t.node? l = some (.file bytes) := by
  constructor
  · intro h
    unfold load at h
    obtain ⟨place, hp, h⟩ := bind_eq_ok_iff.1 h
    cases place with
    | directory d => cases h
    | entry d name slash =>
      obtain ⟨_, hf, h⟩ := bind_eq_ok_iff.1 h
      obtain ⟨hlong, rfl⟩ := find_eq_ok_iff.1 hf
      split at h
      · cases h
      · cases h
      · next hnode =>
        cases slash <;> cases h
        exact ⟨_, ⟨d, name, hp, hlong, rfl⟩, hnode⟩
  · rintro ⟨_, ⟨d, name, hp, hlong, rfl⟩, hnode⟩
    simp [load, hp, find, hlong, hnode]

theorem isFile_eq_false {t : FileTree} {p : Path}
    (h : ∀ l bytes, t.Reaches p l → t.node? l ≠ some (.file bytes)) : t.isFile p = false := by
  unfold isFile
  cases hload : t.load p with
  | error fault => rfl
  | ok bytes =>
    obtain ⟨l, hl, hn⟩ := load_eq_ok_iff.1 hload
    exact absurd hn (h l bytes hl)

theorem writable_eq_ok_iff {t : FileTree} {p : Path} {l : Location} :
    t.writable p = .ok l ↔ t.Reaches p l ∧ t.node? l ≠ some .directory := by
  constructor
  · intro h
    unfold writable at h
    obtain ⟨place, hp, h⟩ := bind_eq_ok_iff.1 h
    cases place with
    | directory d => cases h
    | entry d name slash =>
      cases slash with
      | true => cases h
      | false =>
        obtain ⟨_, hf, h⟩ := bind_eq_ok_iff.1 (show (t.find d name >>= _) = _ from h)
        obtain ⟨hlong, rfl⟩ := find_eq_ok_iff.1 hf
        split at h
        · cases h
        · next hnode =>
          cases h
          exact ⟨⟨d, name, hp, hlong, rfl⟩, hnode⟩
  · rintro ⟨⟨d, name, hp, hlong, rfl⟩, hnode⟩
    cases hn : t.node? (name :: d) with
    | none => simp [writable, hp, find, hlong, hn]
    | some node =>
      cases node with
      | directory => exact absurd hn hnode
      | file bytes => simp [writable, hp, find, hlong, hn]

theorem store_eq_ok_iff {t t' : FileTree} {p : Path} {bytes : ByteArray} :
    t.store p bytes = .ok t' ↔
      ∃ l, (t.Reaches p l ∧ t.node? l ≠ some .directory) ∧ t' = t.put l (.file bytes) := by
  unfold store
  rw [bind_eq_ok_iff]
  simp only [writable_eq_ok_iff, pure_eq_ok, Except.ok.injEq, eq_comm (a := t')]

theorem remove_eq_ok_iff {t t' : FileTree} {p : Path} :
    t.remove p = .ok t' ↔
      ∃ l bytes, t.Reaches p l ∧ t.node? l = some (.file bytes) ∧ t' = t.erase l := by
  constructor
  · intro h
    unfold remove at h
    obtain ⟨place, hp, h⟩ := bind_eq_ok_iff.1 h
    cases place with
    | directory d => cases h
    | entry d name slash =>
      obtain ⟨_, hf, h⟩ := bind_eq_ok_iff.1 h
      obtain ⟨hlong, rfl⟩ := find_eq_ok_iff.1 hf
      split at h
      · cases h
      · cases h
      · next bytes hnode =>
        cases slash <;> cases h
        exact ⟨_, bytes, ⟨d, name, hp, hlong, rfl⟩, hnode, rfl⟩
  · rintro ⟨_, bytes, ⟨d, name, hp, hlong, rfl⟩, hnode, rfl⟩
    simp [remove, hp, find, hlong, hnode]

theorem move_eq_ok_iff {t t' : FileTree} {source target : Path} :
    t.move source target = .ok t' ↔
      ∃ l l' bytes, t.Reaches source l ∧ t.Reaches target l' ∧ t.node? l = some (.file bytes) ∧
        t.node? l' ≠ some .directory ∧ t' = (t.erase l).put l' (.file bytes) := by
  constructor
  · intro h
    unfold move at h
    obtain ⟨place, hp, h⟩ := bind_eq_ok_iff.1 h
    obtain ⟨place', hp', h⟩ := bind_eq_ok_iff.1 h
    cases place with
    | directory d => cases h
    | entry d name slash =>
      cases place' with
      | directory d' => cases h
      | entry d' name' slash' =>
        obtain ⟨_, hf, h⟩ := bind_eq_ok_iff.1 h
        obtain ⟨_, hf', h⟩ := bind_eq_ok_iff.1 h
        obtain ⟨hlong, rfl⟩ := find_eq_ok_iff.1 hf
        obtain ⟨hlong', rfl⟩ := find_eq_ok_iff.1 hf'
        split at h
        · cases h
        · cases h
        · next bytes hnode =>
          by_cases hdir : t.node? (name' :: d') = some .directory
          · cases slash <;> cases slash' <;> simp [hdir] at h
          · cases slash <;> cases slash' <;> simp [hdir] at h
            exact ⟨_, _, bytes, ⟨d, name, hp, hlong, rfl⟩, ⟨d', name', hp', hlong', rfl⟩, hnode,
              hdir, h.symm⟩
  · rintro ⟨_, _, bytes, ⟨d, name, hp, hlong, rfl⟩, ⟨d', name', hp', hlong', rfl⟩, hnode, hdir, rfl⟩
    simp [move, hp, hp', find, hlong, hlong', hnode, hdir]

theorem makeDirectory_eq_ok {t t' : FileTree} {p : Path} (h : t.makeDirectory p = .ok t') :
    ∃ l, t.location? p = some l ∧ t.node? l = none ∧ t' = t.put l .directory := by
  unfold makeDirectory at h
  obtain ⟨place, hp, h⟩ := bind_eq_ok_iff.1 h
  cases place with
  | directory d => cases h
  | entry d name slash =>
    obtain ⟨_, hf, h⟩ := bind_eq_ok_iff.1 h
    obtain ⟨-, rfl⟩ := find_eq_ok_iff.1 hf
    split at h
    · cases h
    · next hnode =>
      cases h
      exact ⟨name :: d, location?_eq_some_iff.2 ⟨d, name, slash, hp, rfl⟩, hnode, rfl⟩

/-! ## Trees that keep directories -/

/-- The second tree has the directories of the first and follows paths from the same place. -/
structure Keeps (t t' : FileTree) : Prop where
  workingDirectory : t'.workingDirectory = t.workingDirectory
  directory : ∀ {l}, t.node? l = some .directory → t'.node? l = some .directory

namespace Keeps

variable {t t' t'' : FileTree}

theorem refl (t : FileTree) : Keeps t t := ⟨rfl, id⟩

theorem trans (h : Keeps t t') (h' : Keeps t' t'') : Keeps t t'' :=
  ⟨h'.workingDirectory.trans h.workingDirectory, fun hd => h'.directory (h.directory hd)⟩

theorem enter (h : Keeps t t') {d d' : Location} {step : String} (he : t.enter d step = .ok d') :
    t'.enter d step = .ok d' := by
  unfold FileTree.enter at he ⊢
  split_ifs at he ⊢
  · exact he
  · exact he
  · split at he
    · next hnode => rw [h.directory hnode]; exact he
    · cases he
    · cases he

theorem walk (h : Keeps t t') {start : Location} : ∀ {names : List String} {d : Location},
    t.walk start names = .ok d → t'.walk start names = .ok d
  | [], _, hw => hw
  | name :: outer, _, hw => by
    rw [walk_cons] at hw ⊢
    obtain ⟨d', hd, he⟩ := bind_eq_ok_iff.1 hw
    rw [h.walk hd, ok_bind]
    exact h.enter he

/-- **Paths lead to where they led.** -/
theorem place (h : Keeps t t') {p : Path} {r : Place} (hp : t.place p = .ok r) :
    t'.place p = .ok r := by
  have ho : t'.origin p = t.origin p := by simp only [origin, h.workingDirectory]
  rw [place_eq_ok_iff] at hp ⊢
  obtain ⟨hu, hn | ⟨last, outer, d, hn, hw, hr⟩⟩ := hp
  · exact ⟨hu, .inl hn⟩
  · exact ⟨hu, .inr ⟨last, outer, d, hn, by rw [ho]; exact h.walk hw, hr⟩⟩

theorem reaches (h : Keeps t t') {p : Path} {l : Location} (hp : t.Reaches p l) : t'.Reaches p l := by
  obtain ⟨d, name, hp, hl⟩ := hp
  exact ⟨d, name, h.place hp, hl⟩

theorem location? (h : Keeps t t') {p : Path} {l : Location} (hl : t.location? p = some l) :
    t'.location? p = some l := by
  obtain ⟨d, name, slash, hp, he⟩ := location?_eq_some_iff.1 hl
  exact location?_eq_some_iff.2 ⟨d, name, slash, h.place hp, he⟩

theorem put {l : Location} (hl : l ≠ []) {node : Node} (hd : t.node? l ≠ some .directory) :
    Keeps t (t.put l node) := by
  refine ⟨rfl, fun {l'} h => ?_⟩
  rw [node?_put t hl, if_neg]
  · exact h
  · rintro rfl; exact hd h

theorem erase {l : Location} (hl : l ≠ []) (hd : t.node? l ≠ some .directory) :
    Keeps t (t.erase l) := by
  refine ⟨rfl, fun {l'} h => ?_⟩
  rw [node?_erase t hl, if_neg]
  · exact h
  · rintro rfl; exact hd h

end Keeps

end FileTree

end EntropyTables
