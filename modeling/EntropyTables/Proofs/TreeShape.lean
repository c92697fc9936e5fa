import EntropyTables.Proofs.Lockstep
/-!
# What a run does not see of the files

The shape of a tree is the tree without the bytes of its files. Where paths lead and what an
operation on files comes to is a matter of the shape (`place_of_shape`, `move_of_shape`), but for
the bytes that `load` answers with. So once a run has read its input, what it comes to depends on the
shape alone, whatever the files hold and wherever the log goes (`sameShape_replaces`).

Main statement: `Request.run_outcome` (the log does not change what a run comes to).
-/
namespace EntropyTables

open Log (Event Logger)

def Node.emptied : Node → Node
  | .file _ => .file .empty
  | .directory => .directory

namespace FileTree

/-- A tree without the bytes of its files: where relative paths start, and what lies where. -/
def shape (t : FileTree) : Location × (Location → Option Node) :=
  (t.workingDirectory, fun l => (t.node? l).map Node.emptied)

theorem shape_eq_iff {t t' : FileTree} :
    t.shape = t'.shape ↔ t.workingDirectory = t'.workingDirectory ∧
      ∀ l, (t.node? l).map Node.emptied = (t'.node? l).map Node.emptied := by
  simp only [shape, Prod.mk.injEq, funext_iff]

section

variable {t t' : FileTree} (h : t.shape = t'.shape)
include h

theorem node?_of_shape (l : Location) : t.node? l = t'.node? l ∨
    ∃ bytes bytes', t.node? l = some (.file bytes) ∧ t'.node? l = some (.file bytes') := by
  have hl := (shape_eq_iff.1 h).2 l
  generalize t.node? l = node, t'.node? l = node' at hl
  rcases node with _ | ⟨bytes⟩ | _ <;> rcases node' with _ | ⟨bytes'⟩ | _ <;> try cases hl
  · exact .inl rfl
  · exact .inr ⟨bytes, bytes', rfl, rfl⟩
  · exact .inl rfl

/-! ## Paths -/

theorem enter_of_shape : t.enter = t'.enter := by
  funext directory step
  unfold FileTree.enter
  rcases node?_of_shape h (step :: directory) with hn | ⟨bytes, bytes', hn, hn'⟩
  · rw [hn]
  · rw [hn, hn']

/-- **Paths lead to the same places.** -/
theorem place_of_shape (p : Path) : t.place p = t'.place p := by
  unfold FileTree.place
  rw [enter_of_shape h, (shape_eq_iff.1 h).1]

theorem find_of_shape (directory : Location) (name : String) :
    t.find directory name = t'.find directory name ∨
      ∃ bytes bytes', t.find directory name = .ok (some (.file bytes)) ∧
        t'.find directory name = .ok (some (.file bytes')) := by
  unfold FileTree.find
  split_ifs with hlong
  · exact .inl rfl
  · rcases node?_of_shape h (name :: directory) with hn | ⟨bytes, bytes', hn, hn'⟩
    · exact .inl (by rw [hn])
    · exact .inr ⟨bytes, bytes', by rw [hn], by rw [hn']⟩

/-! ## Looking -/

theorem isDirectory_of_shape (p : Path) : t.isDirectory p = t'.isDirectory p := by
  unfold FileTree.isDirectory
  rw [place_of_shape h]
  rcases t'.place p with fault | ⟨d⟩ | ⟨d, name, slash⟩
  · rfl
  · rfl
  · rcases find_of_shape h d name with hf | ⟨bytes, bytes', hf, hf'⟩
    · simp only [hf]
    · simp only [hf, hf']

theorem isFile_of_shape (p : Path) : t.isFile p = t'.isFile p := by
  unfold FileTree.isFile FileTree.load
  rw [place_of_shape h]
  rcases t'.place p with fault | ⟨d⟩ | ⟨d, name, slash⟩
  · rfl
  · rfl
  · rcases find_of_shape h d name with hf | ⟨bytes, bytes', hf, hf'⟩
    · simp only [ok_bind, hf]
    · cases slash <;> simp only [ok_bind, hf, hf'] <;> rfl

theorem writable_of_shape (p : Path) : t.writable p = t'.writable p := by
  unfold FileTree.writable
  rw [place_of_shape h]
  rcases t'.place p with fault | ⟨d⟩ | ⟨d, name, slash⟩
  · rfl
  · rfl
  · rcases find_of_shape h d name with hf | ⟨bytes, bytes', hf, hf'⟩
    · simp only [ok_bind, hf]
    · simp only [ok_bind, hf, hf']

/-! ## Changing -/

theorem shape_put {l : Location} (hl : l ≠ []) {node node' : Node}
    (hnode : node.emptied = node'.emptied) : (t.put l node).shape = (t'.put l node').shape := by
  refine shape_eq_iff.2 ⟨(shape_eq_iff.1 h).1, fun x => ?_⟩
  rw [node?_put t hl, node?_put t' hl]
  split_ifs
  · exact congrArg some hnode
  · exact (shape_eq_iff.1 h).2 x

theorem shape_erase {l : Location} (hl : l ≠ []) : (t.erase l).shape = (t'.erase l).shape := by
  refine shape_eq_iff.2 ⟨(shape_eq_iff.1 h).1, fun x => ?_⟩
  rw [node?_erase t hl, node?_erase t' hl]
  split_ifs
  · rfl
  · exact (shape_eq_iff.1 h).2 x

/-- An operation that goes on from what lies under a name, whatever a file there holds. -/
theorem find_bind_of_shape (directory : Location) (name : String)
    {f f' : Option Node → Except Fault FileTree} (hnone : (f none).map shape = (f' none).map shape)
    (hdirectory : (f (some .directory)).map shape = (f' (some .directory)).map shape)
    (hfile : ∀ bytes bytes',
      (f (some (.file bytes))).map shape = (f' (some (.file bytes'))).map shape) :
    (t.find directory name >>= f).map shape = (t'.find directory name >>= f').map shape := by
  rcases find_of_shape h directory name with hf | ⟨bytes, bytes', hf, hf'⟩
  · rw [hf]
    rcases t'.find directory name with fault | _ | ⟨bytes⟩ | _
    · rfl
    · exact hnone
    · exact hfile bytes bytes
    · exact hdirectory
  · rw [hf, hf']
    exact hfile bytes bytes'

theorem makeDirectory_of_shape (p : Path) :
    (t.makeDirectory p).map shape = (t'.makeDirectory p).map shape := by
  unfold FileTree.makeDirectory
  rw [place_of_shape h]
  rcases t'.place p with fault | ⟨d⟩ | ⟨d, name, slash⟩
  · rfl
  · rfl
  · exact find_bind_of_shape h d name
      (congrArg Except.ok (shape_put h (List.cons_ne_nil name d) rfl)) rfl fun _ _ => rfl

theorem store_of_shape (p : Path) (bytes bytes' : ByteArray) :
    (t.store p bytes).map shape = (t'.store p bytes').map shape := by
  unfold FileTree.store
  rw [writable_of_shape h]
  cases hw : t'.writable p with
  | error fault => rfl
  | ok l => exact congrArg Except.ok (shape_put h (writable_eq_ok_iff.1 hw).1.ne_nil rfl)

theorem remove_of_shape (p : Path) : (t.remove p).map shape = (t'.remove p).map shape := by
  unfold FileTree.remove
  rw [place_of_shape h]
  rcases t'.place p with fault | ⟨d⟩ | ⟨d, name, slash⟩
  · rfl
  · rfl
  · refine find_bind_of_shape h d name rfl rfl fun _ _ => ?_
    cases slash with
    | true => rfl
    | false => exact congrArg Except.ok (shape_erase h (List.cons_ne_nil name d))

theorem move_of_shape (source target : Path) :
    (t.move source target).map shape = (t'.move source target).map shape := by
  have hfault : ∀ (d : Location) (name : String) (fault : Fault),
      (t.find d name >>= fun _ => (.error fault : Except Fault FileTree)).map shape =
        (t'.find d name >>= fun _ => (.error fault : Except Fault FileTree)).map shape :=
    fun d name fault => find_bind_of_shape h d name rfl rfl fun _ _ => rfl
  unfold FileTree.move
  rw [place_of_shape h source, place_of_shape h target]
  rcases t'.place source with fault | ⟨d⟩ | ⟨d, name, slash⟩
  · rfl
  · rcases t'.place target with fault | ⟨d'⟩ | ⟨d', name', slash'⟩ <;> rfl
  · rcases t'.place target with fault | ⟨d'⟩ | ⟨d', name', slash'⟩
    · rfl
    · rfl
    · refine find_bind_of_shape h d name (hfault d' name' _) (hfault d' name' _)
        fun bytes bytes' => ?_
      have hmoved : ((t.erase (name :: d)).put (name' :: d') (.file bytes)).shape =
          ((t'.erase (name :: d)).put (name' :: d') (.file bytes')).shape :=
        shape_put (shape_erase h (List.cons_ne_nil name d)) (List.cons_ne_nil name' d') rfl
      cases slash with
      | true => exact hfault d' name' _
      | false =>
        cases slash' with
        | true => exact hfault d' name' _
        | false =>
          exact find_bind_of_shape h d' name' (congrArg Except.ok hmoved) rfl
            fun _ _ => congrArg Except.ok hmoved

end

theorem shape_put_file {t : FileTree} {l : Location} {bytes : ByteArray}
    (hn : t.node? l = some (.file bytes)) (bytes' : ByteArray) :
    (t.put l (.file bytes')).shape = t.shape := by
  have hl : l ≠ [] := by rintro rfl; simp [node?] at hn
  refine shape_eq_iff.2 ⟨rfl, fun x => ?_⟩
  rw [node?_put t hl]
  split_ifs with hx
  · rw [hx, hn]
    rfl
  · rfl

theorem shape_append (t : FileTree) (l : Location) (bytes : ByteArray) :
    (t.append l bytes).shape = t.shape := by
  unfold append
  split
  · next hn => exact shape_put_file hn _
  · rfl

end FileTree

/-! ## Worlds -/

/-- Two worlds whose files have the same shape, and whose consoles are the same. -/
structure SameShape (w w' : World) : Prop where
  shape : w.tree.shape = w'.tree.shape
  terminal : w.terminal = w'.terminal

namespace SameShape

theorem refl (w : World) : SameShape w w := ⟨rfl, rfl⟩

theorem withTree (f : FileTree → Except Fault FileTree) {x : StateM World (Except Fault Unit)}
    (hok : ∀ w t, f w.tree = .ok t →
      (x w).1 = .ok () ∧ (x w).2.tree = t ∧ (x w).2.terminal = w.terminal)
    (herror : ∀ w fault, f w.tree = .error fault → x w = (.error fault, w))
    (hf : ∀ {t t' : FileTree}, t.shape = t'.shape →
      (f t).map FileTree.shape = (f t').map FileTree.shape) :
    Lockstep SameShape SameShape x x := by
  intro w w' h
  have hresult := hf h.shape
  cases ht : f w.tree with
  | error fault =>
    cases ht' : f w'.tree with
    | error fault' =>
      rw [ht, ht'] at hresult
      obtain rfl := Except.error.inj hresult
      rw [herror w _ ht, herror w' _ ht']
      exact ⟨rfl, h⟩
    | ok t' =>
      rw [ht, ht'] at hresult
      cases hresult
  | ok t =>
    cases ht' : f w'.tree with
    | error fault' =>
      rw [ht, ht'] at hresult
      cases hresult
    | ok t' =>
      rw [ht, ht'] at hresult
      obtain ⟨h₁, h₂, h₃⟩ := hok w t ht
      obtain ⟨h₁', h₂', h₃'⟩ := hok w' t' ht'
      refine ⟨h₁.trans h₁'.symm, ?_, ?_⟩
      · rw [h₂, h₂']
        exact Except.ok.inj hresult
      · rw [h₃, h₃', h.terminal]

theorem makeDirectory (p : Path) :
    Lockstep SameShape SameShape (System.makeDirectory p) (System.makeDirectory p) := by
  refine withTree (·.makeDirectory p) (fun w t ht => ?_) (fun w fault hf => ?_)
    fun h => FileTree.makeDirectory_of_shape h p
  · simp [World.withTree, ht]
  · simp [World.withTree, hf]

theorem store (p : Path) (bytes : ByteArray) :
    Lockstep SameShape SameShape (System.store p bytes) (System.store p bytes) := by
  refine withTree (·.store p bytes) (fun w t ht => ?_) (fun w fault hf => ?_)
    fun h => FileTree.store_of_shape h p bytes bytes
  · simp [World.withTree, ht]
  · simp [World.withTree, hf]

theorem move (source target : Path) :
    Lockstep SameShape SameShape (System.move source target) (System.move source target) := by
  refine withTree (·.move source target) (fun w t ht => ?_) (fun w fault hf => ?_)
    fun h => FileTree.move_of_shape h source target
  · simp [World.move, ht]
  · simp [World.move, hf]

theorem remove (p : Path) :
    Lockstep SameShape SameShape (System.remove p) (System.remove p) := by
  refine withTree (·.remove p) (fun w t ht => ?_) (fun w fault hf => ?_)
    fun h => FileTree.remove_of_shape h p
  · simp [World.remove, ht]
  · simp [World.remove, hf]

/-! ## Telling -/

/-- The log is written to no file that a run reads again. -/
theorem log (w : World) (text : String) : SameShape (w.log text) w := by
  unfold World.log
  cases w.logPlace with
  | standardError => exact ⟨rfl, rfl⟩
  | file l => exact ⟨FileTree.shape_append _ _ _, rfl⟩
  | nameless => exact .refl w

theorem record (logger : Logger) (event : Event) (w : World) :
    SameShape ((record logger event : StateM World Unit) w).2 w := by
  have hnow : (System.now : StateM World String) w = (w.clock, w) := rfl
  unfold EntropyTables.record
  rw [World.bind_run, hnow]
  cases logger.line? w.clock event with
  | none => exact .refl w
  | some line => exact log w line

theorem write (text : String) :
    Lockstep SameShape SameShape (Console.write text) (Console.write text) := by
  rintro ⟨tree, terminal, errors, logPlace, clock⟩ ⟨tree', _, errors', logPlace', clock'⟩ ⟨h, rfl⟩
  exact ⟨rfl, h, rfl⟩

end SameShape

theorem sameShape_replaces (logger logger' : Logger) : Replaces SameShape logger logger' where
  record event w w' h := by
    have hw := SameShape.record logger event w
    have hw' := SameShape.record logger' event w'
    exact ⟨rfl, hw.shape.trans (h.shape.trans hw'.shape.symm),
      hw.terminal.trans (h.terminal.trans hw'.terminal.symm)⟩
  write := SameShape.write
  complain _ _ _ h := ⟨rfl, h.shape, h.terminal⟩
  isDirectory p _ _ h := ⟨FileTree.isDirectory_of_shape h.shape p, h⟩
  makeDirectory := SameShape.makeDirectory
  storeAndMove p _ := .storeAndMove (SameShape.store _ _) (SameShape.move _ p) fun _ _ => id
  remove := SameShape.remove

/-- **What a run comes to** is the same under any two loggers, wherever their lines go. -/
theorem Request.run_outcome (logger logger' : Logger) (r : Request) (w : World) :
    ((r.run logger : StateM World (Except TableError Report)) w).1 =
      ((r.run logger' : StateM World (Except TableError Report)) w).1 := by
  have hload : Lockstep Eq SameShape (System.load r.input : StateM World _)
      (System.load r.input) := by
    rintro w _ rfl
    exact ⟨rfl, .refl w⟩
  exact (Request.run_lockstep hload (sameShape_replaces logger logger') w w rfl).1

end EntropyTables
