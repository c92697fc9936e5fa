import EntropyTables.Proofs.Agreement
import EntropyTables.Proofs.TreeShape
/-!
# Runs that differ in a file they do not read

Two trees are the same but for what the file at one location holds (`SameBut`). Paths lead to the
same places in both, and an operation that does not look into the file comes to the same result in
both, or to trees that are again the same but for that file. So commands stay in lockstep over such
trees (`Twin`) whatever that file holds, if the table that they read is another.

Main statement: `twin_replaces`.
-/
namespace EntropyTables

open Log (Event Logger)

namespace FileTree

/-- The trees are the same but for what the file at the location holds. -/
structure SameBut (l : Location) (t t' : FileTree) : Prop where
  workingDirectory : t.workingDirectory = t'.workingDirectory
  elsewhere : ∀ x, x ≠ l → t.node? x = t'.node? x
  here : t.node? l = t'.node? l ∨
    ∃ bytes bytes', t.node? l = some (.file bytes) ∧ t'.node? l = some (.file bytes')

namespace SameBut

variable {l : Location} {t t' : FileTree}

theorem of_put {bytes : ByteArray} (hn : t.node? l = some (.file bytes)) (bytes' : ByteArray) :
    SameBut l t (t.put l (.file bytes')) := by
  have hl : l ≠ [] := by rintro rfl; simp [node?] at hn
  refine ⟨rfl, fun x hx => by rw [node?_put t hl, if_neg hx], .inr ⟨bytes, bytes', hn, ?_⟩⟩
  rw [node?_put t hl, if_pos rfl]

/-- At each location there is the same, or two files. -/
theorem node (h : SameBut l t t') (x : Location) : t.node? x = t'.node? x ∨
    x = l ∧ ∃ bytes bytes', t.node? x = some (.file bytes) ∧ t'.node? x = some (.file bytes') := by
  by_cases hx : x = l
  · subst hx
    exact h.here.imp_right (⟨rfl, ·⟩)
  · exact .inl (h.elsewhere x hx)

/-! ## Paths -/

/-- The bytes of a file are no part of the shape. -/
theorem shape_eq (h : SameBut l t t') : t.shape = t'.shape := by
  refine shape_eq_iff.2 ⟨h.workingDirectory, fun x => ?_⟩
  rcases h.node x with hn | ⟨-, bytes, bytes', hn, hn'⟩
  · rw [hn]
  · rw [hn, hn']
    rfl

/-- **Paths lead to the same places.** -/
theorem place (h : SameBut l t t') (p : Path) : t.place p = t'.place p :=
  place_of_shape h.shape_eq p

theorem find (h : SameBut l t t') (directory : Location) (name : String) :
    t.find directory name = t'.find directory name ∨
      name :: directory = l ∧ ∃ bytes bytes', t.find directory name = .ok (some (.file bytes)) ∧
        t'.find directory name = .ok (some (.file bytes')) := by
  unfold FileTree.find
  split_ifs with hlong
  · exact .inl rfl
  · rcases h.node (name :: directory) with hn | ⟨hl, bytes, bytes', hn, hn'⟩
    · exact .inl (by rw [hn])
    · exact .inr ⟨hl, bytes, bytes', by rw [hn], by rw [hn']⟩

/-! ## Looking -/

theorem isDirectory (h : SameBut l t t') (p : Path) : t.isDirectory p = t'.isDirectory p :=
  isDirectory_of_shape h.shape_eq p

theorem load (h : SameBut l t t') {p : Path} (hp : t.location? p ≠ some l) :
    t.load p = t'.load p := by
  have hplace := h.place p
  unfold FileTree.load
  rw [← hplace]
  cases hp' : t.place p with
  | error fault => rfl
  | ok place =>
    cases place with
    | directory d => rfl
    | entry d name slash =>
      rcases h.find d name with hf | ⟨hl, -⟩
      · simp only [ok_bind, hf]
      · exact absurd (location?_eq_some_iff.2 ⟨d, name, slash, hp', hl.symm⟩) hp

theorem isFile (h : SameBut l t t') (p : Path) : t.isFile p = t'.isFile p :=
  isFile_of_shape h.shape_eq p

/-! ## Changing -/

theorem put (h : SameBut l t t') {x : Location} (hx : x ≠ []) (node : Node) :
    SameBut l (t.put x node) (t'.put x node) := by
  refine ⟨h.workingDirectory, fun y hy => ?_, ?_⟩
  · rw [node?_put t hx, node?_put t' hx, h.elsewhere y hy]
  · rw [node?_put t hx, node?_put t' hx]
    split_ifs
    · exact .inl rfl
    · exact h.here

theorem erase (h : SameBut l t t') {x : Location} (hx : x ≠ []) :
    SameBut l (t.erase x) (t'.erase x) := by
  refine ⟨h.workingDirectory, fun y hy => ?_, ?_⟩
  · rw [node?_erase t hx, node?_erase t' hx, h.elsewhere y hy]
  · rw [node?_erase t hx, node?_erase t' hx]
    split_ifs
    · exact .inl rfl
    · exact h.here

end SameBut

/-- Two operations fail alike, or leave trees that are the same but for the file. -/
inductive SameResult (l : Location) : Except Fault FileTree → Except Fault FileTree → Prop
  | ok {t t' : FileTree} (h : SameBut l t t') : SameResult l (.ok t) (.ok t')
  | error (fault : Fault) : SameResult l (.error fault) (.error fault)

namespace SameBut

variable {l : Location} {t t' : FileTree}

theorem find_bind (h : SameBut l t t') (directory : Location) (name : String)
    {f f' : Option Node → Except Fault FileTree} (hsame : ∀ node, SameResult l (f node) (f' node))
    (hfile : ∀ bytes bytes', SameResult l (f (some (.file bytes))) (f' (some (.file bytes')))) :
    SameResult l (t.find directory name >>= f) (t'.find directory name >>= f') := by
  rcases h.find directory name with hf | ⟨-, bytes, bytes', hf, hf'⟩
  · rw [hf]
    cases t'.find directory name with
    | error fault => exact .error fault
    | ok node => exact hsame node
  · rw [hf, hf']
    exact hfile bytes bytes'

theorem find_fault (h : SameBut l t t') (directory : Location) (name : String) (fault : Fault) :
    SameResult l (t.find directory name >>= fun _ => .error fault)
      (t'.find directory name >>= fun _ => .error fault) :=
  h.find_bind directory name (fun _ => .error fault) fun _ _ => .error fault

theorem makeDirectory (h : SameBut l t t') (p : Path) :
    SameResult l (t.makeDirectory p) (t'.makeDirectory p) := by
  unfold FileTree.makeDirectory
  rw [h.place]
  rcases t'.place p with fault | ⟨d⟩ | ⟨d, name, slash⟩
  · exact .error fault
  · exact .error _
  · refine h.find_bind d name (fun node => ?_) fun _ _ => .error _
    cases node with
    | none => exact .ok (h.put (List.cons_ne_nil name d) .directory)
    | some node => exact .error _

theorem writable (h : SameBut l t t') (p : Path) : t.writable p = t'.writable p :=
  writable_of_shape h.shape_eq p

theorem remove (h : SameBut l t t') (p : Path) : SameResult l (t.remove p) (t'.remove p) := by
  unfold FileTree.remove
  rw [h.place]
  rcases t'.place p with fault | ⟨d⟩ | ⟨d, name, slash⟩
  · exact .error fault
  · exact .error _
  · have hfile : SameResult l
        (if slash = true then .error .notADirectory else .ok (t.erase (name :: d)))
        (if slash = true then .error .notADirectory else .ok (t'.erase (name :: d))) := by
      split_ifs
      · exact .error _
      · exact .ok (h.erase (List.cons_ne_nil name d))
    refine h.find_bind d name (fun node => ?_) fun _ _ => hfile
    rcases node with _ | ⟨bytes⟩ | _
    · exact .error _
    · exact hfile
    · exact .error _

/-- A file can be moved if its bytes are the same in both trees. -/
theorem move (h : SameBut l t t') {source : Path} (target : Path)
    (hs : ∀ x, t.Reaches source x → t.node? x = t'.node? x) :
    SameResult l (t.move source target) (t'.move source target) := by
  unfold FileTree.move
  rw [← h.place source, ← h.place target]
  rcases hp : t.place source with fault | ⟨d⟩ | ⟨d, name, slash⟩
  · exact .error fault
  · rcases t.place target with fault | ⟨d'⟩ | ⟨d', name', slash'⟩ <;> exact .error _
  · rcases t.place target with fault | ⟨d'⟩ | ⟨d', name', slash'⟩
    · exact .error fault
    · exact .error _
    · cases slash with
      | true =>
        -- Nothing is moved, whatever lies there.
        refine h.find_bind d name (fun moved => ?_) fun _ _ => h.find_fault d' name' _
        rcases moved with _ | ⟨bytes⟩ | _ <;> exact h.find_fault d' name' _
      | false =>
        -- The path leads to what is moved, which is the same in both.
        have hsame : t.find d name = t'.find d name := by
          unfold FileTree.find
          split_ifs with hlong
          · rfl
          · rw [hs _ ⟨d, name, hp, hlong, rfl⟩]
        show SameResult l (t.find d name >>= _) (t'.find d name >>= _)
        rw [hsame]
        rcases t'.find d name with fault | _ | ⟨bytes⟩ | _
        · exact .error fault
        · exact h.find_fault d' name' _
        · have hgive : SameResult l
              (.ok ((t.erase (name :: d)).put (name' :: d') (.file bytes)))
              (.ok ((t'.erase (name :: d)).put (name' :: d') (.file bytes))) :=
            .ok ((h.erase (List.cons_ne_nil name d)).put (List.cons_ne_nil name' d') _)
          cases slash' with
          | true => exact h.find_fault d' name' _
          | false =>
            refine h.find_bind d' name' (fun replaced => ?_) fun _ _ => hgive
            rcases replaced with _ | ⟨earlier⟩ | _
            · exact hgive
            · exact hgive
            · exact .error _
        · exact h.find_fault d' name' _

end SameBut

end FileTree

open FileTree (SameBut SameResult)

/-! ## Worlds -/

/-- What is known of two trees, and of the bytes that nobody has read beside each. -/
abbrev Knowledge := FileTree → FileTree → List UInt8 → List UInt8 → Prop

def Knowledge.nothing : Knowledge := fun _ _ _ _ => True

def Knowledge.elsewhere (p : Path) (l : Location) : Knowledge :=
  fun t _ _ _ => t.location? p ≠ some l

def Knowledge.sameAt (p : Path) : Knowledge :=
  fun t t' _ _ => ∀ x, t.Reaches p x → t.node? x = t'.node? x

/-- Two worlds whose trees are the same but for the file at the location, and whose logs go to
standard error. Of their trees and the bytes left to be read something is known. -/
structure Twin (l : Location) (known : Knowledge) (w w' : World) : Prop where
  tree : SameBut l w.tree w'.tree
  shown : w.terminal.shown = w'.terminal.shown
  writeFault : w.terminal.writeFault = w'.terminal.writeFault
  flushFault : w.terminal.flushFault = w'.terminal.flushFault
  errors : w.errors = w'.errors
  log : w.logPlace = .standardError
  log' : w'.logPlace = .standardError
  clock : w.clock = w'.clock
  known : known w.tree w'.tree w.terminal.input w'.terminal.input

namespace Twin

variable {l : Location} {known : Knowledge}

theorem forget (w w' : World) (h : Twin l known w w') : Twin l .nothing w w' :=
  { h with known := trivial }

/-! ## Telling -/

theorem record (logger : Logger) (event : Event) :
    Lockstep (Twin l known) (Twin l known) (record logger event) (record logger event) := by
  intro w w' h
  rw [record_told logger event h.log, record_told logger event h.log', ← h.errors, ← h.clock]
  exact ⟨rfl, { h with errors := rfl, clock := rfl }⟩

theorem write (text : String) :
    Lockstep (Twin l known) (Twin l known) (Console.write text) (Console.write text) := by
  intro w w' h
  have hrun : ∀ w : World, (Console.write text : StateM World (Except Fault Unit)) w =
      (Terminal.answer w.terminal.writeFault, { w with terminal :=
        if w.terminal.writeFault.isNone then
          { w.terminal with shown := w.terminal.shown ++ text } else w.terminal }) := fun _ => rfl
  rw [hrun, hrun, ← h.writeFault]
  cases hfault : w.terminal.writeFault.isNone with
  | true => exact ⟨rfl, { h with shown := congrArg (· ++ text) h.shown }⟩
  | false => exact ⟨rfl, h⟩

theorem flush : Lockstep (Twin l known) (Twin l known) Console.flush Console.flush :=
  fun _ _ h => ⟨congrArg Terminal.answer h.flushFault, h⟩

theorem complain (text : String) :
    Lockstep (Twin l known) (Twin l known) (System.complain text) (System.complain text) :=
  fun _ _ h => ⟨rfl, { h with errors := congrArg (· ++ text) h.errors }⟩

/-! ## Files -/

theorem withTree (f : FileTree → Except Fault FileTree) {x : StateM World (Except Fault Unit)}
    (hx : ∀ {w}, w.logPlace = .standardError → x w = w.withTree (f w.tree))
    (hf : ∀ {w w'}, Twin l known w w' → SameResult l (f w.tree) (f w'.tree)) :
    Lockstep (Twin l known) (Twin l .nothing) x x := by
  intro w w' h
  have hresult := hf h
  rw [hx h.log, hx h.log']
  generalize f w.tree = result, f w'.tree = result' at hresult
  cases hresult with
  | ok ht => exact ⟨rfl, { h with tree := ht, known := trivial }⟩
  | error fault => exact ⟨rfl, h.forget⟩

theorem makeDirectory (p : Path) :
    Lockstep (Twin l .nothing) (Twin l .nothing) (System.makeDirectory p)
      (System.makeDirectory p) :=
  withTree (·.makeDirectory p) (fun _ => rfl) fun h => h.tree.makeDirectory p

theorem remove (p : Path) :
    Lockstep (Twin l .nothing) (Twin l .nothing) (System.remove p) (System.remove p) :=
  withTree (·.remove p) (World.remove_told p) fun h => h.tree.remove p

theorem move (source target : Path) :
    Lockstep (Twin l (.sameAt source)) (Twin l .nothing) (System.move source target)
      (System.move source target) :=
  withTree (·.move source target) (World.move_told source target) fun h =>
    h.tree.move target h.known

/-- After an attempt to write a file the path leads to the same in both trees. -/
theorem store (p : Path) (bytes : ByteArray) :
    Lockstep (Twin l .nothing) (Twin l (.sameAt p)) (System.store p bytes)
      (System.store p bytes) := by
  intro w w' h
  have hwritable := h.tree.writable p
  simp only [World.store_run, FileTree.store]
  rw [← hwritable]
  cases hw : w.tree.writable p with
  | error fault =>
    -- What cannot be overwritten is a directory, if anything.
    have hknown : ∀ x, w.tree.Reaches p x → w.tree.node? x = w'.tree.node? x := by
      intro x hx
      rcases h.tree.node x with hn | ⟨-, before, before', hn, -⟩
      · exact hn
      · have hok := FileTree.writable_eq_ok_iff.2 ⟨hx, by simp [hn]⟩
        rw [hw] at hok
        cases hok
    exact ⟨rfl, { h with known := hknown }⟩
  | ok x =>
    obtain ⟨hx, hdir⟩ := FileTree.writable_eq_ok_iff.1 hw
    have hput : FileTree.Keeps w.tree (w.tree.put x (.file bytes)) := .put hx.ne_nil hdir
    have hknown : ∀ y, (w.tree.put x (.file bytes)).Reaches p y →
        (w.tree.put x (.file bytes)).node? y = (w'.tree.put x (.file bytes)).node? y := by
      intro y hy
      obtain rfl := hy.unique (hput.reaches hx)
      simp [FileTree.node?_put _ hx.ne_nil]
    exact ⟨rfl, { h with tree := h.tree.put hx.ne_nil _, known := hknown }⟩

theorem loads {p : Path} :
    Lockstep (Twin l (.elsewhere p l)) (Twin l .nothing) (System.load p) (System.load p) :=
  fun _ _ h => ⟨h.tree.load h.known, h.forget⟩

end Twin

theorem twin_tells {l : Location} {known : Knowledge} (logger : Logger) :
    Tells (Twin l known) logger logger where
  record := Twin.record logger
  write := Twin.write
  complain := Twin.complain

theorem twin_replaces {l : Location} (logger : Logger) :
    Replaces (Twin l .nothing) logger logger where
  toTells := twin_tells logger
  isDirectory p _ _ h := ⟨h.tree.isDirectory p, h⟩
  makeDirectory := Twin.makeDirectory
  storeAndMove p _ := .storeAndMove (Twin.store _ _) (Twin.move _ p) Twin.forget
  remove := Twin.remove

end EntropyTables
