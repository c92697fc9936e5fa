import EntropyTables.Proofs.Places
/-!
# Replacing a file is all or nothing

`replaceFile` makes directories, writes the sibling, moves it and removes it after a fault. What it
can come to is listed once (`replaceFile_cases`), with the tree that each outcome leaves. A fault on
the way to the sibling leaves no file there, since a directory that could not be made is one that the
path of the sibling needs (`isDirectory_of_reaches_sibling`), and a sibling that was written can be
removed. A path and its sibling never lead to the same file (`reaches_sibling_ne`).

Main statement: `replaceFile_spec` (the file holds the new text, or every file is what it was).
-/
namespace EntropyTables

namespace FileTree

/-! ## What a change leaves alone -/

/-- From the first tree to the second, files are lost or changed at some locations only, and new or
changed at others only; no directory is lost. -/
structure Frame (lost new : Location → Prop) (t t' : FileTree) : Prop where
  keeps : Keeps t t'
  kept : ∀ {l bytes}, t.node? l = some (.file bytes) → ¬ lost l → t'.node? l = some (.file bytes)
  old : ∀ {l bytes}, t'.node? l = some (.file bytes) → ¬ new l → t.node? l = some (.file bytes)

namespace Frame

variable {lost new lost' new' : Location → Prop} {t t' t'' : FileTree}

theorem refl (t : FileTree) : Frame lost new t t := ⟨.refl t, fun h _ => h, fun h _ => h⟩

theorem trans (h : Frame lost new t t') (h' : Frame lost new t' t'') : Frame lost new t t'' :=
  ⟨h.keeps.trans h'.keeps, fun hl hn => h'.kept (h.kept hl hn) hn,
    fun hl hn => h.old (h'.old hl hn) hn⟩

theorem mono (h : Frame lost new t t') (hlost : ∀ l, lost l → lost' l) (hnew : ∀ l, new l → new' l) :
    Frame lost' new' t t' :=
  ⟨h.keeps, fun hl hn => h.kept hl fun hl' => hn (hlost _ hl'),
    fun hl hn => h.old hl fun hl' => hn (hnew _ hl')⟩

theorem load (h : Frame lost new t t') {p : Path} {bytes : ByteArray} (hp : t.load p = .ok bytes)
    (hl : ∀ l, t'.location? p = some l → ¬ lost l) : t'.load p = .ok bytes := by
  obtain ⟨l, hr, hn⟩ := load_eq_ok_iff.1 hp
  have hr' := h.keeps.reaches hr
  exact load_eq_ok_iff.2 ⟨l, hr', h.kept hn (hl l hr'.location?)⟩

end Frame

/-- The second tree has some of the directories that the paths lead to, and nothing else that the
first has not. -/
structure Made (paths : List Path) (t t' : FileTree) : Prop where
  frame : Frame (fun _ => False) (fun _ => False) t t'
  directory : ∀ {l}, t'.node? l = some .directory →
    t.node? l = some .directory ∨ ∃ q ∈ paths, t'.location? q = some l

namespace Made

variable {paths paths' : List Path} {t t' t'' : FileTree}

theorem refl (t : FileTree) : Made paths t t := ⟨.refl t, .inl⟩

theorem trans (h : Made paths t t') (h' : Made paths t' t'') : Made paths t t'' := by
  refine ⟨h.frame.trans h'.frame, fun hl => ?_⟩
  rcases h'.directory hl with hl | hl
  · rcases h.directory hl with hl | ⟨q, hq, hl⟩
    · exact .inl hl
    · exact .inr ⟨q, hq, h'.frame.keeps.location? hl⟩
  · exact .inr hl

theorem mono (h : Made paths t t') (hp : paths ⊆ paths') : Made paths' t t' := by
  refine ⟨h.frame, fun hl => ?_⟩
  rcases h.directory hl with hl | ⟨q, hq, hl⟩
  · exact .inl hl
  · exact .inr ⟨q, hp hq, hl⟩

theorem of_makeDirectory {p : Path} (hp : p ∈ paths) (h : t.makeDirectory p = .ok t') :
    Made paths t t' := by
  obtain ⟨l, hl, hn, rfl⟩ := makeDirectory_eq_ok h
  have hne := ne_nil_of_location? hl
  have hkeeps : Keeps t (t.put l .directory) := .put hne (by simp [hn])
  refine ⟨⟨hkeeps, fun {l' bytes} hf _ => ?_, fun {l' bytes} hf _ => ?_⟩, fun {l'} hd => ?_⟩
  · rw [node?_put t hne, if_neg]
    · exact hf
    · rintro rfl; simp [hn] at hf
  · rw [node?_put t hne] at hf
    split_ifs at hf
    · cases hf
    · exact hf
  · rw [node?_put t hne] at hd
    split_ifs at hd with hll
    · exact .inr ⟨p, hp, hll ▸ hkeeps.location? hl⟩
    · exact .inl hd

end Made

end FileTree

namespace World

/-! ## Runs on a world -/

@[simp] theorem bind_run {α β : Type} (x : StateM World α) (f : α → StateM World β) (w : World) :
    (x >>= f) w = f (x w).1 (x w).2 := rfl

@[simp] theorem pure_run {α : Type} (a : α) (w : World) : (pure a : StateM World α) w = (a, w) := rfl

theorem exists_run {α : Type} (x : StateM World α) (w : World) :
    ∃ result w', x w = (result, w') := ⟨_, _, rfl⟩

@[simp] theorem map_run {α β : Type} (f : α → β) (x : StateM World α) (w : World) :
    (f <$> x) w = (f (x w).1, (x w).2) := rfl

@[simp] theorem isDirectory_run (p : Path) (w : World) :
    (System.isDirectory p : StateM World Bool) w = (w.tree.isDirectory p, w) := rfl

@[simp] theorem makeDirectory_run (p : Path) (w : World) :
    (System.makeDirectory p : StateM World (Except Fault Unit)) w =
      w.withTree (w.tree.makeDirectory p) := rfl

@[simp] theorem store_run (p : Path) (bytes : ByteArray) (w : World) :
    (System.store p bytes : StateM World (Except Fault Unit)) w =
      w.withTree (w.tree.store p bytes) := rfl

@[simp] theorem move_run (source target : Path) (w : World) :
    (System.move source target : StateM World (Except Fault Unit)) w = w.move source target := rfl

@[simp] theorem remove_run (p : Path) (w : World) :
    (System.remove p : StateM World (Except Fault Unit)) w = w.remove p := rfl

@[simp] theorem withTree_ok (w : World) (t : FileTree) :
    w.withTree (.ok t) = (.ok (), { w with tree := t }) := rfl

@[simp] theorem withTree_error (w : World) (fault : Fault) :
    w.withTree (.error fault) = (.error fault, w) := rfl

end World

namespace Output

open FileTree

/-! ## Making directories -/

theorem makeDirectories_spec : ∀ (paths : List Path) (w : World), ∃ result t,
    (makeDirectories paths : StateM World (Except Fault Unit)) w = (result, { w with tree := t }) ∧
      Made paths w.tree t ∧
      ∀ fault, result = .error fault → ∃ q ∈ paths, t.isDirectory q = false
  | [], w => ⟨.ok (), w.tree, rfl, .refl _, nofun⟩
  | p :: around, w => by
    have hmem : p ∈ p :: around := List.mem_cons_self
    -- A fault that comes last is forgiven if the directory is there.
    have hlast : ∀ (t : FileTree) (fault : Fault), ∀ fault',
        (if t.isDirectory p then Except.ok () else .error fault) = .error fault' →
          ∃ q ∈ p :: around, t.isDirectory q = false := by
      intro t fault fault' h
      refine ⟨p, hmem, ?_⟩
      split_ifs at h with hd
      simpa using hd
    cases hm : w.tree.makeDirectory p with
    | ok t =>
      refine ⟨.ok (), t, ?_, .of_makeDirectory hmem hm, nofun⟩
      simp [makeDirectories, hm]
    | error fault =>
      -- Only where something around it is missing is the directory tried a second time.
      by_cases hf : fault = .notFound
      · subst hf
        obtain ⟨result, t, hrun, hmade, hfault⟩ := makeDirectories_spec around w
        have hmade := hmade.mono (List.subset_cons_self p around)
        cases result with
        | error fault =>
          obtain ⟨q, hq, hd⟩ := hfault fault rfl
          refine ⟨.error fault, t, ?_, hmade, fun _ _ => ⟨q, List.mem_cons_of_mem p hq, hd⟩⟩
          simp [makeDirectories, hm, hrun]
        | ok =>
          cases hm' : t.makeDirectory p with
          | ok t' =>
            refine ⟨.ok (), t', ?_, hmade.trans (.of_makeDirectory hmem hm'), nofun⟩
            simp [makeDirectories, hm, hrun, hm']
          | error fault =>
            refine ⟨_, t, ?_, hmade, hlast t fault⟩
            simp [makeDirectories, hm, hrun, hm']
            rfl
      · refine ⟨_, w.tree, ?_, .refl _, hlast w.tree fault⟩
        cases fault <;> first | exact absurd rfl hf | (simp [makeDirectories, hm]; rfl)

/-! ## The path and its sibling -/

/-- A path and its sibling lead to different places. -/
theorem location?_sibling_ne {t : FileTree} {p : Path} {l l' : Location}
    (h : t.location? (sibling p) = some l) (h' : t.location? p = some l') : l ≠ l' := by
  obtain ⟨d, name, slash, hp, rfl⟩ := location?_eq_some_iff.1 h
  obtain ⟨d', name', slash', hp', rfl⟩ := location?_eq_some_iff.1 h'
  obtain ⟨-, -, -, -, outer, hn, -⟩ := place_eq_entry hp
  obtain ⟨-, hdot, hdots, -, outer', hn', -⟩ := place_eq_entry hp'
  obtain ⟨around, hs⟩ := sibling_names p
  -- The path ends in the file name that the name of the sibling is made of.
  have hname : name = name' ++ ".tmp" := by
    have hf := Path.fileName?_eq_some hn' hdot hdots
    rw [hs, siblingName, hf] at hn
    exact (List.cons.inj hn).1.symm
  intro he
  have hlen := congrArg String.length ((List.cons.inj he).1.symm.trans hname)
  have htmp : ".tmp".length = 4 := rfl
  rw [String.length_append] at hlen
  omega

/-- To follow the path of the sibling is to enter all directories around the file. -/
theorem isDirectory_of_reaches_sibling {t : FileTree} {p parent q : Path} {l : Location}
    (hp : p.parent? = some parent) (hq : q ∈ parent.ancestors) (h : t.Reaches (sibling p) l) :
    t.isDirectory q = true := by
  obtain ⟨d, name, hplace, -⟩ := h
  obtain ⟨hu, -, -, -, outer, hn, hw⟩ := place_eq_entry hplace
  obtain ⟨hleads, more, hs⟩ := leads_sibling hp hq
  have hm : outer = more ++ q.names := (List.cons.inj (hn.symm.trans hs)).2
  have ho : t.origin (sibling p) = t.origin q := by simp only [origin, hleads.isAbsolute_eq]
  rw [hm, ho, walk_append] at hw
  obtain ⟨d', hd, -⟩ := bind_eq_ok_iff.1 hw
  exact isDirectory_of_walk (hleads.usable hu) hd

/-! ## What a replacement can come to -/

/-- The sibling was written and removed again. -/
structure Withdrawn (p : Path) (t t' : FileTree) (l : Location) : Prop where
  keeps : Keeps t t'
  source : t'.Reaches (sibling p) l
  node : ∀ x, t'.node? x = if x = l then none else t.node? x

/-- The sibling was written and moved. -/
structure Moved (p : Path) (bytes : ByteArray) (t t' : FileTree) (l l' : Location) : Prop where
  keeps : Keeps t t'
  source : t'.Reaches (sibling p) l
  target : t'.Reaches p l'
  node : ∀ x, t'.node? x =
    if x = l' then some (.file bytes) else if x = l then none else t.node? x

theorem Withdrawn.of_put {p : Path} {t : FileTree} {l : Location} (hl : t.Reaches (sibling p) l)
    (hd : t.node? l ≠ some .directory) (bytes : ByteArray) :
    Withdrawn p t ((t.put l (.file bytes)).erase l) l := by
  have hne := hl.ne_nil
  have hput : Keeps t (t.put l (.file bytes)) := .put hne hd
  have hkeeps := hput.trans (.erase hne (by simp [node?_put t hne]))
  refine ⟨hkeeps, hkeeps.reaches hl, fun x => ?_⟩
  rw [node?_erase _ hne, node?_put t hne]
  split_ifs <;> rfl

theorem Moved.of_move {p : Path} {t t' : FileTree} {l : Location} {bytes : ByteArray}
    (hl : t.Reaches (sibling p) l) (hd : t.node? l ≠ some .directory)
    (hm : (t.put l (.file bytes)).move (sibling p) p = .ok t') :
    ∃ l', (t.put l (.file bytes)).Reaches p l' ∧ Moved p bytes t t' l l' := by
  have hne := hl.ne_nil
  have hput : Keeps t (t.put l (.file bytes)) := .put hne hd
  obtain ⟨l₁, l', moved, hl₁, hl', hn, hd', rfl⟩ := move_eq_ok_iff.1 hm
  obtain rfl := hl₁.unique (hput.reaches hl)
  obtain rfl : bytes = moved := by simpa [node?_put t hne] using hn
  have hne' := hl'.ne_nil
  have hll : l' ≠ l₁ := fun he => location?_sibling_ne hl₁.location? hl'.location? he.symm
  have herase : Keeps (t.put l₁ (.file bytes)) ((t.put l₁ (.file bytes)).erase l₁) :=
    .erase hne (by simp [node?_put t hne])
  have hkeeps : Keeps (t.put l₁ (.file bytes))
      (((t.put l₁ (.file bytes)).erase l₁).put l' (.file bytes)) :=
    herase.trans (.put hne' (by simpa [node?_erase _ hne, hll] using hd'))
  refine ⟨l', hl', hput.trans hkeeps, hkeeps.reaches hl₁, hkeeps.reaches hl', fun x => ?_⟩
  rw [node?_put _ hne', node?_erase _ hne, node?_put t hne]
  split_ifs <;> rfl

/-- What the writing of a file by way of its sibling can come to. -/
inductive Outcome (p : Path) (bytes : ByteArray) (w : World) : Except TableError Unit → World → Prop
  | missed (e : TableError) (h : w.tree.isFile (sibling p) = false) : Outcome p bytes w (.error e) w
  | withdrawn (e : TableError) {t : FileTree} {l : Location} (h : Withdrawn p w.tree t l) :
    Outcome p bytes w (.error e) { w with tree := t, logPlace := w.logPlace.afterRemove (some l) }
  | moved {t : FileTree} {l l' : Location} (h : Moved p bytes w.tree t l l') :
    Outcome p bytes w (.ok ())
      { w with tree := t, logPlace := w.logPlace.afterMove (some l) (some l') }

/-- After a fault the sibling is removed, if there is one. -/
theorem storeAndMove_outcome (p : Path) (text : String) (w : World) : ∃ result w',
    (storeAndMove p text : StateM World (Except TableError Unit)) w = (result, w') ∧
      Outcome p text.toUTF8 w result
        (match result with
        | .error _ => (w'.remove (sibling p)).2
        | .ok () => w') := by
  unfold storeAndMove
  generalize text.toUTF8 = bytes
  cases hs : w.tree.store (sibling p) bytes with
  | error fault =>
    -- Only a file could be written there, so no file is there and nothing can be removed.
    have hmissed : ∀ l, w.tree.Reaches (sibling p) l → w.tree.node? l = some .directory := by
      intro l hl
      by_contra hd
      have hok : w.tree.store (sibling p) bytes = .ok _ := store_eq_ok_iff.2 ⟨l, ⟨hl, hd⟩, rfl⟩
      rw [hs] at hok
      cases hok
    refine ⟨.error (.io .creating (sibling p) fault), w, by simp [hs], ?_⟩
    have hremove : (w.remove (sibling p)).2 = w := by
      unfold World.remove
      cases hr : w.tree.remove (sibling p) with
      | error fault => rfl
      | ok t =>
        obtain ⟨l, before, hl, hn, -⟩ := remove_eq_ok_iff.1 hr
        rw [hmissed l hl] at hn
        cases hn
    have hfile : w.tree.isFile (sibling p) = false :=
      isFile_eq_false fun l before hl => by simp [hmissed l hl]
    simpa only [hremove] using Outcome.missed _ hfile
  | ok t =>
    obtain ⟨l, ⟨hl, hd⟩, rfl⟩ := store_eq_ok_iff.1 hs
    have hput : Keeps w.tree (w.tree.put l (.file bytes)) := .put hl.ne_nil hd
    have hl' := hput.reaches hl
    cases hm : (w.tree.put l (.file bytes)).move (sibling p) p with
    | error fault =>
      refine ⟨.error (.io .replacing p fault), { w with tree := w.tree.put l (.file bytes) },
        by simp [hs, World.move, hm], ?_⟩
      have hnode : (w.tree.put l (.file bytes)).node? l = some (.file bytes) := by
        simp [node?_put _ hl.ne_nil]
      have hr := remove_eq_ok_iff.2 ⟨l, bytes, hl', hnode, rfl⟩
      simp only [World.remove, hr, hl'.location?]
      exact .withdrawn _ (.of_put hl hd bytes)
    | ok t =>
      obtain ⟨l', hp, hmoved⟩ := Moved.of_move hl hd hm
      exact ⟨.ok (), _, by simp [hs, World.move, hm, hl'.location?, hp.location?], .moved hmoved⟩

/-- **What a replacement can come to.** The directories around the file are made as far as they can
be. Then the sibling is not reached, or it is written and removed again, or it is moved. -/
theorem replaceFile_cases (p : Path) (text : String) (w : World) :
    ∃ t result w', (replaceFile p text : StateM World (Except TableError Unit)) w = (result, w') ∧
      Made (p.parent?.elim [] Path.ancestors) w.tree t ∧
      Outcome p text.toUTF8 { w with tree := t } result w' := by
  cases hp : p.parent? with
  | none =>
    obtain ⟨result, w', hrun, h⟩ := storeAndMove_outcome p text w
    refine ⟨w.tree, _, _, ?_, .refl _, h⟩
    cases result <;> simp [replaceFile, hp, hrun]
  | some parent =>
    obtain ⟨made, t, hmake, hmade, hfault⟩ := makeDirectories_spec parent.ancestors w
    cases made with
    | error fault =>
      refine ⟨t, .error (.io .creatingDirectory parent fault), { w with tree := t }, ?_, hmade,
        .missed _ ?_⟩
      · simp [replaceFile, hp, hmake]
      · obtain ⟨q, hq, hd⟩ := hfault fault rfl
        refine isFile_eq_false fun l before hl _ => ?_
        rw [isDirectory_of_reaches_sibling hp hq hl] at hd
        cases hd
    | ok =>
      obtain ⟨result, w', hrun, h⟩ := storeAndMove_outcome p text { w with tree := t }
      refine ⟨t, _, _, ?_, hmade, h⟩
      cases result <;> simp [replaceFile, hp, hmake, hrun]

theorem Withdrawn.frame {p : Path} {t t' : FileTree} {l : Location} (h : Withdrawn p t t' l) :
    Frame (fun l => t'.location? (sibling p) = some l) (fun _ => False) t t' := by
  refine ⟨h.keeps, fun {x bytes} hx hn => ?_, fun {x bytes} hx _ => ?_⟩
  · rw [h.node, if_neg]
    · exact hx
    · rintro rfl; exact hn h.source.location?
  · rw [h.node] at hx
    split_ifs at hx
    exact hx

theorem Moved.frame {p : Path} {bytes : ByteArray} {t t' : FileTree} {l l' : Location}
    (h : Moved p bytes t t' l l') :
    Frame (fun l => t'.location? (sibling p) = some l ∨ t'.location? p = some l)
      (fun l => t'.location? p = some l) t t' := by
  refine ⟨h.keeps, fun {x before} hx hn => ?_, fun {x after} hx hn => ?_⟩
  · rw [h.node, if_neg, if_neg]
    · exact hx
    · rintro rfl; exact hn (.inl h.source.location?)
    · rintro rfl; exact hn (.inr h.target.location?)
  · rw [h.node] at hx
    split_ifs at hx with hl'
    · exact absurd (hl' ▸ h.target.location?) hn
    · exact hx

namespace Outcome

variable {p : Path} {bytes : ByteArray} {w w' : World} {result : Except TableError Unit}

theorem frame (h : Outcome p bytes w result w') :
    Frame (fun l => w'.tree.location? (sibling p) = some l ∨
        result = .ok () ∧ w'.tree.location? p = some l)
      (fun l => result = .ok () ∧ w'.tree.location? p = some l) w.tree w'.tree := by
  cases h with
  | missed e => exact .refl _
  | withdrawn e h => exact h.frame.mono (fun _ => .inl) nofun
  | moved h => exact h.frame.mono (fun _ hl => hl.imp_right (⟨rfl, ·⟩)) fun _ hl => ⟨rfl, hl⟩

theorem directory (h : Outcome p bytes w result w') {l : Location}
    (hl : w'.tree.node? l = some .directory) : w.tree.node? l = some .directory := by
  cases h with
  | missed e => exact hl
  | withdrawn e h =>
    rw [h.node] at hl
    split_ifs at hl
    exact hl
  | moved h =>
    rw [h.node] at hl
    split_ifs at hl
    · cases hl
    · exact hl

theorem load_of_ok (h : Outcome p bytes w (.ok ()) w') : w'.tree.load p = .ok bytes ∧
    ∃ l, w'.tree.location? (sibling p) = some l ∧ w'.tree.node? l = none := by
  cases h with
  | @moved t l l' h =>
    have hll : l ≠ l' := location?_sibling_ne h.source.location? h.target.location?
    exact ⟨load_eq_ok_iff.2 ⟨l', h.target, by simp [h.node]⟩,
      l, h.source.location?, by simp [h.node, hll]⟩

theorem isFile_sibling_of_error {e : TableError} (h : Outcome p bytes w (.error e) w') :
    w'.tree.isFile (sibling p) = false := by
  cases h with
  | missed _ h => exact h
  | withdrawn _ h =>
    refine isFile_eq_false fun l before hl => ?_
    simp [h.node, hl.unique h.source]

end Outcome

/-- **A replacement is all or nothing.** After success the file holds the new text and its sibling is
gone. After a fault no file has changed but one that the path of the sibling leads to, which is gone.
Either way no other file changes, directories stay, and the new ones are around the file. Paths are
followed in the tree that is left; what they led to before, they still lead to (`Keeps.location?`). -/
theorem replaceFile_spec (p : Path) (text : String) (w : World) :
    let after := (replaceFile p text : StateM World (Except TableError Unit)) w
    let t := w.tree
    let t' := after.2.tree
    (after.1 = .ok () →
      t'.load p = .ok text.toUTF8 ∧
        ∃ l, t'.location? (sibling p) = some l ∧ t'.node? l = none) ∧
    (∀ e, after.1 = .error e →
      (∀ l bytes, t.node? l = some (.file bytes) → t'.location? (sibling p) ≠ some l →
        t'.node? l = some (.file bytes)) ∧
      (∀ bytes, t.load p = .ok bytes → t'.load p = .ok bytes) ∧
      (∀ l bytes, t'.node? l = some (.file bytes) → t.node? l = some (.file bytes)) ∧
      t'.isFile (sibling p) = false) ∧
    (∀ l bytes, t'.location? p ≠ some l → t'.location? (sibling p) ≠ some l →
      (t'.node? l = some (.file bytes) ↔ t.node? l = some (.file bytes))) ∧
    (∀ l, t.node? l = some .directory → t'.node? l = some .directory) ∧
    (∀ l, t'.node? l = some .directory → t.node? l = some .directory ∨
      ∃ parent, p.parent? = some parent ∧ ∃ q ∈ parent.ancestors, t'.location? q = some l) := by
  obtain ⟨made, result, w', hrun, hmade, h⟩ := replaceFile_cases p text w
  rw [hrun]
  have hframe := (hmade.frame.mono nofun nofun).trans h.frame
  refine ⟨?_, ?_, ?_, fun l => hframe.keeps.directory, ?_⟩
  · rintro rfl
    exact h.load_of_ok
  · rintro e rfl
    refine ⟨fun l bytes hl hn => hframe.kept hl ?_, fun bytes hload => hframe.load hload ?_,
      fun l bytes hl => hframe.old hl ?_, h.isFile_sibling_of_error⟩
    · rintro (hs | ⟨⟨⟩, -⟩)
      exact hn hs
    · rintro l hl (hs | ⟨⟨⟩, -⟩)
      exact location?_sibling_ne hs hl rfl
    · rintro ⟨⟨⟩, -⟩
  · intro l bytes hp hs
    refine ⟨fun hl => hframe.old hl fun hl' => hp hl'.2, fun hl => hframe.kept hl ?_⟩
    rintro (hl' | ⟨-, hl'⟩)
    · exact hs hl'
    · exact hp hl'
  · intro l hl
    rcases hmade.directory (h.directory hl) with hl | ⟨q, hq, hl⟩
    · exact .inl hl
    · right
      cases hp : p.parent? with
      | none => simp [hp] at hq
      | some parent => exact ⟨parent, rfl, q, by simpa [hp] using hq, h.frame.keeps.location? hl⟩

end Output

end EntropyTables
