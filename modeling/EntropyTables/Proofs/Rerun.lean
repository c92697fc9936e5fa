import EntropyTables.Proofs.Bystanders
import EntropyTables.Proofs.SilentRuns
/-!
# Running again

A replacement that was made once can be made again, and then changes nothing at all: the directories
are there (`makeDirectories_again`), the sibling is free again, and what is put where it was already
gives the same tree (`storeAndMove_again`).

Main statement: `run_again`. The second run reads what the first has read, as long as the input is
neither the output nor its sibling.
-/
namespace EntropyTables

open FileTree
open Output (sibling)

namespace FileTree

/-! ## The same change twice -/

theorem erase_put (t : FileTree) (l : Location) (node : Node) :
    (t.put l node).erase l = t.erase l := by
  simp [put, erase, List.filter_filter]

/-- What was put last can be put again, with nothing in another place before and after. -/
theorem put_erase_put (t : FileTree) {l l' : Location} (h : l ≠ l') (node : Node) :
    (((t.erase l).put l' node).erase l).put l' node = (t.erase l).put l' node := by
  have hl : (l' != l) = true := by simpa using h.symm
  simp only [put, erase, List.filter_cons, hl, if_true, bne_self_eq_false, Bool.false_eq_true,
    if_false, List.filter_filter]
  congr 2
  refine List.filter_congr fun entry _ => ?_
  cases entry.1 != l <;> cases entry.1 != l' <;> rfl

theorem makeDirectory_of_isDirectory {t : FileTree} {p : Path} (h : t.isDirectory p = true) :
    t.makeDirectory p = .error .alreadyExists := by
  unfold isDirectory at h
  unfold makeDirectory
  split at h
  · next hp => simp [hp]
  · next d name slash hp =>
    split at h
    · next hf => simp [hp, hf]
    · cases h
  · cases h

/-- **A file that was stored and moved** can be stored and moved again, with the same tree left. -/
theorem store_move_again {t stored t' : FileTree} {p : Path} {bytes : ByteArray}
    (hs : t.store (sibling p) bytes = .ok stored) (hm : stored.move (sibling p) p = .ok t') :
    ∃ stored', t'.store (sibling p) bytes = .ok stored' ∧ stored'.move (sibling p) p = .ok t' := by
  obtain ⟨l, ⟨hl, hd⟩, rfl⟩ := store_eq_ok_iff.1 hs
  have hput : Keeps t (t.put l (.file bytes)) := .put hl.ne_nil hd
  obtain ⟨l', hl', hmoved⟩ := Output.Moved.of_move hl hd hm
  have hne : l ≠ l' := Output.location?_sibling_ne hmoved.source.location? hmoved.target.location?
  have htree : t' = (t.erase l).put l' (.file bytes) := by
    obtain ⟨l₁, l₁', moved, hl₁, hl₁', hn, -, rfl⟩ := move_eq_ok_iff.1 hm
    obtain rfl := hl₁.unique (hput.reaches hl)
    obtain rfl := hl₁'.unique hl'
    obtain rfl : bytes = moved := by simpa [node?_put t hl.ne_nil] using hn
    rw [erase_put]
  -- The place of the sibling is free after the first move, and its name leads there still.
  have hfree : t'.node? l ≠ some .directory := by simp [hmoved.node, hne]
  have hkeeps : Keeps t' (t'.put l (.file bytes)) := .put hl.ne_nil hfree
  refine ⟨t'.put l (.file bytes), store_eq_ok_iff.2 ⟨l, ⟨hmoved.source, hfree⟩, rfl⟩, ?_⟩
  refine move_eq_ok_iff.2 ⟨l, l', bytes, hkeeps.reaches hmoved.source, hkeeps.reaches hmoved.target,
    by simp [node?_put t' hl.ne_nil], ?_, ?_⟩
  · simp [node?_put t' hl.ne_nil, hne.symm, hmoved.node]
  · rw [erase_put, htree, put_erase_put t hne]

end FileTree

namespace Output

/-! ## The same replacement twice -/

theorem makeDirectories_again {t : FileTree} {paths : List Path}
    (h : ∀ p ∈ paths, t.isDirectory p = true) {w : World} (hw : w.tree = t) :
    (makeDirectories paths : StateM World (Except Fault Unit)) w = (.ok (), w) := by
  cases paths with
  | nil => rfl
  | cons p around =>
    have hp := h p List.mem_cons_self
    subst hw
    simp [makeDirectories, makeDirectory_of_isDirectory hp, hp]

theorem storeAndMove_eq_ok {p : Path} {text : String} {w w' : World}
    (h : (storeAndMove p text : StateM World (Except TableError Unit)) w = (.ok (), w')) :
    ∃ stored, w.tree.store (sibling p) text.toUTF8 = .ok stored ∧
      stored.move (sibling p) p = .ok w'.tree := by
  unfold storeAndMove at h
  generalize text.toUTF8 = bytes at h ⊢
  cases hs : w.tree.store (sibling p) bytes with
  | error fault =>
    simp only [World.bind_run, World.store_run, hs, World.withTree_error, World.pure_run] at h
    cases h
  | ok stored =>
    cases hm : stored.move (sibling p) p with
    | error fault =>
      simp only [World.bind_run, World.store_run, hs, World.withTree_ok, World.move_run, World.move,
        hm, World.pure_run] at h
      cases h
    | ok t =>
      simp only [World.bind_run, World.store_run, hs, World.withTree_ok, World.move_run, World.move,
        hm, World.pure_run] at h
      obtain rfl := (Prod.mk.inj h).2
      exact ⟨stored, rfl, hm⟩

theorem storeAndMove_run {p : Path} {text : String} {w : World} {stored t : FileTree}
    (hs : w.tree.store (sibling p) text.toUTF8 = .ok stored)
    (hm : stored.move (sibling p) p = .ok t) (hlog : w.logPlace = .standardError) :
    (storeAndMove p text : StateM World (Except TableError Unit)) w =
      (.ok (), { w with tree := t }) := by
  unfold storeAndMove
  generalize text.toUTF8 = bytes at hs ⊢
  simp [hs, World.move, hm, hlog, LogPlace.afterMove]

theorem replaceFile_eq_ok {p : Path} {text : String} {w w' : World}
    (h : (replaceFile p text : StateM World (Except TableError Unit)) w = (.ok (), w')) :
    ∃ t, (storeAndMove p text : StateM World (Except TableError Unit)) { w with tree := t } =
      (.ok (), w') := by
  -- A fault of the last step is still a fault once the sibling is removed.
  cases hp : p.parent? with
  | none =>
    obtain ⟨result, w₁, hrun⟩ := World.exists_run (storeAndMove p text) w
    refine ⟨w.tree, hrun.trans ?_⟩
    cases result with
    | error e =>
      simp only [replaceFile, hp, World.bind_run, hrun, World.remove_run, World.pure_run] at h
      cases h
    | ok => simpa [replaceFile, hp, hrun] using h
  | some parent =>
    obtain ⟨made, t, hmake, -, -⟩ := makeDirectories_spec parent.ancestors w
    cases made with
    | error fault =>
      simp only [replaceFile, hp, World.bind_run, hmake, World.pure_run] at h
      cases h
    | ok =>
      obtain ⟨result, w₁, hrun⟩ := World.exists_run (storeAndMove p text) { w with tree := t }
      refine ⟨t, hrun.trans ?_⟩
      cases result with
      | error e =>
        simp only [replaceFile, hp, World.bind_run, hmake, hrun, World.remove_run,
          World.pure_run] at h
        cases h
      | ok => simpa [replaceFile, hp, hmake, hrun] using h

/-- **A replacement that was made** can be made again, which changes nothing. -/
theorem replaceFile_again {p : Path} {text : String} {w w' again : World}
    (h : (replaceFile p text : StateM World (Except TableError Unit)) w = (.ok (), w'))
    (htree : again.tree = w'.tree) (hlog : again.logPlace = .standardError) :
    (replaceFile p text : StateM World (Except TableError Unit)) again = (.ok (), again) := by
  obtain ⟨t, hrun⟩ := replaceFile_eq_ok h
  obtain ⟨stored, hs, hm⟩ := storeAndMove_eq_ok hrun
  obtain ⟨stored', hs', hm'⟩ := store_move_again hs hm
  rw [← htree] at hs' hm'
  have hwrite := storeAndMove_run hs' hm' hlog
  obtain ⟨l, ⟨hl, -⟩, -⟩ := store_eq_ok_iff.1 hs'
  unfold replaceFile
  cases hp : p.parent? with
  | none => simp [hwrite]
  | some parent =>
    have hmake := makeDirectories_again
      (fun q hq => isDirectory_of_reaches_sibling hp hq hl) rfl
    simp [hmake, hwrite]

end Output

/-! ## The same run twice -/

namespace Request

theorem produce_congr {r : Request} {t t' : FileTree} {bytes : ByteArray}
    (h : t.load r.input = .ok bytes) (h' : t'.load r.input = .ok bytes) :
    r.produce t' = r.produce t := by
  unfold produce FileTree.sourceLines
  rw [h, h']

end Request

/-- **A run can be repeated.** After a run that replaced its output, the same request has the same
report, the files stay exactly as they are, and the output holds the generated text and nothing
else. The input must not be the output or the sibling; where the three lead is asked of the tree
after the first run, in which the directories around the output are there. -/
theorem run_again (logger logger' : Log.Logger) {r : Request} {w w' : World} {report : Report}
    (hlog : w.logPlace = .standardError) (hlog' : w'.logPlace = .standardError)
    (hdry : r.dryRun = false)
    (hok : ((r.run logger : StateM World (Except TableError Report)) w).1 = .ok report)
    (htree : w'.tree = ((r.run logger : StateM World (Except TableError Report)) w).2.tree)
    (hout : w'.tree.location? r.output ≠ w'.tree.location? r.input)
    (hsibling : w'.tree.location? (sibling r.output) ≠ w'.tree.location? r.input) :
    ((r.run logger' : StateM World (Except TableError Report)) w').1 = .ok report ∧
      ((r.run logger' : StateM World (Except TableError Report)) w').2.tree = w'.tree ∧
      w'.tree.load r.output = .ok report.rendered.toUTF8 := by
  -- The log does not matter, so both runs can be silent.
  obtain ⟨hresult, halike⟩ := r.run_agree logger .silent w w ⟨rfl, rfl, hlog, hlog⟩
  obtain ⟨hresult', halike'⟩ := r.run_agree logger' .silent w' w' ⟨rfl, rfl, hlog', hlog'⟩
  obtain ⟨first, w₁, hfirst⟩ := World.exists_run (r.run .silent) w
  rw [hfirst] at hresult halike
  obtain rfl : first = .ok report := hresult.symm.trans hok
  have htree₁ : w'.tree = w₁.tree := htree.trans halike.tree
  obtain ⟨hproduce, hreplace⟩ := Request.run_silent_eq_ok hdry hfirst
  -- The input holds what it held.
  obtain ⟨made, result, w₂, hrun, hmade, houtcome⟩ :=
    Output.replaceFile_cases r.output report.rendered w
  cases hreplace.symm.trans hrun
  have hframe := (hmade.frame.mono nofun nofun).trans houtcome.frame
  obtain ⟨raw, entries, hraw, -, -⟩ := Request.produce_eq_ok_iff.1 hproduce
  obtain ⟨bytes, text, hload, -, -⟩ := FileTree.sourceLines_eq_ok_iff.1 hraw
  have hload' : w'.tree.load r.input = .ok bytes := by
    rw [htree₁]
    refine hframe.load hload fun l hl => ?_
    rw [← htree₁] at hl ⊢
    rintro (hs | ⟨-, ho⟩)
    · exact hsibling (hs.trans hl.symm)
    · exact hout (ho.trans hl.symm)
  have hproduce' : r.produce w'.tree = .ok report := by
    rw [← hproduce]
    exact Request.produce_congr hload hload'
  have hagain : (r.run .silent : StateM World (Except TableError Report)) w' =
      (.ok report, w') := by
    rw [Request.run_silent]
    simp only [hproduce', Request.settle, hdry, Output.replaceFile_again hreplace htree₁ hlog']
    rfl
  rw [hagain] at hresult' halike'
  refine ⟨hresult', halike'.tree, ?_⟩
  rw [htree₁]
  exact houtcome.load_of_ok.1

/-- Two runs, the first of which makes the directory of the output. -/
theorem run_again_new_directory :
    let r : Request := ⟨.ctxIdxInc, ⟨"in.txt"⟩, ⟨"./new/out.txt"⟩, false⟩
    let run (w : World) := (r.run .silent : StateM World (Except TableError Report)) w
    let w := World.start (.build [] [(⟨"in.txt"⟩, "3 5 6 7 4 8 9 10\n".toUTF8)]) [] ""
    let w' := World.start (run w).2.tree [] "later"
    (w.tree.isDirectory ⟨"new"⟩ = false ∧ (run w).1.isOk = true ∧
      w'.tree.location? r.output ≠ w'.tree.location? r.input ∧
      w'.tree.location? (sibling r.output) ≠ w'.tree.location? r.input) ∧
      ∃ report, (run w).1 = .ok report ∧ (run w').1 = .ok report ∧ (run w').2.tree = w'.tree ∧
        w'.tree.load r.output = .ok report.rendered.toUTF8 := by
  intro r run w w'
  have h : w.tree.isDirectory ⟨"new"⟩ = false ∧ (run w).1.isOk = true ∧
      w'.tree.location? r.output ≠ w'.tree.location? r.input ∧
      w'.tree.location? (sibling r.output) ≠ w'.tree.location? r.input := by decide +kernel
  obtain ⟨report, hok⟩ : ∃ report, (run w).1 = .ok report := by
    have hisOk := h.2.1
    generalize (run w).1 = result at hisOk
    cases result with
    | error e => cases hisOk
    | ok report => exact ⟨report, rfl⟩
  exact ⟨h, report, hok, run_again .silent .silent rfl rfl rfl hok rfl h.2.2.1 h.2.2.2⟩

end EntropyTables
