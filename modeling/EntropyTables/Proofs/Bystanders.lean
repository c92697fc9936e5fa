import EntropyTables.Proofs.Replacing
import EntropyTables.Run
/-!
# What a run leaves alone

A run logs, reads its input and replaces its output. Each of its steps is `Confined`: it changes no
file but the one that the log goes to, the output and the sibling of the output, and the last two
only if the run gets as far as writing. Confined steps compose (`Confined.trans`), since a log goes
to another file only by following the sibling to the output.

Main statement: `run_bystanders` (every other file is what it was, the input among them). The sibling
has a fixed name, so that a file that has this name is lost (`run_takes_sibling`).
-/
namespace EntropyTables

open FileTree
open Output (sibling)

/-- From the first world to the second, no files were changed but the one that the log goes to and,
if there was a writing of the path, those that the path and its sibling lead to. -/
structure Confined (writes : Prop) (p : Path) (w w' : World) : Prop where
  frame : Frame
    (fun l => w.logPlace = .file l ∨ writes ∧
      (w'.tree.location? (sibling p) = some l ∨ w'.tree.location? p = some l))
    (fun l => w.logPlace = .file l ∨ writes ∧ w'.tree.location? p = some l) w.tree w'.tree
  log : ∀ l, w'.logPlace = .file l →
    w.logPlace = .file l ∨ writes ∧ w'.tree.location? p = some l

namespace Confined

variable {writes writes' : Prop} {p : Path} {w w' w'' : World}

theorem refl (w : World) : Confined writes p w w := ⟨.refl _, fun _ => .inl⟩

theorem trans (h : Confined writes p w w') (h' : Confined writes p w' w'') :
    Confined writes p w w'' := by
  have hp : ∀ {q l}, w'.tree.location? q = some l → w''.tree.location? q = some l :=
    h'.frame.keeps.location?
  have hlog : ∀ {l}, w'.logPlace = .file l →
      w.logPlace = .file l ∨ writes ∧ w''.tree.location? p = some l :=
    fun hl => (h.log _ hl).imp_right fun hl => ⟨hl.1, hp hl.2⟩
  -- Locations of the tree between are locations of the last tree.
  refine ⟨.trans (h.frame.mono ?_ ?_) (h'.frame.mono ?_ ?_), ?_⟩
  · rintro l (hl | ⟨hw, hl⟩)
    · exact .inl hl
    · exact .inr ⟨hw, hl.imp hp hp⟩
  · rintro l (hl | ⟨hw, hl⟩)
    · exact .inl hl
    · exact .inr ⟨hw, hp hl⟩
  · rintro l (hl | hl)
    · exact (hlog hl).imp_right fun hl => ⟨hl.1, .inr hl.2⟩
    · exact .inr hl
  · rintro l (hl | hl)
    · exact hlog hl
    · exact .inr hl
  · intro l hl
    rcases h'.log l hl with hl | hl
    · exact hlog hl
    · exact .inr hl

theorem mono (h : Confined writes p w w') (hw : writes → writes') : Confined writes' p w w' :=
  ⟨h.frame.mono (fun _ hl => hl.imp_right (·.imp_left hw)) fun _ hl => hl.imp_right (·.imp_left hw),
    fun l hl => (h.log l hl).imp_right (·.imp_left hw)⟩

end Confined

def Confines {α : Type} (writes : Prop) (p : Path) (x : StateM World α) : Prop :=
  ∀ w, Confined writes p w (x w).2

namespace Confines

variable {α β : Type} {writes : Prop} {p : Path}

theorem pure (a : α) : Confines writes p (Pure.pure a) := fun w => .refl w

theorem bind {x : StateM World α} {f : α → StateM World β} (hx : Confines writes p x)
    (hf : ∀ a, Confines writes p (f a)) : Confines writes p (x >>= f) :=
  fun w => (hx w).trans (hf _ _)

end Confines

/-! ## Logging -/

section

variable {writes : Prop} {p : Path}

theorem FileTree.frame_append (t : FileTree) (l : Location) (bytes : ByteArray) :
    Frame (· = l) (· = l) t (t.append l bytes) := by
  unfold append
  split
  · next before hn =>
    have hne : l ≠ [] := by rintro rfl; simp [node?] at hn
    refine ⟨.put hne (by simp [hn]), fun {x after} hx hl => ?_, fun {x after} hx hl => ?_⟩
    · rw [node?_put t hne, if_neg hl]
      exact hx
    · rwa [node?_put t hne, if_neg hl] at hx
  · exact .refl t

theorem log_confines (text : String) : Confines writes p (System.log text : StateM World Unit) := by
  intro w
  show Confined writes p w (w.log text)
  unfold World.log
  split
  · exact ⟨.refl _, fun _ => .inl⟩
  · next l hl =>
    refine ⟨(w.tree.frame_append l _).mono ?_ ?_, fun _ => .inl⟩
    · rintro _ rfl; exact .inl hl
    · rintro _ rfl; exact .inl hl
  · exact .refl w

theorem record_confines (logger : Log.Logger) (event : Log.Event) :
    Confines writes p (record logger event : StateM World Unit) := by
  have hnow : Confines writes p (System.now : StateM World String) := fun w => .refl w
  refine hnow.bind fun clock => ?_
  cases logger.line? clock event with
  | none => exact .pure ()
  | some line => exact log_confines line

theorem recordAll_confines (logger : Log.Logger) : ∀ events : List Log.Event,
    Confines writes p (recordAll logger events : StateM World Unit)
  | [] => .pure ()
  | event :: rest => (record_confines logger event).bind fun _ => recordAll_confines logger rest

end

/-! ## Writing -/

/-- The log stays where it is, or follows its file to the path. -/
theorem Output.Outcome.log {p : Path} {bytes : ByteArray} {w w' : World}
    {result : Except TableError Unit} (h : Output.Outcome p bytes w result w') {l : Location}
    (hl : w'.logPlace = .file l) : w.logPlace = .file l ∨ w'.tree.location? p = some l := by
  cases h with
  | missed e => exact .inl hl
  | @withdrawn e t removed h =>
    simp only [LogPlace.afterRemove] at hl
    split at hl
    · split_ifs at hl
      exact .inl (by simp_all)
    · exact .inl hl
  | @moved t source target h =>
    simp only [LogPlace.afterMove] at hl
    split at hl
    · split_ifs at hl
      · cases hl
        exact .inr h.target.location?
      · exact .inl (by simp_all)
    · exact .inl hl

theorem replaceFile_confines (p : Path) (text : String) :
    Confines True p (Output.replaceFile p text : StateM World (Except TableError Unit)) := by
  intro w
  obtain ⟨made, result, w', hrun, hmade, h⟩ := Output.replaceFile_cases p text w
  rw [hrun]
  have hframe := (hmade.frame.mono nofun nofun).trans h.frame
  refine ⟨hframe.mono ?_ ?_, fun l hl => (h.log hl).imp_right (⟨trivial, ·⟩)⟩
  · rintro l (hl | ⟨-, hl⟩)
    · exact .inr ⟨trivial, .inl hl⟩
    · exact .inr ⟨trivial, .inr hl⟩
  · rintro l ⟨-, hl⟩
    exact .inr ⟨trivial, hl⟩

theorem deliver_confines {writes : Prop} (logger : Log.Logger) (r : Request)
    (hw : r.dryRun = false → writes) (rendered : String) :
    Confines writes r.output
      (deliver logger r rendered : StateM World (Except TableError (Option Path))) := by
  unfold deliver
  cases hdry : r.dryRun with
  | true => exact .pure _
  | false =>
    have hreplace : Confines writes r.output
        (Output.replaceFile r.output rendered : StateM World (Except TableError Unit)) :=
      fun w => (replaceFile_confines r.output rendered w).mono fun _ => hw hdry
    refine hreplace.bind fun result => ?_
    cases result with
    | error e => exact .pure _
    | ok => exact (record_confines logger _).bind fun _ => .pure _

/-! ## The run -/

theorem readSource_run (p : Path) (w : World) : ∃ result,
    (readSource p : StateM World (Except TableError (List String))) w = (result, w) ∧
      ∀ raw, result = .ok raw → ∃ bytes text, w.tree.load p = .ok bytes ∧
        String.fromUTF8? bytes = some text ∧ raw = Text.stringLines text := by
  have hload : (System.load p : StateM World (Except Fault ByteArray)) w = (w.tree.load p, w) := rfl
  unfold readSource readText
  simp only [World.bind_run, hload]
  cases w.tree.load p with
  | error fault => exact ⟨_, rfl, nofun⟩
  | ok bytes =>
    cases ht : String.fromUTF8? bytes with
    | none =>
      refine ⟨.error (.io .reading p .notUtf8), ?_, nofun⟩
      simp [ht]
    | some text =>
      refine ⟨.ok (Text.stringLines text), by simp [ht], ?_⟩
      rintro _ ⟨⟩
      exact ⟨bytes, text, rfl, ht, rfl⟩

namespace Request

/-- The run gets as far as replacing the output file. -/
def Writes (r : Request) (t : FileTree) : Prop :=
  r.dryRun = false ∧ ∃ bytes text entries, t.load r.input = .ok bytes ∧
    String.fromUTF8? bytes = some text ∧ collect r.selection (Text.stringLines text) = .ok entries

theorem run_confined (logger : Log.Logger) (r : Request) (w : World) :
    Confined (r.Writes w.tree) r.output w
      ((r.run logger : StateM World (Except TableError Report)) w).2 := by
  obtain ⟨result, hread, hsource⟩ := readSource_run r.input w
  unfold run
  simp only [World.bind_run, hread]
  cases result with
  | error e => exact .refl w
  | ok raw =>
    -- The input was read before anything was logged, so it is that of the tree before the run.
    obtain ⟨bytes, text, hload, htext, hraw⟩ := hsource raw rfl
    refine ((record_confines logger _).bind fun _ =>
      (recordAll_confines logger _).bind fun _ => ?_) w
    cases hentries : (Collection.ofRaw r.selection raw).entries with
    | error e => exact .pure _
    | ok entries =>
      have hw : r.dryRun = false → r.Writes w.tree :=
        fun hdry => ⟨hdry, bytes, text, entries, hload, htext, hraw ▸ hentries⟩
      refine (record_confines logger _).bind fun _ =>
        (deliver_confines logger r hw _).bind fun delivered => ?_
      cases delivered with
      | error e => exact .pure _
      | ok output => exact (record_confines logger _).bind fun _ => .pure _

end Request

/-- **A run leaves the other files alone.** Whatever the run comes to, the files that it has made or
changed are the output and the one that the log goes to. Of the others it can only have lost the
sibling of the output, and only if it got as far as writing. So the input is what it was unless it is
one of these. -/
theorem run_bystanders (logger : Log.Logger) (r : Request) (w : World) :
    let t := w.tree
    let t' := ((r.run logger : StateM World (Except TableError Report)) w).2.tree
    (∀ l bytes, w.logPlace ≠ .file l → t'.location? r.output ≠ some l →
      t'.node? l = some (.file bytes) → t.node? l = some (.file bytes)) ∧
    (∀ l bytes, w.logPlace ≠ .file l → t'.location? r.output ≠ some l →
      (t'.location? (sibling r.output) = some l → ¬ r.Writes t) →
      t.node? l = some (.file bytes) → t'.node? l = some (.file bytes)) ∧
    (∀ l bytes, t.location? r.input = some l → w.logPlace ≠ .file l →
      t'.location? r.output ≠ some l → (t'.location? (sibling r.output) = some l → ¬ r.Writes t) →
      t.load r.input = .ok bytes → t'.load r.input = .ok bytes) := by
  have h := (r.run_confined logger w).frame
  intro t t'
  have hkept : ∀ l, w.logPlace ≠ .file l → t'.location? r.output ≠ some l →
      (t'.location? (sibling r.output) = some l → ¬ r.Writes t) →
      ¬ (w.logPlace = .file l ∨ r.Writes t ∧
        (t'.location? (sibling r.output) = some l ∨ t'.location? r.output = some l)) := by
    rintro l hlog hout hs (hl | ⟨hw, hl | hl⟩)
    · exact hlog hl
    · exact hs hl hw
    · exact hout hl
  refine ⟨fun l bytes hlog hout hl => h.old hl ?_,
    fun l bytes hlog hout hs hl => h.kept hl (hkept l hlog hout hs),
    fun l bytes hin hlog hout hs hload => h.load hload fun l' hl' => ?_⟩
  · rintro (hl | ⟨-, hl⟩)
    · exact hlog hl
    · exact hout hl
  · obtain rfl := Option.some.inj ((h.keeps.location? hin).symm.trans hl')
    exact hkept l hlog hout hs

/-- A file that has the name of the sibling is lost, here the input of the run, and a file that the
log goes to grows. -/
theorem run_takes_sibling :
    let bytes := "3 5 6 7 4 8 9 10\n".toUTF8
    let w := World.start (.build [] [(⟨"out.txt.tmp"⟩, bytes), (⟨"log.txt"⟩, .empty)]) [] ""
    let r : Request := ⟨.ctxIdxInc, ⟨"out.txt.tmp"⟩, ⟨"out.txt"⟩, false⟩
    let quiet := (r.run .silent : StateM World (Except TableError Report)) w
    let logger : Log.Logger := ⟨.configured (some .info), .pretty, false⟩
    let told := (r.run logger : StateM World (Except TableError Report)) (w.openLog ⟨"log.txt"⟩).2
    w.tree.load r.input = .ok bytes ∧ quiet.1.isOk = true ∧
      quiet.2.tree.location? r.output ≠ w.tree.location? r.input ∧
      quiet.2.tree.load r.input = .error .notFound ∧
      w.tree.load ⟨"log.txt"⟩ = .ok .empty ∧
      told.2.tree.location? r.output ≠ told.2.tree.location? ⟨"log.txt"⟩ ∧
      told.2.tree.load ⟨"log.txt"⟩ ≠ .ok .empty := by
  decide +kernel

end EntropyTables
