import EntropyTables.Proofs.Agreement
/-!
# What a run comes to

Under the silent logger nothing stands between the steps of a run, and a run is told by the files
alone: `Request.produce` is what it would report, and only a replacement of the output stands
between that and the end (`run_silent`). By agreement the same holds under any logger whose lines
go to standard error.
-/
namespace EntropyTables

open Log (Event Logger)

/-! ## Silence -/

theorem line?_silent (clock : String) (event : Event) : Logger.silent.line? clock event = none := by
  have hadmits : Log.Filter.admits [] event = false := by
    have hrank : 0 < event.level.rank := by cases event.level <;> decide
    have hevent : (Log.Filter.threshold [] event).admits event.level = false := by
      have hnone : Log.Filter.threshold [] event = none := rfl
      simp only [hnone, Log.Threshold.admits, Log.Threshold.rank, decide_eq_false_iff_not]
      omega
    unfold Log.Filter.admits
    rw [hevent]
    cases event.span with
    | none => rfl
    | some table => rfl
  simp only [Logger.line?, Logger.silent, hadmits]
  rfl

@[simp] theorem record_silent_run (event : Event) (w : World) :
    (record .silent event : StateM World Unit) w = ((), w) := by
  unfold record
  simp only [World.bind_run, line?_silent]
  rfl

@[simp] theorem recordAll_silent_run (w : World) : ∀ events : List Event,
    (recordAll .silent events : StateM World Unit) w = ((), w)
  | [] => rfl
  | event :: rest => by
    unfold recordAll
    rw [World.bind_run, record_silent_run]
    exact recordAll_silent_run w rest

/-! ## Runs -/

namespace FileTree

def sourceLines (t : FileTree) (p : Path) : Except TableError (List String) :=
  match t.load p with
  | .error fault => .error (.io .reading p fault)
  | .ok bytes =>
    match String.fromUTF8? bytes with
    | none => .error (.io .reading p .notUtf8)
    | some text => .ok (Text.stringLines text)

theorem sourceLines_eq_ok_iff {t : FileTree} {p : Path} {raw : List String} :
    t.sourceLines p = .ok raw ↔ ∃ bytes text, t.load p = .ok bytes ∧
      String.fromUTF8? bytes = some text ∧ raw = Text.stringLines text := by
  unfold sourceLines
  cases t.load p with
  | error fault => simp
  | ok bytes =>
    cases ht : String.fromUTF8? bytes with
    | none => simp [ht]
    | some text => simp [ht, eq_comm]

end FileTree

@[simp] theorem readSource_eq (p : Path) (w : World) :
    (readSource p : StateM World (Except TableError (List String))) w =
      (w.tree.sourceLines p, w) := by
  have hload : (System.load p : StateM World (Except Fault ByteArray)) w = (w.tree.load p, w) := rfl
  unfold readSource readText FileTree.sourceLines
  simp only [World.bind_run, hload]
  cases w.tree.load p with
  | error fault => rfl
  | ok bytes =>
    cases ht : String.fromUTF8? bytes with
    | none => simp [ht]
    | some text => simp [ht]

namespace Request

/-- What a run reports, unless the output cannot be replaced. -/
def produce (r : Request) (t : FileTree) : Except TableError Report :=
  t.sourceLines r.input >>= fun raw =>
    (collect r.selection raw).map fun entries =>
      ⟨r.selection.table, r.input, if r.dryRun then none else some r.output, raw.length,
        entries.length, r.selection.render entries⟩

/-- The end of a run that has something to report: a dry run leaves the files alone, any other
replaces the output. -/
def settle (r : Request) (report : Report) (w : World) : Except TableError Report × World :=
  if r.dryRun then (.ok report, w)
  else
    match (Output.replaceFile r.output report.rendered :
      StateM World (Except TableError Unit)) w with
    | (.error e, w') => (.error e, w')
    | (.ok (), w') => (.ok report, w')

/-- The end of a run keeps what a replacement keeps. -/
theorem settle_lockstep {R : World → World → Prop} {logger logger' : Logger}
    (h : Replaces R logger logger') (r : Request) (report : Report) :
    Lockstep R R (r.settle report) (r.settle report) := by
  intro w w' hw
  unfold settle
  cases r.dryRun with
  | true => exact ⟨rfl, hw⟩
  | false =>
    have hreplace := h.replaceFile r.output report.rendered w w' hw
    obtain ⟨result, w₁, hrun⟩ := World.exists_run (Output.replaceFile r.output report.rendered) w
    obtain ⟨result', w₁', hrun'⟩ :=
      World.exists_run (Output.replaceFile r.output report.rendered) w'
    rw [hrun, hrun'] at hreplace ⊢
    obtain ⟨hresult, hworld⟩ := hreplace
    obtain rfl : result = result' := hresult
    cases result with
    | error e => exact ⟨rfl, hworld⟩
    | ok => exact ⟨rfl, hworld⟩

/-- **A silent run.** The output is replaced once there is something to report. -/
theorem run_silent (r : Request) (w : World) :
    (r.run .silent : StateM World (Except TableError Report)) w =
      match r.produce w.tree with
      | .error e => (.error e, w)
      | .ok report => r.settle report w := by
  unfold run produce
  simp only [World.bind_run, readSource_eq]
  cases w.tree.sourceLines r.input with
  | error e => rfl
  | ok raw =>
    have hcollect : (Collection.ofRaw r.selection raw).entries = collect r.selection raw := rfl
    simp only [World.bind_run, record_silent_run, recordAll_silent_run, ok_bind, hcollect]
    cases collect r.selection raw with
    | error e => rfl
    | ok entries =>
      simp only [World.bind_run, record_silent_run, map_ok, deliver, settle]
      cases hdry : r.dryRun with
      | true => simp
      | false =>
        obtain ⟨result, w', hrun⟩ :=
          World.exists_run (Output.replaceFile r.output (r.selection.render entries)) w
        cases result with
        | error e => simp [hrun]
        | ok => simp [hrun]

theorem produce_eq_ok_iff {r : Request} {t : FileTree} {report : Report} :
    r.produce t = .ok report ↔ ∃ raw entries, t.sourceLines r.input = .ok raw ∧
      collect r.selection raw = .ok entries ∧
      report = ⟨r.selection.table, r.input, if r.dryRun then none else some r.output, raw.length,
        entries.length, r.selection.render entries⟩ := by
  unfold produce
  rw [bind_eq_ok_iff]
  constructor
  · rintro ⟨raw, hraw, h⟩
    obtain ⟨entries, hentries, rfl⟩ := map_eq_ok_iff.1 h
    exact ⟨raw, entries, hraw, hentries, rfl⟩
  · rintro ⟨raw, entries, hraw, hentries, rfl⟩
    exact ⟨raw, hraw, map_eq_ok_iff.2 ⟨entries, hentries, rfl⟩⟩

theorem isNone_output_of_produce {r : Request} {t : FileTree} {report : Report}
    (h : r.produce t = .ok report) : report.output.isNone = r.dryRun := by
  obtain ⟨raw, entries, -, -, rfl⟩ := produce_eq_ok_iff.1 h
  cases r.dryRun <;> rfl

theorem run_silent_eq_ok {r : Request} {w w' : World} {report : Report} (hdry : r.dryRun = false)
    (h : (r.run .silent : StateM World (Except TableError Report)) w = (.ok report, w')) :
    r.produce w.tree = .ok report ∧
      (Output.replaceFile r.output report.rendered : StateM World (Except TableError Unit)) w =
        (.ok (), w') := by
  rw [run_silent] at h
  cases hp : r.produce w.tree with
  | error e =>
    simp only [hp] at h
    cases h
  | ok produced =>
    obtain ⟨result, w₁, hrun⟩ :=
      World.exists_run (Output.replaceFile r.output produced.rendered) w
    simp only [hp, settle, hdry, hrun] at h
    cases result with
    | error e => cases h
    | ok =>
      cases h
      exact ⟨rfl, hrun⟩

theorem run_silent_dry {r : Request} (hdry : r.dryRun = true) (w : World) :
    (r.run .silent : StateM World (Except TableError Report)) w = (r.produce w.tree, w) := by
  rw [run_silent]
  cases r.produce w.tree with
  | error e => rfl
  | ok report => exact if_pos hdry

theorem settle_frame (r : Request) (report : Report) (w : World) :
    (r.settle report w).2.terminal = w.terminal ∧
      ∀ e, (r.settle report w).1 = .error e →
        ∀ bytes, w.tree.load r.output = .ok bytes →
          (r.settle report w).2.tree.load r.output = .ok bytes := by
  unfold settle
  by_cases hdry : r.dryRun = true
  · rw [if_pos hdry]
    exact ⟨rfl, nofun⟩
  · rw [if_neg hdry]
    obtain ⟨made, result, w', hrun, hmade, houtcome⟩ :=
      Output.replaceFile_cases r.output report.rendered w
    rw [hrun]
    have hterminal : w'.terminal = w.terminal := by cases houtcome <;> rfl
    cases result with
    | ok => exact ⟨hterminal, nofun⟩
    | error fault =>
      refine ⟨hterminal, fun _ _ bytes hload => ?_⟩
      have hframe := (hmade.frame.mono nofun nofun).trans houtcome.frame
      refine hframe.load hload fun l hl => ?_
      rintro (hs | ⟨⟨⟩, -⟩)
      exact Output.location?_sibling_ne hs hl rfl

/-- **What a run leaves alone**: the console, and after a fault the bytes of the output. -/
theorem run_silent_frame {r : Request} {w w' : World} {result : Except TableError Report}
    (h : (r.run .silent : StateM World (Except TableError Report)) w = (result, w')) :
    w'.terminal = w.terminal ∧ ∀ e, result = .error e →
      ∀ bytes, w.tree.load r.output = .ok bytes → w'.tree.load r.output = .ok bytes := by
  rw [run_silent] at h
  cases hp : r.produce w.tree with
  | error e =>
    simp only [hp] at h
    cases h
    exact ⟨rfl, fun _ _ _ => id⟩
  | ok report =>
    simp only [hp] at h
    have hframe := r.settle_frame report w
    rw [h] at hframe
    exact hframe

end Request

end EntropyTables
