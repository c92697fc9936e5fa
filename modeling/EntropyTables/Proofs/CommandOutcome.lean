import EntropyTables.Proofs.DryRunOption
import EntropyTables.Proofs.SilentRuns
/-!
# What the command `generate` comes to

A run of `generate` ends in one of three ways (`Ending`): it does not learn which form of the table
is wanted, or its request fails, or it is done. What is shown, the exit code and the files follow
from the way it ends, and a dry run ends well whenever the text can be generated
(`Ending.shown_of_text`).

Main statement: `generate_outcome`.
-/
namespace EntropyTables

namespace World

def showing (w : World) (text : String) : World :=
  { w with terminal := { w.terminal with shown := w.terminal.shown ++ text } }

@[simp] theorem showing_tree (w : World) (text : String) : (w.showing text).tree = w.tree := rfl

@[simp] theorem showing_shown (w : World) (text : String) :
    (w.showing text).terminal.shown = w.terminal.shown ++ text := rfl

@[simp] theorem complain_run (w : World) (text : String) :
    (System.complain text : StateM World Unit) w =
      ((), { w with errors := w.errors ++ text }) := rfl

theorem write_run (text : String) {w : World} (h : w.terminal.writeFault = none) :
    (Console.write text : StateM World (Except Fault Unit)) w = (.ok (), w.showing text) := by
  have hanswer : Terminal.answer w.terminal.writeFault = .ok () := by rw [h]; rfl
  have hnone : w.terminal.writeFault.isNone = true := by rw [h]; rfl
  show (Terminal.answer w.terminal.writeFault,
    { w with terminal := if w.terminal.writeFault.isNone then _ else w.terminal }) = _
  rw [hanswer, if_pos hnone]
  rfl

theorem flush_run {w : World} (h : w.terminal.flushFault = none) :
    (Console.flush : StateM World (Except Fault Unit)) w = (.ok (), w) := by
  show (Terminal.answer w.terminal.flushFault, w) = _
  rw [h]
  rfl

end World

namespace Command

/-- A command to generate a table, under the settings that were found. -/
structure Generation where
  settings : Settings
  table : Table
  input : Option Path
  output : Option Path
  mode : Option CavlcMode
  dryRun : Bool

namespace Generation

/-- The command that the arguments ask for. -/
def job (g : Generation) : Job := .generate g.table g.input g.output g.mode g.dryRun

/-- The same command without writing. -/
def dry (g : Generation) : Generation := { g with dryRun := true }

def source (g : Generation) : Path := g.input.getD (g.settings.inputFor g.table)

def target (g : Generation) : Path := g.output.getD (g.settings.outputFor g.table)

/-- What is asked before the table is generated: the form of the CAVLC table, where neither an
option nor a setting says it. -/
def asked (g : Generation) : String :=
  if g.table = .cavlc ∧ g.mode = none ∧ g.settings.cavlc.mode = none then Prompt.question else ""

def chosen (g : Generation) (stdin : List UInt8) : Except TableError CavlcMode :=
  if g.table ≠ .cavlc then .ok .lut
  else
    match g.mode.or g.settings.cavlc.mode with
    | some mode => .ok mode
    | none => Prompt.chosen ⟨(Terminal.splitLine stdin).1.toArray⟩

def request (g : Generation) (mode : CavlcMode) : Request :=
  ⟨.of g.table mode, g.source, g.target, g.dryRun⟩

def text (g : Generation) (t : FileTree) (stdin : List UInt8) : Except TableError String :=
  g.chosen stdin >>= fun mode =>
    t.sourceLines g.source >>= fun raw => transform (.of g.table mode) raw

variable {g : Generation} {t : FileTree} {stdin : List UInt8}

/-- What a request reports is the text. -/
theorem text_eq_ok_iff {text : String} :
    g.text t stdin = .ok text ↔ ∃ mode report, g.chosen stdin = .ok mode ∧
      (g.request mode).produce t = .ok report ∧ report.rendered = text := by
  unfold Generation.text
  rw [bind_eq_ok_iff]
  constructor
  · rintro ⟨mode, hmode, h⟩
    obtain ⟨raw, hraw, h⟩ := bind_eq_ok_iff.1 h
    obtain ⟨entries, hentries, rfl⟩ := map_eq_ok_iff.1 h
    exact ⟨mode, _, hmode, Request.produce_eq_ok_iff.2 ⟨raw, entries, hraw, hentries, rfl⟩, rfl⟩
  · rintro ⟨mode, report, hmode, hreport, rfl⟩
    obtain ⟨raw, entries, hraw, hentries, rfl⟩ := Request.produce_eq_ok_iff.1 hreport
    refine ⟨mode, hmode, bind_eq_ok_iff.2 ⟨raw, hraw, ?_⟩⟩
    exact map_eq_ok_iff.2 ⟨entries, hentries, rfl⟩

/-! ## Steps -/

theorem say_run (text : String) {w : World} (h : w.terminal.writeFault = none) :
    (say text : StateM World Unit) w = ((), w.showing text) := by
  simp [say, World.write_run text h]

theorem ask_run {w : World} (hw : w.terminal.writeFault = none)
    (hf : w.terminal.flushFault = none) : ∃ w',
    (Prompt.ask : StateM World (Except TableError CavlcMode)) w =
      (Prompt.chosen ⟨(Terminal.splitLine w.terminal.input).1.toArray⟩, w') ∧
      w'.tree = w.tree ∧ w'.terminal.shown = w.terminal.shown ++ Prompt.question ∧
      w'.terminal.writeFault = none := by
  have hflush : (Console.flush : StateM World (Except Fault Unit)) (w.showing Prompt.question) =
      (.ok (), w.showing Prompt.question) := World.flush_run hf
  unfold Prompt.ask
  simp only [World.bind_run, World.write_run Prompt.question hw, hflush]
  exact ⟨_, rfl, rfl, rfl, hw⟩

/-- The form is settled after the question is shown, if there is one. -/
theorem resolveMode_run (g : Generation) {w : World} (hw : w.terminal.writeFault = none)
    (hf : w.terminal.flushFault = none) : ∃ w',
    (resolveMode g.settings g.table g.mode : StateM World (Except TableError CavlcMode)) w =
      (g.chosen w.terminal.input, w') ∧
      w'.tree = w.tree ∧ w'.terminal.shown = w.terminal.shown ++ g.asked ∧
      w'.terminal.writeFault = none := by
  unfold resolveMode chosen asked
  by_cases ht : g.table = .cavlc
  · cases hmode : g.mode with
    | some mode => exact ⟨w, by simp [ht], rfl, by simp, hw⟩
    | none =>
      cases hset : g.settings.cavlc.mode with
      | some mode => exact ⟨w, by simp [ht], rfl, by simp, hw⟩
      | none => simpa [ht] using ask_run hw hf
  · exact ⟨w, by simp [ht], rfl, by simp [ht], hw⟩

/-! ## The ways a command ends -/

/-- How the command ends, on the files and the bytes of standard input: with an exit code, a shown
text and the files that are left. -/
inductive Ending (g : Generation) (t : FileTree) (stdin : List UInt8) :
    UInt32 → String → FileTree → Prop
  /-- The form is not settled. -/
  | undecided {e : TableError} (h : g.chosen stdin = .error e) : Ending g t stdin 1 g.asked t
  /-- The request fails. -/
  | failed {mode : CavlcMode} {e : TableError} {w w' : World} (h : g.chosen stdin = .ok mode)
      (htree : w.tree = t)
      (hrun : ((g.request mode).run .silent : StateM World (Except TableError Report)) w =
        (.error e, w')) :
      Ending g t stdin 1 (g.asked ++ startBanner) w'.tree
  /-- The request succeeds. A text that was not written is shown. -/
  | done {mode : CavlcMode} {report : Report} {w w' : World} (h : g.chosen stdin = .ok mode)
      (htree : w.tree = t)
      (hrun : ((g.request mode).run .silent : StateM World (Except TableError Report)) w =
        (.ok report, w')) :
      Ending g t stdin 0
        (g.asked ++ startBanner ++ (if report.output.isNone then report.rendered else "")
          ++ successBanner) w'.tree

/-- **A silent command ends in one of these ways.** -/
theorem generate_ending (g : Generation) (t : FileTree) (stdin : List UInt8) (clock : String) :
    let after := (generate .silent g.settings g.table g.input g.output g.mode g.dryRun :
      StateM World UInt32) (.start t stdin clock)
    g.Ending t stdin after.1 after.2.terminal.shown after.2.tree := by
  obtain ⟨w₁, hresolve, htree₁, hshown₁, hwrite₁⟩ :=
    resolveMode_run g (w := .start t stdin clock) rfl rfl
  have hshown₁ : w₁.terminal.shown = g.asked := by
    rw [hshown₁]
    exact String.empty_append
  have hsay := say_run startBanner hwrite₁
  unfold generate
  simp only [World.bind_run, hresolve]
  cases hchosen : g.chosen stdin with
  | error e =>
    have hstdin : g.chosen (World.start t stdin clock).terminal.input = .error e := hchosen
    simp only [hstdin, World.bind_run, World.complain_run, World.pure_run, hshown₁, htree₁]
    exact .undecided hchosen
  | ok mode =>
    have hstdin : g.chosen (World.start t stdin clock).terminal.input = .ok mode := hchosen
    obtain ⟨result, w₂, hrun⟩ :=
      World.exists_run ((g.request mode).run .silent) (w₁.showing startBanner)
    have htree₂ : (w₁.showing startBanner).tree = t := htree₁
    have hterminal := (Request.run_silent_frame hrun).1
    have hwrite₂ : w₂.terminal.writeFault = none := by
      rw [hterminal]
      exact hwrite₁
    have hshown₂ : w₂.terminal.shown = g.asked ++ startBanner := by
      rw [hterminal, World.showing_shown, hshown₁]
    have hrequest : (⟨.of g.table mode, g.input.getD (g.settings.inputFor g.table),
        g.output.getD (g.settings.outputFor g.table), g.dryRun⟩ : Request) = g.request mode := rfl
    simp only [hstdin, World.bind_run, record_silent_run, hsay, hrequest, hrun]
    cases result with
    | error e =>
      simp only [World.bind_run, World.complain_run, World.pure_run, hshown₂]
      exact .failed hchosen htree₂ hrun
    | ok report =>
      have hend := Ending.done hchosen htree₂ hrun
      cases hnone : report.output.isNone with
      | true =>
        have hwrite₃ : (w₂.showing report.rendered).terminal.writeFault = none := hwrite₂
        rw [if_pos hnone] at hend
        simp only [hnone, if_true, World.bind_run, say_run report.rendered hwrite₂,
          say_run successBanner hwrite₃, record_silent_run, World.pure_run, World.showing_shown,
          World.showing_tree, hshown₂]
        exact hend
      | false =>
        rw [hnone, if_neg Bool.false_ne_true, String.append_empty] at hend
        simp only [hnone, Bool.false_eq_true, if_false, World.bind_run,
          say_run successBanner hwrite₂, record_silent_run, World.pure_run, World.showing_shown,
          World.showing_tree, hshown₂]
        exact hend

namespace Ending

variable {code : UInt32} {shown : String} {t' : FileTree}

/-- **What is shown has one of three shapes**, and the last of them exactly on success. -/
theorem shape (h : g.Ending t stdin code shown t') :
    (code = 0 ∨ code = 1) ∧
    (shown = g.asked ∨ shown = g.asked ++ startBanner ∨
      ∃ r, shown = g.asked ++ startBanner ++ r ++ successBanner) ∧
    (code = 0 ↔ ∃ r, shown = g.asked ++ startBanner ++ r ++ successBanner) := by
  -- A text that ends in the second banner is longer than the other two.
  have hlonger : ∀ r, g.asked.length < (g.asked ++ startBanner ++ r ++ successBanner).length ∧
      (g.asked ++ startBanner).length < (g.asked ++ startBanner ++ r ++ successBanner).length := by
    intro r
    have hstart : startBanner.length = 11 := rfl
    have hsuccess : successBanner.length = 9 := rfl
    simp only [String.length_append]
    omega
  cases h with
  | undecided h =>
    refine ⟨.inr rfl, .inl rfl, nofun, ?_⟩
    rintro ⟨r, hr⟩
    have hlt := (hlonger r).1
    rw [← hr] at hlt
    omega
  | failed h htree hrun =>
    refine ⟨.inr rfl, .inr (.inl rfl), nofun, ?_⟩
    rintro ⟨r, hr⟩
    have hlt := (hlonger r).2
    rw [← hr] at hlt
    omega
  | done h htree hrun => exact ⟨.inl rfl, .inr (.inr ⟨_, rfl⟩), fun _ => ⟨_, rfl⟩, fun _ => rfl⟩

/-- A success is a request that succeeds. -/
theorem of_success (h : g.Ending t stdin 0 shown t') :
    ∃ mode report w w', g.chosen stdin = .ok mode ∧ w.tree = t ∧
      ((g.request mode).run .silent : StateM World (Except TableError Report)) w =
        (.ok report, w') ∧
      shown = g.asked ++ startBanner ++ (if report.output.isNone then report.rendered else "")
        ++ successBanner ∧
      t' = w'.tree := by
  generalize hcode : (0 : UInt32) = code at h
  cases h with
  | undecided h => cases hcode
  | failed h htree hrun => cases hcode
  | done h htree hrun => exact ⟨_, _, _, _, h, htree, hrun, rfl, rfl⟩

/-- A success without a dry run wrote the text. -/
theorem written (h : g.Ending t stdin 0 shown t') (hdry : g.dryRun = false) :
    ∃ text, g.text t stdin = .ok text ∧ shown = g.asked ++ startBanner ++ successBanner ∧
      t'.load g.target = .ok text.toUTF8 := by
  obtain ⟨mode, report, w, w', hmode, rfl, hrun, rfl, rfl⟩ := h.of_success
  obtain ⟨hproduce, hreplace⟩ := Request.run_silent_eq_ok hdry hrun
  obtain ⟨made, result, w₂, hcases, -, houtcome⟩ :=
    Output.replaceFile_cases (g.request mode).output report.rendered w
  cases hreplace.symm.trans hcases
  have houtput : report.output.isNone = false :=
    (Request.isNone_output_of_produce hproduce).trans hdry
  refine ⟨report.rendered, text_eq_ok_iff.2 ⟨mode, report, hmode, hproduce, rfl⟩, ?_,
    houtcome.load_of_ok.1⟩
  simp [houtput]

/-- **A dry run** succeeds when there is a text, which it shows; it changes no file. -/
theorem shown_of_text {text : String} (h : g.Ending t stdin code shown t') (hdry : g.dryRun = true)
    (htext : g.text t stdin = .ok text) :
    code = 0 ∧ shown = g.asked ++ startBanner ++ text ++ successBanner ∧ t' = t := by
  obtain ⟨mode, report, hmode, hproduce, rfl⟩ := text_eq_ok_iff.1 htext
  cases h with
  | undecided h =>
    rw [hmode] at h
    cases h
  | failed h htree hrun =>
    cases hmode.symm.trans h
    rw [Request.run_silent_dry hdry, htree, hproduce] at hrun
    cases hrun
  | done h htree hrun =>
    cases hmode.symm.trans h
    rw [Request.run_silent_dry hdry, htree, hproduce] at hrun
    cases hrun
    have houtput : report.output.isNone = true :=
      (Request.isNone_output_of_produce hproduce).trans hdry
    refine ⟨rfl, ?_, htree⟩
    rw [if_pos houtput]

theorem text_of_dry (h : g.Ending t stdin 0 shown t') (hdry : g.dryRun = true) :
    ∃ text, g.text t stdin = .ok text := by
  obtain ⟨mode, report, w, w', hmode, rfl, hrun, -, -⟩ := h.of_success
  rw [Request.run_silent_dry hdry] at hrun
  exact ⟨report.rendered, text_eq_ok_iff.2 ⟨mode, report, hmode, congrArg Prod.fst hrun, rfl⟩⟩

/-- After a failure an output that was there holds what it held. -/
theorem unchanged (h : g.Ending t stdin 1 shown t') {bytes : ByteArray}
    (hload : t.load g.target = .ok bytes) : t'.load g.target = .ok bytes := by
  generalize hcode : (1 : UInt32) = code at h
  cases h with
  | undecided h => exact hload
  | failed h htree hrun =>
    refine (Request.run_silent_frame hrun).2 _ rfl bytes ?_
    rw [htree]
    exact hload
  | done h htree hrun => cases hcode

end Ending

end Generation

/-! ## The program -/

theorem load_silent_run (p : Path) (w : World) : ∃ result,
    (Settings.load .silent p : StateM World (Except ConfigError Settings)) w = (result, w) := by
  obtain ⟨text, hread⟩ : ∃ text,
      (readText p : StateM World (Except Fault String)) w = (text, w) := by
    have hload : (System.load p : StateM World (Except Fault ByteArray)) w =
      (w.tree.load p, w) := rfl
    unfold readText
    simp only [World.bind_run, hload]
    cases w.tree.load p with
    | error fault => exact ⟨_, rfl⟩
    | ok bytes => exact ⟨_, rfl⟩
  unfold Settings.load
  simp only [World.bind_run, hread]
  cases text with
  | error fault => exact ⟨_, rfl⟩
  | ok text =>
    cases hs : Settings.ofText p text with
    | error e => exact ⟨.error e, by simp [hs]⟩
    | ok settings => exact ⟨.ok settings, by simp [hs]⟩

/-- A silent search for settings changes nothing. -/
theorem discover_silent_run (named : Option Path) (w : World) : ∃ result,
    (Settings.discover .silent named : StateM World (Except ConfigError Settings)) w =
      (result, w) := by
  unfold Settings.discover
  cases named with
  | some p => exact load_silent_run p w
  | none =>
    have hfile : (System.isFile Settings.defaultFile : StateM World Bool) w =
      (w.tree.isFile Settings.defaultFile, w) := rfl
    simp only [World.bind_run, hfile]
    cases w.tree.isFile Settings.defaultFile with
    | false => exact ⟨_, rfl⟩
    | true => exact load_silent_run Settings.defaultFile w

/-- Once its settings are found a command generates its table. -/
theorem Generation.perform_run (g : Generation) {config : Option Path} {logger : Log.Logger}
    {w w' : World} (h : (Settings.discover logger config :
      StateM World (Except ConfigError Settings)) w = (.ok g.settings, w')) :
    g.job.perform config logger w =
      (generate logger g.settings g.table g.input g.output g.mode g.dryRun : StateM World UInt32)
        w' := by
  unfold Job.perform
  simp only [World.bind_run, h]
  rfl

/-- **A run without a log file** ends as the silent command does. -/
theorem run_ending {args : List String} {environment : Option String} {options : Options}
    {g : Generation} {t : FileTree} {stdin : List UInt8} {clock : String}
    (hargs : Invocation.ofArguments args = .ok ⟨options, g.job⟩) (hlog : options.logFile = none)
    (hsettings : ((Settings.discover (options.logger environment) options.config :
      StateM World (Except ConfigError Settings)) (.start t stdin clock)).1 = .ok g.settings) :
    ∃ code after,
      (run args environment : StateM World UInt32) (.start t stdin clock) = (code, after) ∧
      g.Ending t stdin code after.terminal.shown after.tree := by
  have halike : Alike (.start t stdin clock) (.start t stdin clock) := ⟨rfl, rfl, rfl, rfl⟩
  obtain ⟨found, hdiscover⟩ := discover_silent_run options.config (.start t stdin clock)
  obtain rfl : found = .ok g.settings := by
    rw [← hsettings, (Agree.discover _ .silent options.config _ _ halike).1, hdiscover]
  have hperform := g.perform_run hdiscover
  obtain ⟨hcode, hworld⟩ :=
    g.job.perform_agree options.config (options.logger environment) .silent _ _ halike
  have hending := g.generate_ending t stdin clock
  obtain ⟨code, after, hafter⟩ := World.exists_run
    (g.job.perform options.config (options.logger environment)) (.start t stdin clock)
  rw [hafter, hperform] at hcode hworld
  refine ⟨code, after, (congrFun (run_eq_perform hargs hlog environment) _).trans hafter, ?_⟩
  have hcode : code = _ := hcode
  have htree : after.tree = _ := hworld.tree
  have hterminal : after.terminal = _ := hworld.terminal
  rw [hcode, htree, hterminal]
  exact hending

/-- **What the command `generate` comes to**, on any files and any standard input, if the settings
load and there is no log file. A run that succeeds shows what it asked, both banners and what it
generated instead of writing it; a run that fails shows less and leaves the output as it was. Where
a run succeeds in writing, the same command as a dry run shows what was written. -/
theorem generate_outcome {args : List String} {environment : Option String} {options : Options}
    {g : Generation} {t : FileTree} {stdin : List UInt8} {clock : String}
    (hargs : Invocation.ofArguments args = .ok ⟨options, g.job⟩) (hlog : options.logFile = none)
    (hsettings : ((Settings.discover (options.logger environment) options.config :
      StateM World (Except ConfigError Settings)) (.start t stdin clock)).1 = .ok g.settings) :
    let run (args : List String) :=
      (run args environment : StateM World UInt32) (.start t stdin clock)
    let code := (run args).1
    let after := (run args).2
    let shown := after.terminal.shown
    let started := g.asked ++ startBanner
    (code = 0 ∨ code = 1) ∧
    (shown = g.asked ∨ shown = started ∨ ∃ r, shown = started ++ r ++ successBanner) ∧
    (code = 0 ↔ ∃ r, shown = started ++ r ++ successBanner) ∧
    (code = 0 → g.dryRun = false → ∃ text, g.text t stdin = .ok text ∧
      shown = started ++ successBanner ∧ after.tree.load g.target = .ok text.toUTF8) ∧
    (code = 0 → g.dryRun = true → ∃ text, g.text t stdin = .ok text ∧
      shown = started ++ text ++ successBanner ∧ after.tree = t) ∧
    (code = 1 → ∀ bytes, t.load g.target = .ok bytes → after.tree.load g.target = .ok bytes) ∧
    (code = 0 → g.dryRun = false →
      (∃ before rest, args = before ++ "generate" :: rest ∧
        Invocation.ofArguments (before ++ "generate" :: "--dry-run" :: rest) =
          .ok ⟨options, g.dry.job⟩) ∧
      ∀ args', Invocation.ofArguments args' = .ok ⟨options, g.dry.job⟩ →
        (run args').1 = 0 ∧
        ∃ text, (run args').2.terminal.shown = started ++ text ++ successBanner ∧
          after.tree.load g.target = .ok text.toUTF8) := by
  obtain ⟨code, after, hrun, hend⟩ := run_ending hargs hlog hsettings
  simp only [hrun]
  obtain ⟨hcodes, hshapes, hiff⟩ := hend.shape
  refine ⟨hcodes, hshapes, hiff, ?_, ?_, ?_, ?_⟩
  · rintro rfl hdry
    exact hend.written hdry
  · rintro rfl hdry
    obtain ⟨text, htext⟩ := hend.text_of_dry hdry
    exact ⟨text, htext, (hend.shown_of_text hdry htext).2⟩
  · rintro rfl bytes hload
    exact hend.unchanged hload
  · rintro rfl hdry
    constructor
    · rw [Generation.job, hdry] at hargs
      exact ofArguments_dryRun hargs
    · intro args' hargs'
      obtain ⟨text, htext, -, hload⟩ := hend.written hdry
      -- The text does not depend on whether it is written.
      have htext' : g.dry.text t stdin = .ok text := htext
      obtain ⟨code', after', hrun', hend'⟩ := run_ending hargs' hlog hsettings
      obtain ⟨hcode', hshown', -⟩ := hend'.shown_of_text rfl htext'
      simp only [hrun']
      exact ⟨hcode', text, hshown', hload⟩

/-- A command that asks for the form of the table, and writes over an earlier output. -/
theorem generate_outcome_asked :
    let args := ["-q", "generate", "cavlc", "--input=in.txt", "--output", "out.txt"]
    let options : Options := { Options.none with quiet := 1 }
    let g : Generation := ⟨.unset, .cavlc, some ⟨"in.txt"⟩, some ⟨"out.txt"⟩, none, false⟩
    let t := FileTree.build []
      [(⟨"in.txt"⟩, "0 0 1 01\n".toUTF8), (⟨"out.txt"⟩, "earlier".toUTF8)]
    let stdin := "2\n".toUTF8.toList
    let after := (run args none : StateM World UInt32) (.start t stdin "")
    Invocation.ofArguments args = .ok ⟨options, g.job⟩ ∧ after.1 = 0 ∧
      ∃ text, g.text t stdin = .ok text ∧
        after.2.terminal.shown = Prompt.question ++ startBanner ++ successBanner ∧
        after.2.tree.load g.target = .ok text.toUTF8 := by
  intro args options g t stdin after
  have hargs : Invocation.ofArguments args = .ok ⟨options, g.job⟩ := by decide +kernel
  have hsettings : ((Settings.discover (options.logger none) options.config :
      StateM World (Except ConfigError Settings)) (.start t stdin "")).1 = .ok g.settings := by
    decide +kernel
  have hcode : after.1 = 0 := by decide +kernel
  exact ⟨hargs, hcode, (generate_outcome hargs rfl hsettings).2.2.2.1 hcode rfl⟩

end Command

end EntropyTables
