import EntropyTables.Proofs.CommandOutcome
import EntropyTables.Proofs.HiddenFile
import EntropyTables.Proofs.UnreadInput
/-!
# Where the form of a table comes from

The form of the CAVLC table has three sources, the option, the setting and standard input, each
asked only if those before it say nothing. For the other tables none of them is asked. A source that
is not asked changes nothing that can be seen of a run (`AlikeBut`). Two runs whose settings differ
are run on trees that differ in the file of the settings.

Main statement: `Command.generate_mode_sources`.
-/
namespace EntropyTables

open Log (Logger)
open FileTree (SameBut)
open Terminal (SameLine)

def TableSettings.withoutMode (s : TableSettings) : TableSettings := { s with mode := none }

namespace Settings

def withoutModes (s : Settings) : Settings where
  root := s.root
  ctxIdxInc := s.ctxIdxInc.withoutMode
  cabacInit := s.cabacInit.withoutMode
  rangeTabLps := s.rangeTabLps.withoutMode
  cavlc := s.cavlc.withoutMode

theorem inputFor_withoutModes (s : Settings) (table : Table) :
    s.withoutModes.inputFor table = s.inputFor table := by
  cases table <;> rfl

theorem outputFor_withoutModes (s : Settings) (table : Table) :
    s.withoutModes.outputFor table = s.outputFor table := by
  cases table <;> rfl

/-! ## Finding settings -/

/-- What is logged once settings are loaded does not depend on them. -/
theorem load_told (logger : Logger) (p : Path) : ∃ event, ∀ (w : World) (s : Settings),
    ((load logger p : StateM World (Except ConfigError Settings)) w).1 = .ok s →
      ((load logger p : StateM World (Except ConfigError Settings)) w).2 =
        ((record logger event : StateM World Unit) w).2 := by
  refine ⟨{ level := .debug, origin := .settings, message := "loaded config"
            fields := [("path", .text p.text)], span := none }, fun w s h => ?_⟩
  have hload : (System.load p : StateM World (Except Fault ByteArray)) w =
    (w.tree.load p, w) := rfl
  unfold load readText at h ⊢
  simp only [World.bind_run, hload] at h ⊢
  cases hbytes : w.tree.load p with
  | error fault => simp [hbytes] at h
  | ok bytes =>
    simp only [hbytes] at h ⊢
    cases htext : String.fromUTF8? bytes with
    | none => simp [htext] at h
    | some text =>
      simp only [htext] at h ⊢
      cases hs : ofText p text with
      | error e => simp [hs] at h
      | ok found => simp [hs]

variable {l : Location} {known : Knowledge}

/-- If both searches find settings, they log the same. -/
theorem discover_twin (logger : Logger) (named : Option Path) {w w' : World} {s s' : Settings}
    (h : Twin l known w w')
    (hs : ((discover logger named : StateM World (Except ConfigError Settings)) w).1 = .ok s)
    (hs' : ((discover logger named : StateM World (Except ConfigError Settings)) w').1 = .ok s') :
    Twin l known ((discover logger named : StateM World (Except ConfigError Settings)) w).2
      ((discover logger named : StateM World (Except ConfigError Settings)) w').2 := by
  have hload : ∀ {p},
      ((load logger p : StateM World (Except ConfigError Settings)) w).1 = .ok s →
      ((load logger p : StateM World (Except ConfigError Settings)) w').1 = .ok s' →
      Twin l known ((load logger p : StateM World (Except ConfigError Settings)) w).2
        ((load logger p : StateM World (Except ConfigError Settings)) w').2 := by
    intro p hs hs'
    obtain ⟨event, htold⟩ := load_told logger p
    rw [htold w s hs, htold w' s' hs']
    exact (Twin.record logger event w w' h).2
  cases named with
  | some p => exact hload hs hs'
  | none =>
    have hfile : ∀ w : World, (System.isFile defaultFile : StateM World Bool) w =
      (w.tree.isFile defaultFile, w) := fun _ => rfl
    unfold discover at hs hs' ⊢
    simp only [World.bind_run, hfile, h.tree.isFile] at hs hs' ⊢
    cases hpresent : w'.tree.isFile defaultFile with
    | false => exact h
    | true =>
      simp only [hpresent] at hs hs' ⊢
      exact hload hs hs'

end Settings

/-- The path does not lead to the location, and these are the bytes left to be read. -/
def Knowledge.unread (p : Path) (l : Location) (stdin stdin' : List UInt8) : Knowledge :=
  fun t _ input input' => t.location? p ≠ some l ∧ input = stdin ∧ input' = stdin'

namespace Command

/-! ## Two runs -/

/-- What can be seen of two runs is the same: the exit codes, what they show, what they write to
standard error, and all files but one. -/
structure AlikeBut (l : Location) (run run' : UInt32 × World) : Prop where
  code : run.1 = run'.1
  shown : run.2.terminal.shown = run'.2.terminal.shown
  errors : run.2.errors = run'.2.errors
  files : ∀ x, x ≠ l → run.2.tree.node? x = run'.2.tree.node? x

/-- The commands differ in nothing but the forms that an option or the settings say. -/
structure Generation.SameButModes (g g' : Generation) : Prop where
  table : g.table = g'.table
  input : g.input = g'.input
  output : g.output = g'.output
  dryRun : g.dryRun = g'.dryRun
  settings : g.settings.withoutModes = g'.settings.withoutModes

/-! ## Settling the form -/

section

variable {settings : Settings} {table : Table} {mode : Option CavlcMode}

theorem resolveMode_other (ht : table ≠ .cavlc) :
    (resolveMode settings table mode : StateM World (Except TableError CavlcMode)) =
      pure (.ok .lut) := by
  unfold resolveMode
  rw [if_pos ht]

theorem resolveMode_option (form : CavlcMode) :
    (resolveMode settings .cavlc (some form) : StateM World (Except TableError CavlcMode)) =
      pure (.ok form) := rfl

theorem resolveMode_setting {form : CavlcMode} (hform : settings.cavlc.mode = some form) :
    (resolveMode settings .cavlc none : StateM World (Except TableError CavlcMode)) =
      pure (.ok form) := by
  unfold resolveMode
  simp only [hform]
  rfl

theorem resolveMode_ask (hform : settings.cavlc.mode = none) :
    (resolveMode settings .cavlc none : StateM World (Except TableError CavlcMode)) =
      Prompt.ask := by
  unfold resolveMode
  simp only [hform]
  rfl

end

section

variable {args args' : List String} {environment : Option String} {options : Options}
  {g g' : Generation} {t t' : FileTree} {stdin stdin' : List UInt8} {clock : String} {l : Location}

theorem twin_settled {p : Path} {x y : StateM World (Except TableError CavlcMode)}
    (form : CavlcMode) (hx : x = pure (.ok form)) (hy : y = pure (.ok form)) :
    Lockstep (Twin l (.unread p l stdin stdin')) (Twin l (.elsewhere p l)) x y := by
  rw [hx, hy]
  exact .pure (fun _ _ h => { h with known := h.known.1 }) _

/-- A form that is asked for is the same if the first lines of standard input are. -/
theorem twin_asked {p : Path} (hline : SameLine stdin stdin') :
    Lockstep (Twin l (.unread p l stdin stdin')) (Twin l (.elsewhere p l)) Prompt.ask
      Prompt.ask := by
  refine (twin_tells .silent).ask (fun _ _ h => { h with known := h.known.1 }) Twin.flush ?_
  intro w w' h
  obtain ⟨hp, hinput, hinput'⟩ := h.known
  have hsame : SameLine w.terminal.input w'.terminal.input := by
    rw [hinput, hinput']
    exact hline
  exact ⟨congrArg (fun line => (⟨line.toArray⟩ : ByteArray)) hsame, { h with known := hp }⟩

theorem run_alikeBut
    (hargs : Invocation.ofArguments args = .ok ⟨options, g.job⟩)
    (hargs' : Invocation.ofArguments args' = .ok ⟨options, g'.job⟩)
    (hlog : options.logFile = none)
    (hsettings : ((Settings.discover (options.logger environment) options.config :
      StateM World (Except ConfigError Settings)) (.start t stdin clock)).1 = .ok g.settings)
    (hsettings' : ((Settings.discover (options.logger environment) options.config :
      StateM World (Except ConfigError Settings)) (.start t' stdin' clock)).1 = .ok g'.settings)
    (hsame : g.SameButModes g') (htree : SameBut l t t') (hsource : t.location? g.source ≠ some l)
    (hresolve : Lockstep (Twin l (.unread g.source l stdin stdin')) (Twin l (.elsewhere g.source l))
      (resolveMode g.settings g.table g.mode) (resolveMode g'.settings g'.table g'.mode)) :
    AlikeBut l ((run args environment : StateM World UInt32) (.start t stdin clock))
      ((run args' environment : StateM World UInt32) (.start t' stdin' clock)) := by
  obtain ⟨settings, table, input, output, mode, dryRun⟩ := g
  obtain ⟨settings', _, _, _, mode', _⟩ := g'
  obtain ⟨rfl, rfl, rfl, rfl, hmodes⟩ := hsame
  have hstart : Twin l (.unread _ l stdin stdin') (.start t stdin clock) (.start t' stdin' clock) :=
    ⟨htree, rfl, rfl, rfl, rfl, rfl, rfl, rfl, hsource, rfl, rfl⟩
  have hfound := Settings.discover_twin _ _ hstart hsettings hsettings'
  have hin : settings.inputFor table = settings'.inputFor table := by
    rw [← settings.inputFor_withoutModes, hmodes, settings'.inputFor_withoutModes]
  have hout : settings.outputFor table = settings'.outputFor table := by
    rw [← settings.outputFor_withoutModes, hmodes, settings'.outputFor_withoutModes]
  have hgenerate : Lockstep _ (Twin l .nothing)
      (generate (options.logger environment) settings table input output mode dryRun)
      (generate (options.logger environment) settings' table input output mode' dryRun) :=
    generate_lockstep hresolve hin hout Twin.loads Twin.forget (twin_tells _) (twin_replaces _)
  obtain ⟨hcode, hworld⟩ := hgenerate _ _ hfound
  rw [run_eq_perform hargs hlog environment, run_eq_perform hargs' hlog environment,
    Generation.perform_run _ (Prod.ext hsettings rfl),
    Generation.perform_run _ (Prod.ext hsettings' rfl)]
  exact ⟨hcode, hworld.shown, hworld.errors, hworld.tree.elsewhere⟩

end

/-- **The sources of the form.** Two runs of a command to generate a table differ in standard input,
in the option for the form and in the forms that the settings file says, a file that neither run
reads as its input. Then all that can be seen of them is the same, but for that file,
- if the table has one form only, or
- if the same form is asked for by the option, or
- if the settings say the same of the CAVLC table, and standard input is not asked or says the same
  in its first line.
In every run of the program what follows the first line of standard input has no effect. -/
theorem generate_mode_sources :
    (∀ (args args' : List String) (environment : Option String) (options : Options)
      (g g' : Generation) (t t' : FileTree) (stdin stdin' : List UInt8) (clock : String)
      (l : Location),
      Invocation.ofArguments args = .ok ⟨options, g.job⟩ →
      Invocation.ofArguments args' = .ok ⟨options, g'.job⟩ →
      options.logFile = none →
      ((Settings.discover (options.logger environment) options.config :
        StateM World (Except ConfigError Settings)) (.start t stdin clock)).1 = .ok g.settings →
      ((Settings.discover (options.logger environment) options.config :
        StateM World (Except ConfigError Settings)) (.start t' stdin' clock)).1 =
          .ok g'.settings →
      g.SameButModes g' → SameBut l t t' → t.location? g.source ≠ some l →
      let alike := AlikeBut l ((run args environment : StateM World UInt32) (.start t stdin clock))
        ((run args' environment : StateM World UInt32) (.start t' stdin' clock))
      (g.table ≠ .cavlc → alike) ∧
      (g.mode = g'.mode → g.mode ≠ none → alike) ∧
      (g.mode = g'.mode → g.settings.cavlc.mode = g'.settings.cavlc.mode →
        g.settings.cavlc.mode ≠ none ∨ SameLine stdin stdin' → alike)) ∧
    (∀ (args : List String) (environment : Option String) (t : FileTree) (clock : String)
      (before after after' : List UInt8),
      let run (rest : List UInt8) :=
        (run args environment : StateM World UInt32) (.start t (before ++ 10 :: rest) clock)
      (run after).1 = (run after').1 ∧
      (run after).2.terminal.shown = (run after').2.terminal.shown ∧
      (run after).2.errors = (run after').2.errors ∧
      (run after).2.tree = (run after').2.tree) := by
  constructor
  · intro args args' environment options g g' t t' stdin stdin' clock l hargs hargs' hlog hsettings
      hsettings' hsame htree hsource alike
    have halike : Lockstep (Twin l (.unread g.source l stdin stdin'))
        (Twin l (.elsewhere g.source l)) (resolveMode g.settings g.table g.mode)
        (resolveMode g'.settings g'.table g'.mode) → alike :=
      run_alikeBut hargs hargs' hlog hsettings hsettings' hsame htree hsource
    have hother : g.table ≠ .cavlc → alike := fun ht =>
      halike (twin_settled .lut (resolveMode_other ht) (resolveMode_other (hsame.table ▸ ht)))
    by_cases ht : g.table ≠ .cavlc
    · exact ⟨hother, fun _ _ => hother ht, fun _ _ _ => hother ht⟩
    rw [not_not] at ht
    have ht' : g'.table = .cavlc := hsame.table ▸ ht
    have hoption : g.mode = g'.mode → g.mode ≠ none → alike := by
      intro hmode hsome
      obtain ⟨form, hform⟩ := Option.ne_none_iff_exists'.1 hsome
      rw [← hmode, ht, ht', hform] at halike
      exact halike (twin_settled form (resolveMode_option form) (resolveMode_option form))
    refine ⟨hother, hoption, fun hmode hset hasked => ?_⟩
    cases hnone : g.mode with
    | some form => exact hoption hmode (by simp [hnone])
    | none =>
      rw [← hmode, ht, ht', hnone] at halike
      cases hform : g.settings.cavlc.mode with
      | some form =>
        rw [hform] at hset
        exact halike (twin_settled form (resolveMode_setting hform) (resolveMode_setting hset.symm))
      | none =>
        rw [hform] at hset
        rw [resolveMode_ask hform, resolveMode_ask hset.symm] at halike
        exact halike (twin_asked (hasked.resolve_left (absurd hform)))
  · intro args environment t clock before after after' run
    have hstart : InputOnly SameLine (.start t (before ++ 10 :: after) clock)
        (.start t (before ++ 10 :: after') clock) := ⟨.of_feed before after after', rfl⟩
    obtain ⟨hcode, -, hworld⟩ := run_first_line args environment _ _ hstart
    exact ⟨hcode, congrArg (·.terminal.shown) hworld.symm, congrArg (·.errors) hworld.symm,
      congrArg (·.tree) hworld.symm⟩

/-- The option says the form, and the settings and standard input say another. -/
theorem generate_mode_sources_option :
    let args := ["generate", "cavlc", "--mode=sizes", "--input=in.txt", "--output=out.txt"]
    let l := ["lutgen.toml", "work", "tmp"]
    let t := FileTree.build [] [(⟨"in.txt"⟩, "0 0 1 01\n".toUTF8),
      (⟨"lutgen.toml"⟩, "tables.cavlc.mode = \"lut\"\n".toUTF8)]
    let t' := t.put l (.file "tables.range-tab-lps.mode = \"sizes\"\n".toUTF8)
    let after := (run args none : StateM World UInt32) (.start t [] "now")
    let after' := (run args none : StateM World UInt32) (.start t' [49, 10] "now")
    after.1 = 0 ∧ AlikeBut l after after' := by
  intro args l t t' after after'
  let lut : TableSettings := ⟨none, none, some .lut⟩
  let sizes : TableSettings := ⟨none, none, some .sizes⟩
  let g : Generation := ⟨⟨none, .unset, .unset, .unset, lut⟩, .cavlc, some ⟨"in.txt"⟩,
    some ⟨"out.txt"⟩, some .sizes, false⟩
  let g' : Generation := { g with settings := ⟨none, .unset, .unset, sizes, .unset⟩ }
  have hargs : Invocation.ofArguments args = .ok ⟨.none, g.job⟩ := by decide +kernel
  have hsettings : ((Settings.discover (Options.none.logger none) none :
      StateM World (Except ConfigError Settings)) (.start t [] "now")).1 = .ok g.settings := by
    decide +kernel
  have hsettings' : ((Settings.discover (Options.none.logger none) none :
      StateM World (Except ConfigError Settings)) (.start t' [49, 10] "now")).1 =
        .ok g'.settings := by
    decide +kernel
  have hsource : t.location? g.source ≠ some l := by decide +kernel
  have hfile : t.node? l = some (.file "tables.cavlc.mode = \"lut\"\n".toUTF8) := by
    decide +kernel
  have hcode : after.1 = 0 := by decide +kernel
  have halike := (generate_mode_sources.1 args args none .none g g' t t' [] [49, 10] "now" l hargs
    hargs rfl hsettings hsettings' ⟨rfl, rfl, rfl, rfl, rfl⟩ (.of_put hfile _) hsource).2.1 rfl
    (Option.some_ne_none _)
  subst after after'
  exact ⟨hcode, halike⟩

end Command

end EntropyTables
