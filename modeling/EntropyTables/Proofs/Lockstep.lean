import EntropyTables.Command.Run
import EntropyTables.Proofs.Replacing
/-!
# Two runs step by step

Two computations run in `Lockstep` if from worlds that one relation holds of they come to the same
result, and to worlds that another relation holds of. Computations that run in lockstep part by part
do so as a whole (`Lockstep.bind`). So a relation that is kept by the operations a run is made of
(`Tells`, `Replaces`, `Reads`) is kept by the run. The two runs can log differently, and can differ
in how the form of the table is settled.

Main statements: `Request.run_lockstep`, `Command.generate_lockstep` and
`Command.Job.perform_lockstep`.
-/
namespace EntropyTables

open Log (Event Logger)

/-- From worlds related by `R`, both computations come to the same result and to worlds related by
`S`. -/
def Lockstep {α : Type} (R S : World → World → Prop) (x y : StateM World α) : Prop :=
  ∀ w w', R w w' → (x w).1 = (y w').1 ∧ S (x w).2 (y w').2

variable {Q R S T : World → World → Prop} {logger logger' : Logger}

namespace Lockstep

variable {α β : Type}

theorem pure (hRS : ∀ w w', R w w' → S w w') (a : α) :
    Lockstep R S (Pure.pure a) (Pure.pure a) := fun w w' h => ⟨rfl, hRS w w' h⟩

theorem refl (a : α) : Lockstep R R (Pure.pure a) (Pure.pure a) := .pure (fun _ _ => id) a

theorem bind {x y : StateM World α} {f g : α → StateM World β} (hx : Lockstep R S x y)
    (hf : ∀ a, Lockstep S T (f a) (g a)) : Lockstep R T (x >>= f) (y >>= g) := by
  intro w w' h
  obtain ⟨hresult, hworld⟩ := hx w w' h
  have hnext := hf (x w).1 _ _ hworld
  rw [World.bind_run, World.bind_run, ← hresult]
  exact hnext

theorem mono {x y : StateM World α} (hx : Lockstep R S x y) (hST : ∀ w w', S w w' → T w w') :
    Lockstep R T x y := fun w w' h => ⟨(hx w w' h).1, hST _ _ (hx w w' h).2⟩

/-! ## Reading -/

theorem readText {p : Path} (hload : Lockstep R S (System.load p) (System.load p)) :
    Lockstep R S (readText p) (readText p) := by
  refine hload.bind fun loaded => ?_
  cases loaded with
  | error fault => exact .refl _
  | ok bytes => exact .refl _

theorem readSource {p : Path} (hload : Lockstep R S (System.load p) (System.load p)) :
    Lockstep R S (readSource p) (readSource p) := by
  refine (readText hload).bind fun text => ?_
  cases text with
  | error fault => exact .refl _
  | ok text => exact .refl _

/-! ## Writing -/

/-- Between the two steps another relation can hold, one that says what the sibling holds. -/
theorem storeAndMove {p : Path} {text : String}
    (hstore : Lockstep R S (System.store (Output.sibling p) text.toUTF8)
      (System.store (Output.sibling p) text.toUTF8))
    (hmove : Lockstep S R (System.move (Output.sibling p) p) (System.move (Output.sibling p) p))
    (hSR : ∀ w w', S w w' → R w w') :
    Lockstep R R (Output.storeAndMove p text) (Output.storeAndMove p text) := by
  refine hstore.bind fun stored => ?_
  cases stored with
  | error fault => exact .pure hSR _
  | ok =>
    refine hmove.bind fun moved => ?_
    cases moved with
    | error fault => exact .refl _
    | ok => exact .refl _

end Lockstep

/-! ## Relations that the operations keep -/

/-- What is logged, shown or reported keeps the relation, where each run has its logger. -/
structure Tells (R : World → World → Prop) (logger logger' : Logger) : Prop where
  record : ∀ event, Lockstep R R (record logger event) (record logger' event)
  write : ∀ text, Lockstep R R (Console.write text) (Console.write text)
  complain : ∀ text, Lockstep R R (System.complain text) (System.complain text)

/-- The steps of a replacement keep the relation too. The sibling is written and moved in one step:
between the two its bytes are known. -/
structure Replaces (R : World → World → Prop) (logger logger' : Logger) : Prop
    extends Tells R logger logger' where
  isDirectory : ∀ p, Lockstep R R (System.isDirectory p) (System.isDirectory p)
  makeDirectory : ∀ p, Lockstep R R (System.makeDirectory p) (System.makeDirectory p)
  storeAndMove : ∀ p text, Lockstep R R (Output.storeAndMove p text) (Output.storeAndMove p text)
  remove : ∀ p, Lockstep R R (System.remove p) (System.remove p)

/-- Files are the same for both runs. -/
structure Reads (R : World → World → Prop) : Prop where
  load : ∀ p, Lockstep R R (System.load p) (System.load p)
  isFile : ∀ p, Lockstep R R (System.isFile p) (System.isFile p)

namespace Tells

theorem recordAll (h : Tells R logger logger') : ∀ events : List Event,
    Lockstep R R (recordAll logger events) (recordAll logger' events)
  | [] => .refl ()
  | event :: rest => (h.record event).bind fun _ => h.recordAll rest

theorem say (h : Tells R logger logger') (text : String) :
    Lockstep R R (Command.say text) (Command.say text) :=
  (h.write text).bind fun _ => .refl _

/-! ## Settings and questions -/

theorem load_settings (h : Tells R logger logger') {p : Path}
    (hload : Lockstep R R (System.load p) (System.load p)) :
    Lockstep R R (Settings.load logger p) (Settings.load logger' p) := by
  refine (Lockstep.readText hload).bind fun text => ?_
  cases text with
  | error fault => exact .refl _
  | ok text =>
    cases hs : Settings.ofText p text with
    | error e =>
      simp only [hs]
      exact .refl _
    | ok settings =>
      simp only [hs]
      exact (h.record _).bind fun _ => .refl _

theorem discover (h : Tells R logger logger') (hr : Reads R) (named : Option Path) :
    Lockstep R R (Settings.discover logger named) (Settings.discover logger' named) := by
  cases named with
  | some p => exact h.load_settings (hr.load p)
  | none =>
    refine (hr.isFile Settings.defaultFile).bind fun present => ?_
    cases present with
    | false => exact .refl _
    | true => exact h.load_settings (hr.load Settings.defaultFile)

/-- The question is answered in lockstep if the line that is read is the same. -/
theorem ask (h : Tells R logger logger') (hRS : ∀ w w', R w w' → S w w')
    (hflush : Lockstep R R Console.flush Console.flush)
    (hread : Lockstep R S Console.readLine Console.readLine) :
    Lockstep R S Prompt.ask Prompt.ask := by
  refine (h.write Prompt.question).bind fun written => ?_
  cases written with
  | error fault => exact .pure hRS _
  | ok =>
    refine hflush.bind fun flushed => ?_
    cases flushed with
    | error fault => exact .pure hRS _
    | ok => exact hread.bind fun answer => .refl _

end Tells

theorem Lockstep.resolveMode (hRS : ∀ w w', R w w' → S w w')
    (hask : Lockstep R S Prompt.ask Prompt.ask) (settings : Settings) (table : Table)
    (mode : Option CavlcMode) :
    Lockstep R S (Command.resolveMode settings table mode)
      (Command.resolveMode settings table mode) := by
  unfold Command.resolveMode
  by_cases ht : table = .cavlc
  · simp only [ht, ne_eq, not_true_eq_false, if_false]
    cases mode with
    | some mode => exact .pure hRS _
    | none =>
      cases settings.cavlc.mode with
      | some mode => exact .pure hRS _
      | none => exact hask
  · simp only [ne_eq, ht, not_false_eq_true, if_true]
    exact .pure hRS _

namespace Replaces

/-! ## Writing -/

theorem makeDirectories (h : Replaces R logger logger') : ∀ paths : List Path,
    Lockstep R R (Output.makeDirectories paths) (Output.makeDirectories paths)
  | [] => .refl _
  | p :: around => by
    -- A directory that is there already is as good as one that was made.
    have hlast : ∀ fault : Fault, Lockstep R R
        (do return if ← System.isDirectory p then Except.ok () else .error fault)
        (do return if ← System.isDirectory p then Except.ok () else .error fault) :=
      fun fault => (h.isDirectory p).bind fun _ => .refl _
    unfold Output.makeDirectories
    refine (h.makeDirectory p).bind fun made => ?_
    cases made with
    | ok => exact .refl _
    | error fault =>
      cases fault with
      | notFound =>
        refine (h.makeDirectories around).bind fun made => ?_
        cases made with
        | error fault => exact .refl _
        | ok =>
          refine (h.makeDirectory p).bind fun made => ?_
          cases made with
          | ok => exact .refl _
          | error fault => exact hlast fault
      | _ => exact hlast _

theorem replaceFile (h : Replaces R logger logger') (p : Path) (text : String) :
    Lockstep R R (Output.replaceFile p text) (Output.replaceFile p text) := by
  unfold Output.replaceFile
  extract_lets write
  have hwrite : ∀ u, Lockstep R R (write u) (write u) := by
    intro u
    refine (h.storeAndMove p text).bind fun result => ?_
    cases result with
    | ok => exact .refl _
    | error e => exact (h.remove (Output.sibling p)).bind fun _ => .refl _
  cases p.parent? with
  | none => exact hwrite ()
  | some parent =>
    refine (h.makeDirectories parent.ancestors).bind fun made => ?_
    cases made with
    | error fault => exact .refl _
    | ok => exact hwrite ()

theorem deliver (h : Replaces R logger logger') (r : Request) (rendered : String) :
    Lockstep R R (deliver logger r rendered) (deliver logger' r rendered) := by
  unfold EntropyTables.deliver
  cases r.dryRun with
  | true => exact .refl _
  | false =>
    refine (h.replaceFile r.output rendered).bind fun replaced => ?_
    cases replaced with
    | error e => exact .refl _
    | ok => exact (h.record _).bind fun _ => .refl _

end Replaces

/-! ## Runs -/

/-- **Two runs of a request** stay in lockstep once they have read the same input. -/
theorem Request.run_lockstep {r : Request}
    (hload : Lockstep R S (System.load r.input) (System.load r.input))
    (h : Replaces S logger logger') : Lockstep R S (r.run logger) (r.run logger') := by
  refine (Lockstep.readSource hload).bind fun source => ?_
  cases source with
  | error e => exact .refl _
  | ok raw =>
    refine (h.record _).bind fun _ => (h.recordAll _).bind fun _ => ?_
    cases (Collection.ofRaw r.selection raw).entries with
    | error e => exact .refl _
    | ok entries =>
      refine (h.record _).bind fun _ => (h.deliver r _).bind fun delivered => ?_
      cases delivered with
      | error e => exact .refl _
      | ok output => exact (h.record _).bind fun _ => .refl _

namespace Command

/-- **Two commands to generate a table** stay in lockstep once they have settled on the same form,
if they read and write the same paths. -/
theorem generate_lockstep {settings settings' : Settings} {table : Table}
    {input output : Option Path} {mode mode' : Option CavlcMode} {dryRun : Bool}
    (hresolve : Lockstep Q R (resolveMode settings table mode) (resolveMode settings' table mode'))
    (hin : settings.inputFor table = settings'.inputFor table)
    (hout : settings.outputFor table = settings'.outputFor table)
    (hload : Lockstep R S (System.load (input.getD (settings.inputFor table)))
      (System.load (input.getD (settings.inputFor table))))
    (hRS : ∀ w w', R w w' → S w w') (hR : Tells R logger logger') (hS : Replaces S logger logger') :
    Lockstep Q S (generate logger settings table input output mode dryRun)
      (generate logger' settings' table input output mode' dryRun) := by
  unfold generate
  rw [← hin, ← hout]
  refine hresolve.bind fun resolved => ?_
  cases resolved with
  | error e => exact ((hR.complain _).bind fun _ => .refl _).mono hRS
  | ok mode =>
    have hrun : ∀ request : Request, request.input = input.getD (settings.inputFor table) →
        Lockstep R S (request.run logger) (request.run logger') :=
      fun request hinput => Request.run_lockstep (hinput ▸ hload) hS
    refine (hR.record _).bind fun _ => (hR.say startBanner).bind fun _ =>
      (hrun _ rfl).bind fun result => ?_
    cases result with
    | error e => exact (hS.complain _).bind fun _ => .refl _
    | ok report =>
      by_cases hdry : report.output.isNone = true
      · simp only [hdry, if_true]
        exact (hS.say report.rendered).bind fun _ => (hS.say successBanner).bind fun _ =>
          (hS.record _).bind fun _ => .refl _
      · simp only [hdry]
        exact (hS.say successBanner).bind fun _ => (hS.record _).bind fun _ => .refl _

def Job.perform (job : Job) (config : Option Path) (logger : Logger) : StateM World UInt32 := do
  match ← Settings.discover logger config with
  | .error e =>
    System.complain (errorLine [e.message])
    return 1
  | .ok settings =>
    match job with
    | .generate table input output mode dryRun =>
      Command.generate logger settings table input output mode dryRun
    | .tables =>
      say (Summary.text settings ++ "\n")
      return 0

/-- **Two commands** stay in lockstep if a question is answered so. -/
theorem Job.perform_lockstep (job : Job) (config : Option Path)
    (hask : Lockstep R S Prompt.ask Prompt.ask) (hRS : ∀ w w', R w w' → S w w') (hread : Reads R)
    (hread' : Reads S) (hR : Tells R logger logger') (hS : Replaces S logger logger') :
    Lockstep R S (job.perform config logger) (job.perform config logger') := by
  refine (hR.discover hread config).bind fun found => ?_
  cases found with
  | error e => exact ((hR.complain _).bind fun _ => .refl _).mono hRS
  | ok settings =>
    cases job with
    | generate table input output mode dryRun =>
      exact generate_lockstep (.resolveMode hRS hask settings table mode) rfl rfl
        (hread'.load _) (fun _ _ => id) hS.toTells hS
    | tables => exact ((hR.say _).bind fun _ => .refl _).mono hRS

end Command

end EntropyTables
