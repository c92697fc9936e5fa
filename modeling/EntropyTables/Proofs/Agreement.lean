import EntropyTables.Proofs.Lockstep
/-!
# Runs that differ in their log

What a run logs goes to standard error, unless it is sent to a file, and nothing that a run does
depends on it. Two computations `Agree` if worlds that differ only in the log and in the time do not
tell them apart, that is if they run in lockstep over such worlds. Every operation agrees with
itself, and a step of the log agrees with any other.

Main statements: `Request.run_agree` and `Command.Job.perform_agree` (a run agrees with the same run
under another logger, such as the silent one), and `Command.run_log_options` for command lines.
-/
namespace EntropyTables

open Log (Event Logger)

/-! ## A log that goes to standard error -/

theorem record_told (logger : Logger) (event : Event) {w : World}
    (h : w.logPlace = .standardError) :
    (record logger event : StateM World Unit) w =
      ((), { w with errors := w.errors ++ (logger.line? w.clock event).getD "" }) := by
  have hnow : (System.now : StateM World String) w = (w.clock, w) := rfl
  unfold record
  rw [World.bind_run, hnow]
  cases logger.line? w.clock event with
  | none =>
    rw [Option.getD_none, String.append_empty]
    rfl
  | some line =>
    show ((), w.log line) = _
    simp only [World.log, h, Option.getD_some]

namespace World

/-- The log does not follow files. -/
theorem move_told (source target : Path) {w : World} (h : w.logPlace = .standardError) :
    w.move source target = w.withTree (w.tree.move source target) := by
  obtain ⟨tree, terminal, errors, _, clock⟩ := w
  obtain rfl := h
  unfold move
  cases tree.move source target with
  | ok t => rfl
  | error fault => rfl

theorem remove_told (p : Path) {w : World} (h : w.logPlace = .standardError) :
    w.remove p = w.withTree (w.tree.remove p) := by
  obtain ⟨tree, terminal, errors, _, clock⟩ := w
  obtain rfl := h
  unfold remove
  cases tree.remove p with
  | ok t => rfl
  | error fault => rfl

end World

/-- Two worlds with the same files and the same console, whose logs go to standard error. They can
differ in what stands there, and in the time. -/
structure Alike (w w' : World) : Prop where
  tree : w.tree = w'.tree
  terminal : w.terminal = w'.terminal
  log : w.logPlace = .standardError
  log' : w'.logPlace = .standardError

/-- From worlds that are alike, the computations come to the same result and to worlds that are
alike. -/
def Agree {α : Type} (x y : StateM World α) : Prop :=
  ∀ w w' : World, Alike w w' → (x w).1 = (y w').1 ∧ Alike (x w).2 (y w').2

namespace Agree

variable {α : Type}

/-! ## Operations -/

theorem load (p : Path) : Agree (System.load p) (System.load p) := by
  intro w w' h
  exact ⟨congrArg (·.load p) h.tree, h⟩

theorem isFile (p : Path) : Agree (System.isFile p) (System.isFile p) := by
  intro w w' h
  exact ⟨congrArg (·.isFile p) h.tree, h⟩

theorem isDirectory (p : Path) : Agree (System.isDirectory p) (System.isDirectory p) := by
  intro w w' h
  exact ⟨congrArg (·.isDirectory p) h.tree, h⟩

theorem withTree (f : FileTree → Except Fault FileTree) {x : StateM World (Except Fault Unit)}
    (hx : ∀ {w}, w.logPlace = .standardError → x w = w.withTree (f w.tree)) : Agree x x := by
  intro w w' h
  rw [hx h.log, hx h.log', h.tree]
  cases f w'.tree with
  | ok t => exact ⟨rfl, rfl, h.terminal, h.log, h.log'⟩
  | error fault => exact ⟨rfl, h⟩

theorem makeDirectory (p : Path) : Agree (System.makeDirectory p) (System.makeDirectory p) :=
  withTree (·.makeDirectory p) fun _ => rfl

theorem store (p : Path) (bytes : ByteArray) :
    Agree (System.store p bytes) (System.store p bytes) :=
  withTree (·.store p bytes) fun _ => rfl

theorem move (source target : Path) :
    Agree (System.move source target) (System.move source target) :=
  withTree (·.move source target) (World.move_told source target)

theorem remove (p : Path) : Agree (System.remove p) (System.remove p) :=
  withTree (·.remove p) (World.remove_told p)

theorem onTerminal (x : StateM Terminal α) : Agree (World.onTerminal x) (World.onTerminal x) := by
  intro w w' h
  unfold World.onTerminal
  rw [h.terminal]
  exact ⟨rfl, h.tree, rfl, h.log, h.log'⟩

/-- What is written to standard error does not matter. -/
theorem complain (text text' : String) :
    Agree (System.complain text) (System.complain text') := by
  intro w w' h
  exact ⟨rfl, h.tree, h.terminal, h.log, h.log'⟩

theorem record (logger logger' : Logger) (event event' : Event) :
    Agree (record logger event) (record logger' event') := by
  intro w w' h
  rw [record_told logger event h.log, record_told logger' event' h.log']
  exact ⟨rfl, h.tree, h.terminal, h.log, h.log'⟩

end Agree

theorem alike_tells (logger logger' : Logger) : Tells Alike logger logger' where
  record event := Agree.record logger logger' event event
  write _ := Agree.onTerminal _
  complain text := Agree.complain text text

theorem alike_replaces (logger logger' : Logger) : Replaces Alike logger logger' where
  toTells := alike_tells logger logger'
  isDirectory := Agree.isDirectory
  makeDirectory := Agree.makeDirectory
  storeAndMove p _ := .storeAndMove (Agree.store _ _) (Agree.move _ p) fun _ _ => id
  remove := Agree.remove

theorem alike_reads : Reads Alike where
  load := Agree.load
  isFile := Agree.isFile

/-! ## Runs -/

theorem Agree.discover (logger logger' : Logger) (named : Option Path) :
    Agree (Settings.discover logger named) (Settings.discover logger' named) :=
  (alike_tells logger logger').discover alike_reads named

/-- **A run does not depend on its logger.** -/
theorem Request.run_agree (logger logger' : Logger) (r : Request) :
    Agree (r.run logger) (r.run logger') :=
  Request.run_lockstep (Agree.load r.input) (alike_replaces logger logger')

namespace Command

/-- Without a log file a run performs its command under the logger that the options ask for. -/
theorem run_eq_perform {args : List String} {invocation : Invocation}
    (h : Invocation.ofArguments args = .ok invocation) (hlog : invocation.options.logFile = none)
    (environment : Option String) :
    (run args environment : StateM World UInt32) =
      invocation.job.perform invocation.options.config (invocation.options.logger environment) := by
  simp only [run, h, Invocation.run, hlog]
  rfl

/-- **A command does not depend on the logger.** -/
theorem Job.perform_agree (job : Job) (config : Option Path) (logger logger' : Logger) :
    Agree (job.perform config logger) (job.perform config logger') := by
  have htells := alike_tells logger logger'
  have hask : Agree Prompt.ask Prompt.ask :=
    htells.ask (fun _ _ => id) (Agree.onTerminal _) (Agree.onTerminal _)
  exact Job.perform_lockstep job config hask (fun _ _ => id) alike_reads alike_reads htells
    (alike_replaces logger logger')

end Command

end EntropyTables
