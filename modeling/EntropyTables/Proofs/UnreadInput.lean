import EntropyTables.Proofs.Lockstep
import Mathlib.Data.List.TakeDrop
/-!
# Bytes of standard input that nobody reads

Only the question for the form of the CAVLC table reads standard input, and it takes one line. Every
other operation does the same on worlds with other bytes left to be read (`Blind`), so two runs stay
in lockstep up to the question, and after it if the lines that it takes are the same.

Main statement: `Command.run_first_line`.
-/
namespace EntropyTables

open Log (Event Logger)

def World.withInput (w : World) (input : List UInt8) : World :=
  { w with terminal := { w.terminal with input } }

/-- The computation does the same whatever bytes are left to be read, and leaves them. -/
def Blind {α : Type} (x : StateM World α) : Prop :=
  ∀ w input, x (w.withInput input) = ((x w).1, (x w).2.withInput input)

/-- Two worlds that differ in the bytes that nobody has read; these are related. -/
structure InputOnly (related : List UInt8 → List UInt8 → Prop) (w w' : World) : Prop where
  input : related w.terminal.input w'.terminal.input
  world : w' = w.withInput w'.terminal.input

theorem InputOnly.forget {related : List UInt8 → List UInt8 → Prop} (w w' : World)
    (h : InputOnly related w w') : InputOnly (fun _ _ => True) w w' := ⟨trivial, h.world⟩

namespace Blind

variable {α β : Type}

theorem pure (a : α) : Blind (Pure.pure a) := fun _ _ => rfl

theorem bind {x : StateM World α} {f : α → StateM World β} (hx : Blind x)
    (hf : ∀ a, Blind (f a)) : Blind (x >>= f) := by
  intro w input
  rw [World.bind_run, hx w input]
  exact hf (x w).1 (x w).2 input

theorem input_eq {x : StateM World α} (hx : Blind x) (w : World) :
    (x w).2.terminal.input = w.terminal.input :=
  congrArg (·.2.terminal.input) (hx w w.terminal.input)

/-- **Blind computations keep worlds apart no further.** -/
theorem lockstep {x : StateM World α} (hx : Blind x) {related : List UInt8 → List UInt8 → Prop} :
    Lockstep (InputOnly related) (InputOnly related) x x := by
  intro w w' h
  have hrun : x w' = ((x w).1, (x w).2.withInput w'.terminal.input) := by
    rw [← hx w w'.terminal.input, ← h.world]
  rw [hrun]
  exact ⟨rfl, by rw [hx.input_eq w]; exact h.input, rfl⟩

/-! ## Operations -/

theorem withTree (f : FileTree → Except Fault FileTree) {x : StateM World (Except Fault Unit)}
    (hx : ∀ w, x w = w.withTree (f w.tree)) : Blind x := by
  intro w input
  rw [hx, hx]
  show (w.withInput input).withTree (f w.tree) = _
  cases f w.tree with
  | ok t => rfl
  | error fault => rfl

theorem makeDirectory (p : Path) :
    Blind (System.makeDirectory p : StateM World (Except Fault Unit)) :=
  withTree (·.makeDirectory p) fun _ => rfl

theorem store (p : Path) (bytes : ByteArray) :
    Blind (System.store p bytes : StateM World (Except Fault Unit)) :=
  withTree (·.store p bytes) fun _ => rfl

theorem move (source target : Path) :
    Blind (System.move source target : StateM World (Except Fault Unit)) := by
  intro w input
  show (w.withInput input).move source target =
    ((w.move source target).1, (w.move source target).2.withInput input)
  simp only [World.move, World.withInput]
  cases w.tree.move source target with
  | ok t => rfl
  | error fault => rfl

theorem remove (p : Path) : Blind (System.remove p : StateM World (Except Fault Unit)) := by
  intro w input
  show (w.withInput input).remove p = ((w.remove p).1, (w.remove p).2.withInput input)
  simp only [World.remove, World.withInput]
  cases w.tree.remove p with
  | ok t => rfl
  | error fault => rfl

theorem openLog (p : Path) : Blind (System.openLog p : StateM World (Except Fault Unit)) := by
  intro w input
  show (w.withInput input).openLog p = ((w.openLog p).1, (w.openLog p).2.withInput input)
  simp only [World.openLog, World.withInput]
  cases w.tree.writable p with
  | ok l => rfl
  | error fault => rfl

theorem write (text : String) : Blind (Console.write text : StateM World (Except Fault Unit)) := by
  intro ⟨_, ⟨_, _, writeFault, _⟩, _, _, _⟩ input
  cases writeFault with
  | none => rfl
  | some fault => rfl

theorem log (text : String) : Blind (System.log text : StateM World Unit) := by
  intro ⟨_, _, _, logPlace, _⟩ input
  cases logPlace with
  | standardError => rfl
  | file l => rfl
  | nameless => rfl

theorem record (logger : Logger) (event : Event) :
    Blind (record logger event : StateM World Unit) := by
  have hnow : Blind (System.now : StateM World String) := fun _ _ => rfl
  refine hnow.bind fun clock => ?_
  cases logger.line? clock event with
  | none => exact .pure ()
  | some line => exact log line

end Blind

section

variable {related : List UInt8 → List UInt8 → Prop}

theorem inputOnly_tells (logger : Logger) : Tells (InputOnly related) logger logger where
  record event := (Blind.record logger event).lockstep
  write text := (Blind.write text).lockstep
  complain _ := Blind.lockstep fun _ _ => rfl

theorem inputOnly_replaces (logger : Logger) : Replaces (InputOnly related) logger logger where
  toTells := inputOnly_tells logger
  isDirectory _ := Blind.lockstep fun _ _ => rfl
  makeDirectory p := (Blind.makeDirectory p).lockstep
  storeAndMove p _ := .storeAndMove (Blind.store _ _).lockstep (Blind.move _ p).lockstep
    fun _ _ => id
  remove p := (Blind.remove p).lockstep

theorem inputOnly_reads : Reads (InputOnly related) where
  load _ := Blind.lockstep fun _ _ => rfl
  isFile _ := Blind.lockstep fun _ _ => rfl

end

/-! ## The question -/

namespace Terminal

theorem splitLine_fst (bytes : List UInt8) : (splitLine bytes).1 =
    bytes.takeWhile (· != 10) ++ (bytes.dropWhile (· != 10)).take 1 := by
  unfold splitLine
  rw [List.span_eq_takeWhile_dropWhile]
  cases bytes.dropWhile (· != 10) with
  | nil => simp
  | cons feed rest => rfl

def SameLine (input input' : List UInt8) : Prop := (splitLine input).1 = (splitLine input').1

theorem SameLine.of_feed (before after after' : List UInt8) :
    SameLine (before ++ 10 :: after) (before ++ 10 :: after') := by
  unfold SameLine
  rw [splitLine_fst, splitLine_fst]
  induction before with
  | nil => rfl
  | cons byte before ih =>
    by_cases hbyte : byte = 10
    · simp [hbyte]
    · simpa [hbyte] using ih

end Terminal

open Terminal (SameLine)

theorem inputOnly_readLine :
    Lockstep (InputOnly SameLine) (InputOnly fun _ _ => True) Console.readLine
      Console.readLine := by
  intro w w' h
  refine ⟨?_, trivial, ?_⟩
  · exact congrArg (fun line => (⟨line.toArray⟩ : ByteArray)) h.input
  · rw [h.world]
    rfl

namespace Command

theorem Invocation.run_lockstep (invocation : Invocation) (environment : Option String) :
    Lockstep (InputOnly SameLine) (InputOnly fun _ _ => True)
      (invocation.run environment) (invocation.run environment) := by
  have htells : ∀ {related}, Tells (InputOnly related) _ _ :=
    inputOnly_tells (invocation.options.logger environment)
  have hask := htells.ask InputOnly.forget (Blind.lockstep fun _ _ => rfl) inputOnly_readLine
  have hperform := Job.perform_lockstep invocation.job invocation.options.config hask
    InputOnly.forget inputOnly_reads inputOnly_reads htells (inputOnly_replaces _)
  unfold Invocation.run
  cases invocation.options.logFile with
  | none => exact hperform
  | some p =>
    refine (Blind.openLog p).lockstep.bind fun opened => ?_
    cases opened with
    | error fault => exact ((htells.complain _).bind fun _ => .refl _).mono InputOnly.forget
    | ok => exact hperform

/-- **In every run standard input has no effect but for its first line.** -/
theorem run_first_line (args : List String) (environment : Option String) :
    Lockstep (InputOnly SameLine) (InputOnly fun _ _ => True)
      (run args environment) (run args environment) := by
  have htells : Tells (InputOnly SameLine) _ _ := inputOnly_tells .silent
  unfold run
  cases Invocation.ofArguments args with
  | ok invocation => exact invocation.run_lockstep environment
  | error refusal =>
    cases refusal with
    | usage => exact ((htells.complain _).bind fun _ => .refl _).mono InputOnly.forget
    | version => exact ((htells.say _).bind fun _ => .refl _).mono InputOnly.forget

end Command

end EntropyTables
