import EntropyTables.Proofs.SilentRuns
import EntropyTables.Proofs.Transcription
import EntropyTables.Proofs.TreeShape
/-!
# The line endings of the input

A carriage return at the end of a line is a blank, so it is trimmed away if it is not taken for a
part of the ending (`retyped_closeLine`). Hence the lines of a text keep their number and their
canonical forms when its line feeds get carriage returns before them (`sameLines_withReturns`), or
when its last line gets the line feed that it lacks (`sameLines_append_newline`).

Lines that differ by noise alone make no difference to a run (`Request.run_of_sameLines`), and the
bytes of the file that they came from make none either.

Main statement: `run_line_endings`.
-/
namespace EntropyTables

namespace Text

/-- The text with a carriage return before every line feed. -/
def withReturns (cs : List Char) : List Char :=
  cs.flatMap fun c => if c = '\n' then ['\r', '\n'] else [c]

def crlf (s : String) : String := String.ofList (withReturns s.toList)

/-- The texts have equally many lines, which differ pair by pair by noise alone. -/
def SameLines (cs ds : List Char) : Prop :=
  List.Forall₂ (Relation.EqvGen Line.Retyped) (lines cs) (lines ds)

theorem retyped_closeLine (carry : List Char) :
    Relation.EqvGen Line.Retyped (closeLine carry) carry.reverse := by
  unfold closeLine
  split
  · next rest =>
    have hreturn : AllBlank ['\r'] := by
      intro c hc
      obtain rfl := List.mem_singleton.1 hc
      decide
    have h : Line.Retyped rest.reverse ([] ++ rest.reverse ++ ['\r']) :=
      .blanks _ (by simp [AllBlank]) hreturn
    rw [List.reverse_cons]
    exact .rel _ _ h
  · exact .refl _

theorem linesFrom_withReturns : ∀ cs carry : List Char,
    List.Forall₂ (Relation.EqvGen Line.Retyped) (linesFrom carry cs)
      (linesFrom carry (withReturns cs))
  | [], carry => List.forall₂_same.2 fun _ _ => .refl _
  | c :: cs, carry => by
    by_cases hc : c = '\n'
    · subst hc
      have hline : linesFrom carry (withReturns ('\n' :: cs)) =
          carry.reverse :: linesFrom [] (withReturns cs) := by
        simp [withReturns, linesFrom, closeLine]
      rw [hline, linesFrom, if_pos rfl]
      exact .cons (retyped_closeLine carry) (linesFrom_withReturns cs [])
    · have hline : linesFrom carry (withReturns (c :: cs)) =
          linesFrom (c :: carry) (withReturns cs) := by
        simp [withReturns, linesFrom, hc]
      rw [hline, linesFrom, if_neg hc]
      exact linesFrom_withReturns cs (c :: carry)

theorem sameLines_withReturns (cs : List Char) : SameLines cs (withReturns cs) :=
  linesFrom_withReturns cs []

/-- A line that nothing ends is the same line once it is ended. -/
theorem linesFrom_append_newline : ∀ {cs carry : List Char}, carry ++ cs ≠ [] →
    cs.getLast? ≠ some '\n' →
      List.Forall₂ (Relation.EqvGen Line.Retyped) (linesFrom carry cs)
        (linesFrom carry (cs ++ ['\n']))
  | [], carry, hne, _ => by
    have hc : carry ≠ [] := by simpa using hne
    have hline : linesFrom carry [] = [carry.reverse] := by simp [linesFrom, hc]
    rw [hline]
    exact .cons (.symm _ _ (retyped_closeLine carry)) .nil
  | c :: cs, carry, _, hlast => by
    rw [List.getLast?_cons] at hlast
    by_cases hc : c = '\n'
    · subst hc
      -- The line feed is not the last character, so a line follows.
      have hne : cs ≠ [] := by rintro rfl; exact hlast rfl
      have hlast' : cs.getLast? ≠ some '\n' := fun h => hlast (by rw [h]; rfl)
      rw [List.cons_append, linesFrom, linesFrom, if_pos rfl, if_pos rfl]
      exact .cons (.refl _) (linesFrom_append_newline hne hlast')
    · have hlast' : cs.getLast? ≠ some '\n' := fun h => hlast (by rw [h]; rfl)
      rw [List.cons_append, linesFrom, linesFrom, if_neg hc, if_neg hc]
      exact linesFrom_append_newline (List.cons_ne_nil _ _) hlast'

theorem sameLines_append_newline {cs : List Char} (hne : cs ≠ [])
    (hlast : cs.getLast? ≠ some '\n') : SameLines cs (cs ++ ['\n']) :=
  linesFrom_append_newline hne hlast

/-- Texts of the same lines have the same lines with something on them, at the same places. -/
theorem SameLines.ofRaw_eq {s s' : String} (h : SameLines s.toList s'.toList) :
    (stringLines s').length = (stringLines s).length ∧
      Line.ofRaw (stringLines s') = Line.ofRaw (stringLines s) := by
  have hlines : List.Forall₂ (fun a b => Relation.EqvGen Line.Retyped a.toList b.toList)
      (stringLines s) (stringLines s') := by
    simpa only [SameLines, stringLines, List.forall₂_map_left_iff, List.forall₂_map_right_iff,
      String.toList_ofList] using h
  refine ⟨hlines.length_eq.symm, ?_⟩
  rw [Line.ofRaw_eq, Line.ofRaw_eq, Line.ofRawFrom_retyped hlines]

end Text

open Text (SameLines crlf)

theorem collect_of_ofRaw_eq {selection : Selection} {raw raw' : List String}
    (h : Line.ofRaw raw' = Line.ofRaw raw) : collect selection raw' = collect selection raw := by
  unfold collect Collection.ofRaw
  rw [h]

namespace FileTree

theorem sourceLines_of_load {t : FileTree} {p : Path} {text : String}
    (h : t.load p = .ok text.toUTF8) : t.sourceLines p = .ok (Text.stringLines text) :=
  sourceLines_eq_ok_iff.2 ⟨_, text, h, fromUTF8?_toUTF8 text, rfl⟩

/-- A file that can be read can hold other bytes, and all else stays as it is. -/
theorem store_of_load {t : FileTree} {p : Path} {bytes : ByteArray} (h : t.load p = .ok bytes)
    (bytes' : ByteArray) :
    ∃ t', t.store p bytes' = .ok t' ∧ t'.shape = t.shape ∧ t'.load p = .ok bytes' := by
  obtain ⟨l, hl, hn⟩ := load_eq_ok_iff.1 h
  have hdir : t.node? l ≠ some .directory := by simp [hn]
  have hkeeps : Keeps t (t.put l (.file bytes')) := .put hl.ne_nil hdir
  refine ⟨t.put l (.file bytes'), store_eq_ok_iff.2 ⟨l, ⟨hl, hdir⟩, rfl⟩, shape_put_file hn bytes',
    load_eq_ok_iff.2 ⟨l, hkeeps.reaches hl, ?_⟩⟩
  rw [node?_put t hl.ne_nil, if_pos rfl]

end FileTree

/-! ## Runs -/

namespace Request

theorem produce_of_sameLines {r : Request} {t t' : FileTree} {text text' : String}
    (hload : t.load r.input = .ok text.toUTF8) (hload' : t'.load r.input = .ok text'.toUTF8)
    (h : SameLines text.toList text'.toList) : r.produce t' = r.produce t := by
  obtain ⟨hlength, hlines⟩ := h.ofRaw_eq
  unfold produce
  rw [FileTree.sourceLines_of_load hload, FileTree.sourceLines_of_load hload', ok_bind, ok_bind,
    collect_of_ofRaw_eq hlines, hlength]

/-- **What a run comes to depends on the lines of its input**, and on the shape of the files. -/
theorem run_of_sameLines (logger logger' : Log.Logger) {r : Request} {w w' : World}
    {text text' : String} (hshape : SameShape w w')
    (hload : w.tree.load r.input = .ok text.toUTF8)
    (hload' : w'.tree.load r.input = .ok text'.toUTF8) (h : SameLines text.toList text'.toList) :
    ((r.run logger' : StateM World (Except TableError Report)) w').1 =
      ((r.run logger : StateM World (Except TableError Report)) w).1 := by
  rw [r.run_outcome logger' .silent, r.run_outcome logger .silent, run_silent, run_silent,
    produce_of_sameLines hload hload' h]
  cases r.produce w.tree with
  | error e => rfl
  | ok report =>
    exact (settle_lockstep (sameShape_replaces .silent .silent) r report w w' hshape).1.symm

end Request

/-- **Line endings do not matter.** A run comes to the same report, or to the same error, when every
line feed of its input file gets a carriage return before it, and when a file that is not empty and
does not end in a line feed gets one at its end. -/
theorem run_line_endings (logger : Log.Logger) {r : Request} {w : World} {text : String}
    (hload : w.tree.load r.input = .ok text.toUTF8) :
    let run (w : World) := ((r.run logger : StateM World (Except TableError Report)) w).1
    let runWith (contents : String) :=
      (w.tree.store r.input contents.toUTF8).map fun tree => run { w with tree }
    runWith (crlf text) = .ok (run w) ∧
      (text ≠ "" → text.toList.getLast? ≠ some '\n' → runWith (text ++ "\n") = .ok (run w)) := by
  intro run runWith
  have hsame : ∀ contents : String, SameLines text.toList contents.toList →
      runWith contents = .ok (run w) := by
    intro contents h
    obtain ⟨tree, hstore, hshape, hload'⟩ := FileTree.store_of_load hload contents.toUTF8
    simp only [runWith, hstore, map_ok]
    exact congrArg Except.ok
      (Request.run_of_sameLines logger logger ⟨hshape.symm, rfl⟩ hload hload' h)
  constructor
  · refine hsame _ ?_
    rw [crlf, String.toList_ofList]
    exact Text.sameLines_withReturns _
  · intro hne hlast
    refine hsame _ ?_
    rw [String.toList_append]
    exact Text.sameLines_append_newline (by simpa using hne) hlast

/-- A file of several endings: two carriage returns, none, and one that nothing follows. -/
theorem run_line_endings_mixed :
    let r : Request := ⟨.ctxIdxInc, ⟨"in.txt"⟩, ⟨"out.txt"⟩, false⟩
    let text := "3 5 6 7 4 8 9 10\r\r\n\n 1 \r"
    let w := World.start (.build [] [(⟨"in.txt"⟩, text.toUTF8)]) [] ""
    let run (w : World) := ((r.run .silent : StateM World (Except TableError Report)) w).1
    let runWith (contents : String) :=
      (w.tree.store r.input contents.toUTF8).map fun tree => run { w with tree }
    w.tree.load r.input = .ok text.toUTF8 ∧ text ≠ "" ∧ text.toList.getLast? ≠ some '\n' ∧
      run w = .error (.malformedLine 3 "1" "expected 8 tokens, found 1") ∧
      runWith (crlf text) = .ok (run w) ∧ runWith (text ++ "\n") = .ok (run w) := by
  intro r text w run runWith
  have hload : w.tree.load r.input = .ok text.toUTF8 := by decide +kernel
  have hne : text ≠ "" := by decide
  have hlast : text.toList.getLast? ≠ some '\n' := by decide
  have hrun : run w = .error (.malformedLine 3 "1" "expected 8 tokens, found 1") := by
    decide +kernel
  have hsame := run_line_endings .silent hload
  exact ⟨hload, hne, hlast, hrun, hsame.1, hsame.2 hne hlast⟩

end EntropyTables
