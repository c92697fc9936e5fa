import EntropyTables.Proofs.CavlcRows
import EntropyTables.Proofs.Columns
import EntropyTables.Proofs.Transcription
/-!
# Lines of CAVLC cells

A CAVLC line is read by its cells, which are its tokens without the commas at their ends, so commas
may be put at the end of any token (`cells_eq_of_commas`). The rows of a file are numbered as they
are accepted (`readings_cavlc`, `after_cavlc`).

Main statement: `cavlc_by_columns`.
-/
namespace EntropyTables

open Text (isBlank words decimal)

/-! ## Commas at the end of a token -/

/-- The cell is the token without all commas at its end. -/
structure Stripped (token cell : String) : Prop where
  commas : ∃ count, token.toList = cell.toList ++ List.replicate count ','
  last : cell.toList.getLast? ≠ some ','

theorem stripped_stripCommas (token : String) : Stripped token (Grammar.stripCommas token) where
  commas := by
    have hall : ∀ c ∈ token.toList.reverse.takeWhile (· == ','), c = ',' :=
      fun c hc => by simpa using List.mem_takeWhile_imp hc
    have hsplit := List.takeWhile_append_dropWhile (p := (· == ',')) (l := token.toList.reverse)
    rw [List.eq_replicate_of_mem hall] at hsplit
    refine ⟨(token.toList.reverse.takeWhile (· == ',')).length, ?_⟩
    rw [Grammar.stripCommas, String.toList_ofList, ← List.reverse_replicate, ← List.reverse_append,
      hsplit, List.reverse_reverse]
  last := by
    rw [Grammar.stripCommas, String.toList_ofList, List.getLast?_reverse]
    intro h
    obtain ⟨rest, hrest⟩ := List.head?_eq_some_iff.1 h
    exact absurd (Text.head_dropWhile hrest) (by decide)

theorem stripCommas_append (w : List Char) (count : Nat) :
    Grammar.stripCommas (String.ofList (w ++ List.replicate count ',')) =
      Grammar.stripCommas (String.ofList w) := by
  have hcommas : ∀ c ∈ List.replicate count ',', (c == ',') = true :=
    fun c hc => by simp [List.eq_of_mem_replicate hc]
  simp only [Grammar.stripCommas, String.toList_ofList, List.reverse_append, List.reverse_replicate]
  rw [List.dropWhile_append_of_pos hcommas]

/-- One change to a text: commas are put at the end of one of its words. -/
inductive Text.CommasAdded : List Char → List Char → Prop
  | mk (pre : List Char) {c : Char} (hc : isBlank c = false) (count : Nat) {post : List Char}
      (hpost : ∀ b ∈ post.head?, isBlank b = true) :
      CommasAdded (pre ++ c :: post) (pre ++ c :: (List.replicate count ',' ++ post))

/-- The second list has the words of the first, perhaps with commas at their ends. -/
def WithCommas : List (List Char) → List (List Char) → Prop :=
  List.Forall₂ fun w w' => ∃ count, w' = w ++ List.replicate count ','

theorem WithCommas.refl (ws : List (List Char)) : WithCommas ws ws :=
  List.forall₂_same.2 fun w _ => ⟨0, by simp⟩

theorem WithCommas.map_stripCommas {ws ws' : List (List Char)} (h : WithCommas ws ws') :
    (ws'.map String.ofList).map Grammar.stripCommas =
      (ws.map String.ofList).map Grammar.stripCommas := by
  induction h with
  | nil => rfl
  | cons hw _ ih =>
    obtain ⟨count, rfl⟩ := hw
    simp only [List.map_cons, ih, stripCommas_append]

/-- What has been read of a word is all of it where the text ends or a blank follows. -/
theorem wordsFrom_of_ended {carry post : List Char} (hne : carry ≠ [])
    (hpost : ∀ b ∈ post.head?, isBlank b = true) :
    Text.wordsFrom carry post = carry.reverse :: words post := by
  cases post with
  | nil => simp [Text.wordsFrom, hne]
  | cons b post =>
    have hb : isBlank b = true := hpost b rfl
    rw [Text.words_cons_blank hb, Text.wordsFrom, if_pos hb, if_neg (by simpa using hne)]
    rfl

/-- The commas join the word before them, whatever has been read of it. -/
theorem withCommas_wordsFrom {c : Char} (hc : isBlank c = false) (count : Nat) {post : List Char}
    (hpost : ∀ b ∈ post.head?, isBlank b = true) : ∀ pre carry : List Char,
      WithCommas (Text.wordsFrom carry (pre ++ c :: post))
        (Text.wordsFrom carry (pre ++ c :: (List.replicate count ',' ++ post)))
  | [], carry => by
    have hcommas : ∀ d ∈ List.replicate count ',', isBlank d = false :=
      fun d hd => List.eq_of_mem_replicate hd ▸ by decide
    have hword : (List.replicate count ',' ++ c :: carry).reverse =
        (c :: carry).reverse ++ List.replicate count ',' := by
      rw [List.reverse_append, List.reverse_replicate]
    simp only [List.nil_append, Text.wordsFrom, hc, Bool.false_eq_true, ↓reduceIte]
    rw [Text.wordsFrom_append hcommas, List.reverse_replicate,
      wordsFrom_of_ended (List.cons_ne_nil _ _) hpost, wordsFrom_of_ended (by simp) hpost, hword]
    exact .cons ⟨count, rfl⟩ (WithCommas.refl (words post))
  | a :: pre, carry => by
    simp only [List.cons_append, Text.wordsFrom]
    split
    · split
      · exact withCommas_wordsFrom hc count hpost pre []
      · exact .cons ⟨0, by simp⟩ (withCommas_wordsFrom hc count hpost pre [])
    · exact withCommas_wordsFrom hc count hpost pre (a :: carry)

/-- **Commas at the ends of tokens** change no cell. -/
theorem cells_eq_of_commas {line line' : Line}
    (h : Relation.EqvGen Text.CommasAdded line.text.toList line'.text.toList) :
    line'.cells = line.cells := by
  refine (Line.eq_of_eqvGen (F := fun cs => ((words cs).map String.ofList).map Grammar.stripCommas)
    (fun cs cs' hstep => ?_) h).symm
  obtain ⟨pre, hc, count, hpost⟩ := hstep
  exact (withCommas_wordsFrom hc count hpost pre []).map_stripCommas.symm

/-! ## The cells of a line -/

namespace Grammar

def cavlcColumn (i : Nat) : Column := if i < 2 then .value else .pattern

theorem cavlc_of_miscounted {line : Line} (row : Int) (h : line.cells.length < 2) :
    cavlc row line = .error (.malformedLine line.number line.text
      ("expected at least 2 tokens, found " ++ decimal line.cells.length)) := by
  unfold Line.cells at h ⊢
  unfold cavlc
  generalize line.tokens.map stripCommas = cells at h ⊢
  match cells, h with
  | [], _ => rfl
  | [_], _ => rfl

theorem cavlc_follows {line : Line} (row : Int) (h : 2 ≤ line.cells.length) :
    Follows line (fault? cavlcColumn line.cells) (cavlc row line) := by
  unfold Line.cells at h ⊢
  unfold cavlc
  generalize line.tokens.map stripCommas = cells at h ⊢
  match cells, h with
  | first :: second :: patterns, _ =>
    have hlate : fault? (fun i => cavlcColumn (1 + (1 + i))) patterns =
        fault? (fun _ => .pattern) patterns :=
      fault?_congr fun i _ => if_neg (by omega)
    have hsplit : fault? cavlcColumn (first :: second :: patterns) =
        (fault? (fun _ => .value) [first]).or ((fault? (fun _ => .value) [second]).or
          (fault? (fun _ => .pattern) patterns)) := by
      rw [← hlate]
      exact (fault?_append cavlcColumn [first] (second :: patterns)).trans
        (congrArg _ (fault?_append (fun i => cavlcColumn (1 + i)) [second] patterns))
    rw [hsplit]
    exact (follows_readValue first).bind fun _ => (follows_readValue second).bind fun _ =>
      (Follows.forM follows_checkPattern patterns).bind_ok fun _ => ⟨_, rfl⟩

theorem isOk_cavlc_iff {row : Int} {line : Line} :
    (cavlc row line).isOk = true ↔ IsCavlcRow line.cells := by
  constructor
  · intro h
    cases he : cavlc row line with
    | error e => rw [he] at h; cases h
    | ok entry => exact (cavlc_eq_ok_iff.1 he).1
  · intro h
    rw [cavlc_eq_ok_iff.2 ⟨h, rfl⟩]
    rfl

end Grammar

/-! ## The numbers of the rows -/

/-- What one line does to a file: it is the next row, or it is refused and takes no number. Which of
the two does not depend on the number of the row. -/
theorem parse_cavlc_cases (mode : CavlcMode) (row next : Int) (line : Line) :
    (Grammar.cavlc row line).isOk = true ∧
        (⟨.cavlc mode, next⟩ : Layout).parse line =
          .ok ([⟨next, line.cells.map .text⟩], ⟨.cavlc mode, next + 1⟩) ∨
      ¬ (Grammar.cavlc row line).isOk = true ∧
        ∃ e, (⟨.cavlc mode, next⟩ : Layout).parse line = .error e := by
  rw [Grammar.isOk_cavlc_iff]
  by_cases h : Grammar.IsCavlcRow line.cells
  · exact .inl ⟨h, parse_cavlc h⟩
  · exact .inr ⟨h, (Layout.not_accepts_iff ⟨.cavlc mode, next⟩ line).1
      (mt (accepts_cavlc_iff mode line).1 h)⟩

/-- **The rows of a file** are its accepted lines, numbered in their order. -/
theorem readings_cavlc (mode : CavlcMode) (row : Int) : ∀ (lines : List Line) (start : Nat),
    (⟨.cavlc mode, start⟩ : Layout).readings lines =
      ((lines.filter fun line => (Grammar.cavlc row line).isOk).zipIdx start).map
        fun (line, number) => (line, [⟨number, line.cells.map .text⟩])
  | [], _ => rfl
  | line :: rest, start => by
    rcases parse_cavlc_cases mode row start line with ⟨hok, hparse⟩ | ⟨hno, e, hparse⟩
    · rw [Layout.readings_of_ok hparse, List.filter_cons, if_pos hok, List.zipIdx_cons,
        List.map_cons, ← readings_cavlc mode row rest (start + 1)]
      rfl
    · rw [Layout.readings_of_error hparse, List.filter_cons, if_neg hno]
      exact readings_cavlc mode row rest start

/-- **The number of the next row** counts the accepted lines. -/
theorem after_cavlc (mode : CavlcMode) (row : Int) : ∀ (lines : List Line) (start : Nat),
    (⟨.cavlc mode, start⟩ : Layout).after lines =
      ⟨.cavlc mode, start + (lines.filter fun line => (Grammar.cavlc row line).isOk).length⟩
  | [], start => by simp [Layout.after]
  | line :: rest, start => by
    rcases parse_cavlc_cases mode row start line with ⟨hok, hparse⟩ | ⟨hno, e, hparse⟩
    · rw [Layout.after_of_ok hparse, List.filter_cons, if_pos hok, List.length_cons]
      refine (after_cavlc mode row rest (start + 1)).trans ?_
      congr 1
      push_cast
      omega
    · rw [Layout.after_of_error hparse, List.filter_cons, if_neg hno]
      exact after_cavlc mode row rest start

/-- **Lines of cells.** The cells of a line are its tokens without the commas at their ends. A line
of fewer than two cells is malformed; the cells of any other line are read by their columns and kept
as they are. Commas at the ends of tokens change no row.

In a file the accepted lines are numbered from zero in their order, and the others take no
number. -/
theorem cavlc_by_columns (row : Int) (line : Line) :
    let cells := line.cells
    List.Forall₂ Stripped line.tokens cells ∧
    (cells.length < 2 → Grammar.cavlc row line = .error (.malformedLine line.number line.text
      ("expected at least 2 tokens, found " ++ decimal cells.length))) ∧
    (2 ≤ cells.length →
      Grammar.ReadsByColumn line Grammar.cavlcColumn cells (Grammar.cavlc row line)) ∧
    (∀ entry, Grammar.cavlc row line = .ok entry → entry = ⟨row, cells.map .text⟩ ∧
      ∀ line' : Line, Relation.EqvGen Text.CommasAdded line.text.toList line'.text.toList →
        Grammar.cavlc row line' = .ok entry) ∧
    ∀ (mode : CavlcMode) (lines : List Line),
      let accepted := lines.filter fun other => (Grammar.cavlc row other).isOk
      (Layout.fresh (.cavlc mode)).readings lines =
        accepted.zipIdx.map (fun (other, number) => (other, [⟨number, other.cells.map .text⟩])) ∧
      (Layout.fresh (.cavlc mode)).after lines = ⟨.cavlc mode, accepted.length⟩ := by
  refine ⟨?_, Grammar.cavlc_of_miscounted row, fun h => (Grammar.cavlc_follows row h).readsByColumn,
    fun entry he => ?_, fun mode lines => ⟨readings_cavlc mode row lines 0, ?_⟩⟩
  · exact List.forall₂_map_right_iff.2 (List.forall₂_same.2 fun token _ =>
      stripped_stripCommas token)
  · obtain ⟨hrow, rfl⟩ := Grammar.cavlc_eq_ok_iff.1 he
    refine ⟨rfl, fun line' h => Grammar.cavlc_eq_ok_iff.2 ?_⟩
    rw [cells_eq_of_commas h]
    exact ⟨hrow, rfl⟩
  · simpa [Layout.fresh] using after_cavlc mode row lines 0

end EntropyTables
