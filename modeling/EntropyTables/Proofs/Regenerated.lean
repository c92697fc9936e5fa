import EntropyTables.Proofs.CavlcForms
import EntropyTables.Proofs.CavlcLines
import EntropyTables.Proofs.NormalForm
import EntropyTables.Proofs.OrderIndependence
import EntropyTables.Text.Lines
/-!
# A generated table read again

The table of CAVLC codewords is written in rows of cells, with commas and tabs between them and `0b`
before each codeword. Without the `0b` its rows are lines of the CAVLC grammar: a comma at the end
of a token does not show, and a tab parts two tokens (`cells_normalize_rowLine`). What is read of
them are the cells of the source, with `0` for the cells without a codeword, which are written as
zeros.

Main statement: `transform_again`.
-/
namespace EntropyTables

namespace Text

/-! ## Marks of binary literals -/

/-- The text without any `0b`. -/
def withoutMarks : List Char → List Char
  | '0' :: 'b' :: cs => withoutMarks cs
  | c :: cs => c :: withoutMarks cs
  | [] => []

def unmarked (s : String) : String := String.ofList (withoutMarks s.toList)

theorem withoutMarks_cons {c : Char} (hc : c ≠ '0') (cs : List Char) :
    withoutMarks (c :: cs) = c :: withoutMarks cs := by
  rw [withoutMarks]
  exact fun _ h => absurd h hc

/-- **A text may be cut** at a character that is no part of a mark. -/
theorem withoutMarks_append_cons {d : Char} (h₀ : d ≠ '0') (hb : d ≠ 'b') (xs ys : List Char) :
    withoutMarks (xs ++ d :: ys) = withoutMarks xs ++ d :: withoutMarks ys := by
  fun_induction withoutMarks xs with
  | case1 xs ih => simpa [withoutMarks] using ih
  | case2 c xs hne ih =>
    rw [List.cons_append, withoutMarks, ih, List.cons_append]
    rintro rest rfl he
    cases xs with
    | nil => exact hb (List.cons.inj he).1
    | cons x xs =>
      obtain ⟨rfl, -⟩ := List.cons.inj he
      exact hne xs rfl rfl
  | case3 => exact withoutMarks_cons h₀ ys

/-- Text without a zero before the rest of a text has no part in a mark. -/
theorem withoutMarks_append {xs : List Char} (h : '0' ∉ xs) (ys : List Char) :
    withoutMarks (xs ++ ys) = xs ++ withoutMarks ys := by
  induction xs with
  | nil => rfl
  | cons x xs ih =>
    have hx : x ≠ '0' := fun hx => h (by simp [hx])
    rw [List.cons_append, withoutMarks_cons hx, ih fun hxs => h (List.mem_cons_of_mem x hxs),
      List.cons_append]

theorem withoutMarks_eq_self {cs : List Char} (h : 'b' ∉ cs) : withoutMarks cs = cs := by
  fun_induction withoutMarks cs with
  | case1 cs ih => exact absurd (by simp) h
  | case2 c cs _ ih => rw [ih fun hcs => h (List.mem_cons_of_mem c hcs)]
  | case3 => rfl

end Text

open Text (IsNumeral isBlank words withoutMarks)

/-! ## Zeros for missing codewords -/

/-- The cell, with a zero where it has no codeword. -/
def fillCell (cell : String) : String := if cell = Grammar.noCodeword then "0" else cell

def Field.filled : Field → Field
  | .text token => .text (fillCell token)
  | .int value => .int value

/-- The entry, with zeros for the fields without a codeword. -/
def Entry.filled (entry : Entry) : Entry := { entry with fields := entry.fields.map Field.filled }

theorem map_filled_numberRows : ∀ (rows : List (List String)) (start : Int),
    (numberRows start rows).map Entry.filled = numberRows start (rows.map (·.map fillCell))
  | [], _ => rfl
  | cells :: rows, start => by
    have hfields : (cells.map Field.text).map Field.filled = (cells.map fillCell).map .text := by
      simp [Field.filled]
    rw [numberRows, List.map_cons, map_filled_numberRows rows (start + 1), List.map_cons,
      numberRows]
    exact congrArg (fun fields => Entry.mk start fields :: _) hfields

theorem bitLiteral_fillCell (cell : String) :
    Render.bitLiteral (fillCell cell) = Render.bitLiteral cell := by
  unfold fillCell
  split_ifs with h
  · rw [h]
    decide
  · rfl

theorem fillCell_of_isSome {cell : String} (h : (Text.readInt64? cell.toList).isSome = true) :
    fillCell cell = cell := by
  refine if_neg ?_
  rintro rfl
  exact (Text.isNumeral_of_readInt64? h).2 rfl

theorem isNumeral_of_isPattern {cell : String} (h : Grammar.isPattern cell = true) :
    IsNumeral cell.toList := by
  simp only [Grammar.isPattern, Bool.or_eq_true, beq_iff_eq, Bool.and_eq_true,
    List.all_eq_true] at h
  rcases h with rfl | ⟨-, h⟩
  · exact fun c hc => .inl (by simpa [Grammar.noCodeword] using hc)
  · intro c hc
    rcases h c hc with rfl | rfl
    · exact .inr (.inr rfl)
    · exact .inr (.inr rfl)

namespace Grammar

theorem IsCavlcRow.isNumeral : ∀ {cells : List String}, IsCavlcRow cells →
    ∀ cell ∈ cells, IsNumeral cell.toList
  | _ :: _ :: _, ⟨h₁, h₂, hp⟩ =>
    List.forall_mem_cons.2 ⟨(Text.isNumeral_of_readInt64? h₁).1, List.forall_mem_cons.2
      ⟨(Text.isNumeral_of_readInt64? h₂).1, fun cell hc => isNumeral_of_isPattern (hp cell hc)⟩⟩

theorem IsCavlcRow.filled : ∀ {cells : List String}, IsCavlcRow cells →
    IsCavlcRow (cells.map fillCell)
  | first :: second :: patterns, ⟨h₁, h₂, hp⟩ => by
    refine ⟨by rwa [fillCell_of_isSome h₁], by rwa [fillCell_of_isSome h₂], fun cell hc => ?_⟩
    obtain ⟨pattern, hpattern, rfl⟩ := List.mem_map.1 hc
    unfold fillCell
    split_ifs
    · decide
    · exact hp pattern hpattern

end Grammar

open Grammar (IsCavlcRow)

/-- Zeros and missing codewords are written alike. -/
theorem codewordCells_filled : ∀ {cells : List String}, IsCavlcRow cells →
    codewordCells (cells.map fillCell) = codewordCells cells
  | first :: second :: patterns, ⟨h₁, h₂, _⟩ => by
    have hpatterns : (patterns.map fillCell).map Render.bitLiteral =
        patterns.map Render.bitLiteral := by
      rw [List.map_map]
      exact List.map_congr_left fun cell _ => bitLiteral_fillCell cell
    show fillCell first :: fillCell second :: (patterns.map fillCell).map Render.bitLiteral = _
    rw [fillCell_of_isSome h₁, fillCell_of_isSome h₂, hpatterns]
    rfl

/-! ## Rows without marks -/

/-- The second text is the first without its marks. -/
def Unmarks (marked plain : String) : Prop := withoutMarks marked.toList = plain.toList

theorem unmarks_of_isNumeral {cell : String} (h : IsNumeral cell.toList) : Unmarks cell cell := by
  refine Text.withoutMarks_eq_self fun hb => ?_
  exact absurd (h 'b' hb) (by decide)

/-- **A codeword without its mark** is the cell of the source, or a zero. -/
theorem unmarks_bitLiteral {cell : String} (h : Grammar.isPattern cell = true) :
    Unmarks (Render.bitLiteral cell) (fillCell cell) := by
  unfold Render.bitLiteral fillCell
  split_ifs
  · rfl
  · have hcell : Unmarks cell cell := unmarks_of_isNumeral (isNumeral_of_isPattern h)
    simpa [Unmarks, withoutMarks] using hcell

theorem unmarks_codewordCells : ∀ {cells : List String}, IsCavlcRow cells →
    List.Forall₂ Unmarks (codewordCells cells) (cells.map fillCell)
  | first :: second :: patterns, ⟨h₁, h₂, hp⟩ => by
    have hnumber : ∀ {cell : String}, (Text.readInt64? cell.toList).isSome = true →
        Unmarks cell (fillCell cell) := by
      intro cell h
      rw [fillCell_of_isSome h]
      exact unmarks_of_isNumeral (Text.isNumeral_of_readInt64? h).1
    refine .cons (hnumber h₁) (.cons (hnumber h₂) ?_)
    show List.Forall₂ Unmarks (patterns.map Render.bitLiteral) (patterns.map fillCell)
    simp only [List.forall₂_map_left_iff, List.forall₂_map_right_iff]
    exact List.forall₂_same.2 fun cell hc => unmarks_bitLiteral (hp cell hc)

namespace Render

/-- The blanks and commas of a row hold no mark, and join no two cells to one. -/
theorem withoutMarks_rowLine {indent : List Char} (hindent : '0' ∉ indent) {cell plain : String}
    {cells plains : List String} (h : Unmarks cell plain) (hs : List.Forall₂ Unmarks cells plains)
    (rest : List Char) :
    withoutMarks (rowLine indent cell cells ++ '\n' :: rest) =
      rowLine indent plain plains ++ '\n' :: withoutMarks rest := by
  induction hs generalizing indent cell plain with
  | nil =>
    calc withoutMarks (rowLine indent cell [] ++ '\n' :: rest)
      _ = withoutMarks (indent ++ (cell.toList ++ ',' :: '\n' :: rest)) := by simp [rowLine]
      _ = indent ++ (withoutMarks cell.toList ++ ',' :: '\n' :: withoutMarks rest) := by
        rw [Text.withoutMarks_append hindent,
          Text.withoutMarks_append_cons (by decide) (by decide),
          Text.withoutMarks_cons (by decide)]
      _ = rowLine indent plain [] ++ '\n' :: withoutMarks rest := by
        rw [show withoutMarks cell.toList = plain.toList from h]
        simp [rowLine]
  | @cons next nextPlain cells plains hnext _ ih =>
    calc withoutMarks (rowLine indent cell (next :: cells) ++ '\n' :: rest)
      _ = withoutMarks (indent ++ (cell.toList ++
            ',' :: (rowLine ['\t'] next cells ++ '\n' :: rest))) := by simp [rowLine]
      _ = indent ++ (withoutMarks cell.toList ++
            ',' :: (rowLine ['\t'] nextPlain plains ++ '\n' :: withoutMarks rest)) := by
        rw [Text.withoutMarks_append hindent,
          Text.withoutMarks_append_cons (by decide) (by decide), ih (by decide) hnext]
      _ = rowLine indent plain (nextPlain :: plains) ++ '\n' :: withoutMarks rest := by
        rw [show withoutMarks cell.toList = plain.toList from h]
        simp [rowLine]

theorem withoutMarks_cellRow {cells plains : List String} (hne : cells ≠ [])
    (h : List.Forall₂ Unmarks cells plains) (rest : List Char) :
    withoutMarks ((cellRow cells).toList ++ rest) =
      (cellRow plains).toList ++ withoutMarks rest := by
  cases h with
  | nil => exact absurd rfl hne
  | cons hcell hcells =>
    rw [toList_cellRow, toList_cellRow, List.append_assoc, List.append_assoc]
    exact withoutMarks_rowLine (by decide) hcell hcells rest

/-- **The text without its marks** is written of the rows without theirs. -/
theorem unmarked_join : ∀ {rows : List (List String)}, (∀ cells ∈ rows, IsCavlcRow cells) →
    Text.unmarked (String.join ((rows.map codewordCells).map cellRow)) =
      String.join ((rows.map (·.map fillCell)).map cellRow)
  | [], _ => by decide
  | cells :: rows, h => by
    obtain ⟨hrow, h⟩ := List.forall_mem_cons.1 h
    have hne : codewordCells cells ≠ [] := (rowForms_of_isCavlcRow hrow).readable.1.1
    have ih := congrArg String.toList (unmarked_join h)
    rw [Text.unmarked, String.toList_ofList] at ih
    refine String.toList_inj.1 ?_
    rw [Text.unmarked, String.toList_ofList]
    simp only [List.map_cons, String.join_cons, String.toList_append]
    rw [withoutMarks_cellRow hne (unmarks_codewordCells hrow), ih]

/-! ## Rows read as lines -/

theorem IsCell.not_blank_comma {cell : String} (h : IsCell cell) :
    ∀ c ∈ cell.toList ++ [','], isBlank c = false :=
  List.forall_mem_append.2 ⟨fun c hc => (h c hc).2, List.forall_mem_singleton.2 (by decide)⟩

/-- **The words of a row** are its cells, each with the comma after it. -/
theorem words_rowLine : ∀ {indent : List Char} {cell : String} {cells : List String},
    Text.AllBlank indent → IsCell cell → (∀ cell ∈ cells, IsCell cell) →
      words (rowLine indent cell cells) =
        (cell :: cells).map fun cell => cell.toList ++ [',']
  | indent, cell, [], hindent, hcell, _ => by
    have hline : rowLine indent cell [] = indent ++ (cell.toList ++ [',']) := by simp [rowLine]
    rw [hline, Text.words_blanks_append hindent,
      Text.words_of_not_blank hcell.not_blank_comma (by simp)]
    rfl
  | indent, cell, next :: cells, hindent, hcell, hcells => by
    obtain ⟨hnext, hcells⟩ := List.forall_mem_cons.1 hcells
    have hline : rowLine indent cell (next :: cells) =
        indent ++ ((cell.toList ++ [',']) ++ '\t' :: rowLine [] next cells) := by
      simp [rowLine]
    rw [hline, Text.words_blanks_append hindent,
      Text.words_append_blank hcell.not_blank_comma (by simp) (by decide),
      words_rowLine (by simp [Text.AllBlank]) hnext hcells]
    rfl

theorem stripCommas_cell {cell : String} (h : IsCell cell) :
    Grammar.stripCommas (String.ofList (cell.toList ++ [','])) = cell := by
  have hend : ∀ c ∈ cell.toList.reverse.head?, (c == ',') = false := by
    intro c hc
    rw [List.head?_reverse] at hc
    simpa using (h c (List.mem_of_mem_getLast? hc)).1
  have hnone : cell.toList.reverse.dropWhile (· == ',') = cell.toList.reverse := by
    cases hl : cell.toList.reverse with
    | nil => rfl
    | cons c cs =>
      rw [hl] at hend
      exact List.dropWhile_cons_of_neg (by simp [hend c rfl])
  have hstrip := stripCommas_append cell.toList 1
  rw [List.replicate_one] at hstrip
  rw [hstrip, Grammar.stripCommas, String.toList_ofList, hnone, List.reverse_reverse,
    String.ofList_toList]

/-- **A row of numerals is kept as a line**, and its cells are the cells of the row. -/
theorem cells_normalize_rowLine {indent : List Char} {cell : String} {cells : List String}
    (hindent : Text.AllBlank indent) (h : ∀ c ∈ cell :: cells, IsNumeral c.toList) :
    ∃ text, Line.normalize (String.ofList (rowLine indent cell cells)) = some text ∧
      ∀ number, (⟨number, text⟩ : Line).cells = cell :: cells := by
  obtain ⟨hcell, hcells⟩ := List.forall_mem_cons.1 h
  have hmend : Line.mend (rowLine indent cell cells) = rowLine indent cell cells := by
    refine Line.mend_of_unspelled (forall_mem_rowLine (fun c hc => ?_) (by decide) (by decide)
      (Line.unspelled_of_isNumeral hcell)
      fun cell hc => Line.unspelled_of_isNumeral (hcells cell hc))
    constructor
    · rintro rfl; exact absurd (hindent _ hc) (by decide)
    · rintro rfl; exact absurd (hindent _ hc) (by decide)
  have hwords := words_rowLine hindent (isCell_of_isNumeral hcell)
    fun cell hc => isCell_of_isNumeral (hcells cell hc)
  rcases Line.normalize_cases (String.ofList (rowLine indent cell cells)) with
    ⟨-, hnone⟩ | ⟨text, hkept, -, htokens⟩
  · rw [String.toList_ofList, hmend, hwords] at hnone
    cases hnone
  · refine ⟨text, hkept, fun number => ?_⟩
    rw [String.toList_ofList, hmend, hwords, List.map_map] at htokens
    show (Text.tokens text).map Grammar.stripCommas = cell :: cells
    rw [htokens, List.map_map]
    refine (List.map_congr_left fun c hc => ?_).trans (List.map_id _)
    exact stripCommas_cell (isCell_of_isNumeral (h c hc))

/-- The first line of a text of rows is its first row. -/
theorem stringLines_cellRow_append {cell : String} {cells : List String} (hcell : IsCell cell)
    (hcells : ∀ cell ∈ cells, IsCell cell) (text : String) :
    Text.stringLines (cellRow (cell :: cells) ++ text) =
      String.ofList (rowLine bodyIndent.toList cell cells) :: Text.stringLines text := by
  have hn := newline_not_mem_rowLine (show '\n' ∉ bodyIndent.toList by decide) hcell hcells
  -- The row ends in a comma, so no carriage return is taken off.
  have hclose : Text.closeLine (rowLine bodyIndent.toList cell cells).reverse =
      rowLine bodyIndent.toList cell cells := by
    unfold rowLine
    rw [List.reverse_append]
    simp [Text.closeLine]
  unfold Text.stringLines
  rw [String.toList_append, toList_cellRow, List.append_assoc, List.singleton_append,
    Text.lines_append_newline hn, hclose, List.map_cons]

/-- **Written rows are read as the rows.** -/
theorem cells_ofRawFrom_join : ∀ {rows : List (List String)},
    (∀ cells ∈ rows, cells ≠ [] ∧ ∀ cell ∈ cells, IsNumeral cell.toList) → ∀ start : Nat,
      (Line.ofRawFrom start (Text.stringLines (String.join (rows.map cellRow)))).map Line.cells =
        rows
  | [], _, _ => rfl
  | [] :: _, h, _ => absurd rfl (h [] List.mem_cons_self).1
  | (cell :: cells) :: rows, h, start => by
    obtain ⟨⟨-, hrow⟩, h⟩ := List.forall_mem_cons.1 h
    obtain ⟨hcell, hcells⟩ := List.forall_mem_cons.1 hrow
    have hblank : Text.AllBlank bodyIndent.toList := List.all_eq_true.1 (by decide)
    obtain ⟨text, hkept, hread⟩ := cells_normalize_rowLine hblank hrow
    rw [List.map_cons, String.join_cons, stringLines_cellRow_append (isCell_of_isNumeral hcell)
      fun cell hc => isCell_of_isNumeral (hcells cell hc), Line.ofRawFrom_cons, hkept,
      List.map_append, cells_ofRawFrom_join h]
    show (⟨start, text⟩ : Line).cells :: rows = _
    rw [hread]

end Render

theorem render_numberRows (rows : List (List String)) :
    Selection.render (.cavlc .lut) (numberRows 0 rows) =
      String.join ((rows.map codewordCells).map Render.cellRow) :=
  blocks_numberRows bitLiteralRow_eq rows 0

/-- **What is read of written codewords** are their rows, with zeros for missing codewords. -/
theorem cells_unmarked_render {rows : List (List String)} (h : ∀ cells ∈ rows, IsCavlcRow cells) :
    (Line.ofRaw (Text.stringLines
      (Text.unmarked (Selection.render (.cavlc .lut) (numberRows 0 rows))))).map Line.cells =
        rows.map (·.map fillCell) := by
  rw [render_numberRows, Render.unmarked_join h]
  refine Render.cells_ofRawFrom_join (List.forall_mem_map.2 fun cells hc => ?_) 1
  have hfilled := (h cells hc).filled
  refine ⟨?_, hfilled.isNumeral⟩
  rintro hnil
  rw [hnil] at hfilled
  exact hfilled

/-- **Generated codewords are generated again from their own text.** Once every `0b` is deleted from
the table of codewords, its lines can be read as a CAVLC file. The same text is generated of them,
and their entries are those of the source with `0` for every `-`. -/
theorem transform_again {raw : List String} {text : String}
    (h : transform (.cavlc .lut) raw = .ok text) :
    let again := Text.stringLines (Text.unmarked text)
    transform (.cavlc .lut) again = .ok text ∧
      ∃ entries, collect (.cavlc .lut) raw = .ok entries ∧
        collect (.cavlc .lut) again = .ok (entries.map Entry.filled) := by
  intro again
  obtain ⟨entries, hentries, rfl⟩ := transform_eq_ok_iff.1 h
  obtain ⟨haccepted, hnumbered⟩ := collect_cavlc_iff.1 hentries
  have hrows : ∀ cells ∈ (Line.ofRaw raw).map Line.cells, IsCavlcRow cells :=
    List.forall_mem_map.2 haccepted
  generalize (Line.ofRaw raw).map Line.cells = rows at hnumbered hrows
  subst hnumbered
  have hcells : (Line.ofRaw again).map Line.cells = rows.map (·.map fillCell) :=
    cells_unmarked_render hrows
  have hcollect : collect (.cavlc .lut) again = .ok ((numberRows 0 rows).map Entry.filled) := by
    have hread : ∀ cells ∈ (Line.ofRaw again).map Line.cells, IsCavlcRow cells := by
      rw [hcells]
      exact List.forall_mem_map.2 fun cells hc => (hrows cells hc).filled
    refine collect_cavlc_iff.2 ⟨List.forall_mem_map.1 hread, ?_⟩
    rw [hcells, map_filled_numberRows]
  have hsame : (rows.map (·.map fillCell)).map codewordCells = rows.map codewordCells := by
    rw [List.map_map]
    exact List.map_congr_left fun cells hc => codewordCells_filled (hrows cells hc)
  refine ⟨transform_eq_ok_iff.2 ⟨_, hcollect, ?_⟩, _, hentries, hcollect⟩
  rw [map_filled_numberRows, render_numberRows, render_numberRows, hsame]

/-- Two rows of different widths, with a cell without a codeword, and its table read again. -/
theorem transform_again_missing :
    let raw := ["1, 0,, -  01", "", "\u22121 2"]
    let text := "        1,\t0,\t0b0,\t0b01,\n        -1,\t2,\n"
    let again := Text.stringLines (Text.unmarked text)
    transform (.cavlc .lut) raw = .ok text ∧
      again = ["        1,\t0,\t0,\t01,", "        -1,\t2,"] ∧
      transform (.cavlc .lut) again = .ok text ∧
      ∃ entries, collect (.cavlc .lut) raw = .ok entries ∧
        collect (.cavlc .lut) again = .ok (entries.map Entry.filled) := by
  intro raw text again
  have hentries : collect (.cavlc .lut) raw =
      .ok [⟨0, ["1", "0", "-", "01"].map .text⟩, ⟨1, ["-1", "2"].map .text⟩] :=
    collect_eq_ok_of_gathered (by decide +kernel) (by decide +kernel) (.refl _) (by decide)
  have h : transform (.cavlc .lut) raw = .ok text :=
    transform_eq_ok_iff.2 ⟨_, hentries, by decide +kernel⟩
  exact ⟨h, by decide +kernel, transform_again h⟩

end EntropyTables
