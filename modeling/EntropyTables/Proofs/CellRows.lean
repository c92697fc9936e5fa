import EntropyTables.Render
/-!
# Rows of cells read back

`rowsOf` cuts a generated text at its newlines and each line at its commas. It takes back what
`cellRow` writes, as long as the cells hold no commas and no blanks.

Main statement: `rowsOf_join`.
-/
namespace EntropyTables.Render

/-- The cells of a line: what its commas end, without the blanks before it. -/
def lineCells (line : List Char) : List String :=
  (line.splitOn ',').dropLast.map fun piece => String.ofList (Text.trimStart piece)

/-- The rows of a text: what its newlines end. -/
def rowsOf (text : String) : List (List String) :=
  (text.toList.splitOn '\n').dropLast.map lineCells

/-- The text can stand in a cell: it has no commas and no blanks. -/
def IsCell (text : String) : Prop := ∀ c ∈ text.toList, c ≠ ',' ∧ Text.isBlank c = false

instance : DecidablePred IsCell := fun text =>
  decidable_of_iff (text.toList.all fun c => c != ',' && !Text.isBlank c) (by simp [IsCell])

theorem isBlank_of_isDigit {c : Char} (h : c.isDigit = true) : Text.isBlank c = false := by
  have hd := Text.toNat_of_isDigit h
  simp only [Text.isBlank, Text.inRanges, Text.blankRanges, List.any_cons, List.any_nil,
    Bool.or_eq_false_iff, Bool.and_eq_false_iff, decide_eq_false_iff_not, and_true]
  omega

theorem isCell_of_isNumeral {text : String} (h : Text.IsNumeral text.toList) : IsCell text := by
  intro c hc
  rcases h c hc with rfl | rfl | hd
  · decide
  · decide
  · refine ⟨?_, isBlank_of_isDigit hd⟩
    rintro rfl
    exact absurd hd (by decide)

theorem isCell_decimal (n : Int) : IsCell (Text.decimal n) :=
  isCell_of_isNumeral (by rw [Text.decimal, String.toList_ofList]; exact Text.isNumeral_ofInt n)

theorem IsCell.append {a b : String} (ha : IsCell a) (hb : IsCell b) : IsCell (a ++ b) := by
  intro c hc
  rw [String.toList_append] at hc
  exact (List.mem_append.1 hc).elim (ha c) (hb c)

def rowLine (indent : List Char) (cell : String) (cells : List String) : List Char :=
  indent ++ cell.toList ++ cells.flatMap (fun cell => ',' :: '\t' :: cell.toList) ++ [',']

theorem toList_cellRow (cell : String) (cells : List String) :
    (cellRow (cell :: cells)).toList = rowLine bodyIndent.toList cell cells ++ ['\n'] := by
  have key : ∀ (cell : String) (cells : List String),
      (",\t".intercalate (cell :: cells)).toList =
        cell.toList ++ cells.flatMap fun cell => ',' :: '\t' :: cell.toList := by
    intro cell cells
    induction cells generalizing cell with
    | nil => simp
    | cons next cells ih =>
      rw [String.intercalate_cons_cons, String.toList_append, ih]
      simp
  unfold cellRow rowLine
  rw [String.toList_append, String.toList_append, key]
  simp

/-! ## One line -/

theorem trimStart_append : ∀ {indent : List Char} {cell : String},
    (∀ c ∈ indent, Text.isBlank c = true) → IsCell cell →
      Text.trimStart (indent ++ cell.toList) = cell.toList
  | [], cell, _, hc => by
    unfold Text.trimStart
    cases hl : cell.toList with
    | nil => rfl
    | cons c cs =>
      have := (hc c (by simp [hl])).2
      rw [List.nil_append, List.dropWhile_cons_of_neg (by simp [this])]
  | c :: indent, cell, hi, hc => by
    have h := trimStart_append (fun x hx => hi x (List.mem_cons_of_mem _ hx)) hc
    unfold Text.trimStart at h ⊢
    rw [List.cons_append, List.dropWhile_cons_of_pos (hi c List.mem_cons_self), h]

theorem splitOn_piece {indent : List Char} {cell : String} (hi : ',' ∉ indent) (hc : IsCell cell)
    (rest : List Char) :
    (indent ++ cell.toList ++ ',' :: rest).splitOn ',' =
      (indent ++ cell.toList) :: rest.splitOn ',' := by
  refine List.splitOn_append_cons_self_of_not_mem ?_ rest
  rw [List.mem_append, not_or]
  exact ⟨hi, fun h => (hc _ h).1 rfl⟩

/-- **A line gives back its cells**, whatever blanks it starts with. -/
theorem lineCells_rowLine : ∀ (indent : List Char) (cell : String) (cells : List String),
    (∀ c ∈ indent, Text.isBlank c = true) → IsCell cell → (∀ cell ∈ cells, IsCell cell) →
      lineCells (rowLine indent cell cells) = cell :: cells
  | indent, cell, [], hi, hc, _ => by
    have hcomma : ',' ∉ indent := fun h => absurd (hi _ h) (by decide)
    have hs : (rowLine indent cell []).splitOn ',' = [indent ++ cell.toList, []] := by
      simpa [rowLine] using splitOn_piece hcomma hc []
    unfold lineCells
    rw [hs]
    show [String.ofList (Text.trimStart (indent ++ cell.toList))] = [cell]
    rw [trimStart_append hi hc, String.ofList_toList]
  | indent, cell, next :: cells, hi, hc, hcs => by
    have hcomma : ',' ∉ indent := fun h => absurd (hi _ h) (by decide)
    obtain ⟨hn, hcs⟩ := List.forall_mem_cons.1 hcs
    have hs : (rowLine indent cell (next :: cells)).splitOn ',' =
        (indent ++ cell.toList) :: (rowLine ['\t'] next cells).splitOn ',' := by
      rw [← splitOn_piece hcomma hc]
      simp [rowLine]
    have ih := lineCells_rowLine ['\t'] next cells (List.all_eq_true.1 (by decide)) hn hcs
    unfold lineCells at ih ⊢
    rw [hs, List.dropLast_cons_of_ne_nil (List.splitOn_ne_nil _ _), List.map_cons, ih,
      trimStart_append hi hc, String.ofList_toList]

/-! ## All lines -/

/-- The characters of a row are those of its cells, and the blanks and commas around them. -/
theorem forall_mem_rowLine {p : Char → Prop} {indent : List Char} {cell : String}
    {cells : List String} (hindent : ∀ c ∈ indent, p c) (hcomma : p ',') (htab : p '\t')
    (hcell : ∀ c ∈ cell.toList, p c) (hcells : ∀ cell ∈ cells, ∀ c ∈ cell.toList, p c) :
    ∀ c ∈ rowLine indent cell cells, p c := by
  unfold rowLine
  simp only [List.forall_mem_append, List.forall_mem_cons, List.forall_mem_flatMap]
  exact ⟨⟨⟨hindent, hcell⟩, fun cell hc => ⟨hcomma, htab, hcells cell hc⟩⟩, hcomma, nofun⟩

theorem newline_not_mem_rowLine {indent : List Char} {cell : String} {cells : List String}
    (hi : '\n' ∉ indent) (hc : IsCell cell) (hcs : ∀ cell ∈ cells, IsCell cell) :
    '\n' ∉ rowLine indent cell cells := by
  have hcell : ∀ {cell : String}, IsCell cell → ∀ c ∈ cell.toList, c ≠ '\n' := by
    rintro cell hcell c h rfl
    exact absurd (hcell _ h).2 (by decide)
  have hindent : ∀ c ∈ indent, c ≠ '\n' := by
    rintro c h rfl
    exact hi h
  have hall := forall_mem_rowLine hindent (by decide) (by decide) (hcell hc)
    fun cell h => hcell (hcs cell h)
  exact fun h => hall _ h rfl

/-- A row is read back before whatever follows it. -/
theorem rowsOf_cellRow_append {cells : List String} (hne : cells ≠ [])
    (hcs : ∀ cell ∈ cells, IsCell cell) (text : String) :
    rowsOf (cellRow cells ++ text) = cells :: rowsOf text := by
  obtain ⟨cell, cells, rfl⟩ := List.exists_cons_of_ne_nil hne
  obtain ⟨hc, hcs⟩ := List.forall_mem_cons.1 hcs
  have hn := newline_not_mem_rowLine (show '\n' ∉ bodyIndent.toList by decide) hc hcs
  unfold rowsOf
  rw [String.toList_append, toList_cellRow, List.append_assoc, List.singleton_append,
    List.splitOn_append_cons_self_of_not_mem hn,
    List.dropLast_cons_of_ne_nil (List.splitOn_ne_nil _ _), List.map_cons,
    lineCells_rowLine _ cell cells (List.all_eq_true.1 (by decide)) hc hcs]

/-- **What is written as rows is read back as the rows.** -/
theorem rowsOf_join : ∀ {rows : List (List String)},
    (∀ row ∈ rows, row ≠ [] ∧ ∀ cell ∈ row, IsCell cell) →
      rowsOf (String.join (rows.map cellRow)) = rows
  | [], _ => by decide
  | row :: rows, h => by
    obtain ⟨⟨hne, hcs⟩, h⟩ := List.forall_mem_cons.1 h
    rw [List.map_cons, String.join_cons, rowsOf_cellRow_append hne hcs, rowsOf_join h]

example : rowsOf "        3,\t1,\t0b01,\n        0,\t0,\t0b0,\n" =
    [["3", "1", "0b01"], ["0", "0", "0b0"]] := by decide

end EntropyTables.Render
