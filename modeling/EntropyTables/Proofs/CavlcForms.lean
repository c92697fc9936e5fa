import EntropyTables.Proofs.CavlcRows
import EntropyTables.Proofs.CellRows
/-!
# The two forms of the CAVLC table

Main statement: `cavlc_forms`. Codewords and widths stand in step, cell by cell, and describe the
same table. Neither form alone gives the table back: a cell without a codeword is written as the
codeword `0` is, and only its width tells them apart (`CellForms.unique`).
-/
namespace EntropyTables

/-! ## Lists in step -/

/-- Three lists of one length, related at every position. -/
structure Aligned {α β γ : Type} (R : Nat → α → β → γ → Prop) (as : List α) (bs : List β)
    (cs : List γ) : Prop where
  left : bs.length = as.length
  right : cs.length = as.length
  related : ∀ i a, as[i]? = some a → ∃ b c, bs[i]? = some b ∧ cs[i]? = some c ∧ R i a b c

namespace Aligned

variable {α β γ : Type} {R : Nat → α → β → γ → Prop} {as as' : List α} {bs : List β} {cs : List γ}

theorem of_map {f : α → β} {g : α → γ} (h : ∀ i, ∀ a ∈ as, R i a (f a) (g a)) :
    Aligned R as (as.map f) (as.map g) where
  left := List.length_map f
  right := List.length_map g
  related i a ha := by
    refine ⟨f a, g a, ?_, ?_, h i a (List.mem_of_getElem? ha)⟩
    · rw [List.getElem?_map, ha]; rfl
    · rw [List.getElem?_map, ha]; rfl

theorem cons {a : α} {b : β} {c : γ} (h : R 0 a b c) (ht : Aligned (fun i => R (i + 1)) as bs cs) :
    Aligned R (a :: as) (b :: bs) (c :: cs) where
  left := congrArg Nat.succ ht.left
  right := congrArg Nat.succ ht.right
  related
    | 0, _, ha => ⟨b, c, rfl, rfl, Option.some.inj ha ▸ h⟩
    | i + 1, a', ha => ht.related i a' ha

/-- What holds of all related triples holds of all members of the second and third list. -/
theorem forall_mem {P : β → Prop} {Q : γ → Prop} (h : Aligned R as bs cs)
    (hP : ∀ i a b c, R i a b c → P b ∧ Q c) : (∀ b ∈ bs, P b) ∧ ∀ c ∈ cs, Q c := by
  have key : ∀ i, i < as.length → ∃ b c, bs[i]? = some b ∧ cs[i]? = some c ∧ P b ∧ Q c := by
    intro i hi
    obtain ⟨b, c, hb, hc, hr⟩ := h.related i as[i] (List.getElem?_eq_getElem hi)
    exact ⟨b, c, hb, hc, hP i _ b c hr⟩
  constructor
  · intro b hb
    obtain ⟨i, hi⟩ := List.mem_iff_getElem?.1 hb
    obtain ⟨b', _, hb', -, hp, -⟩ := key i (h.left ▸ (List.getElem?_eq_some_iff.1 hi).1)
    cases hi.symm.trans hb'
    exact hp
  · intro c hc
    obtain ⟨i, hi⟩ := List.mem_iff_getElem?.1 hc
    obtain ⟨_, c', -, hc', -, hq⟩ := key i (h.right ▸ (List.getElem?_eq_some_iff.1 hi).1)
    cases hi.symm.trans hc'
    exact hq

/-- If the second and third of a triple decide the first, the second and third list do. -/
theorem unique (hR : ∀ i a a' b c, R i a b c → R i a' b c → a = a') (h : Aligned R as bs cs)
    (h' : Aligned R as' bs cs) : as = as' := by
  refine List.ext_getElem (h.left.symm.trans h'.left) fun i hi hi' => ?_
  obtain ⟨b, c, hb, hc, hr⟩ := h.related i as[i] (List.getElem?_eq_getElem hi)
  obtain ⟨b', c', hb', hc', hr'⟩ := h'.related i as'[i] (List.getElem?_eq_getElem hi')
  cases hb.symm.trans hb'
  cases hc.symm.trans hc'
  exact hR i _ _ b c hr hr'

end Aligned

/-! ## One cell, one row, one table -/

/-- A cell of the source, what stands for it in the table of codewords, and its width. -/
inductive CellForms (column : Nat) : String → String → String → Prop
  /-- The first two columns hold integers, which stand as they are. -/
  | number {cell : String} (early : column < 2)
      (spells : (Text.readInt64? cell.toList).isSome = true) :
      CellForms column cell cell (Text.decimal cell.length)
  /-- A cell without a codeword is zero in both forms. -/
  | absent (late : 2 ≤ column) : CellForms column "-" "0b0" "0"
  /-- A codeword is written as a binary literal of as many digits as its width says. -/
  | codeword {cell : String} (late : 2 ≤ column) (nonempty : 1 ≤ cell.length)
      (binary : ∀ c ∈ cell.toList, c = '0' ∨ c = '1') :
      CellForms column cell ("0b" ++ cell) (Text.decimal cell.length)

/-- A row of the source with its two forms, cell by cell. -/
structure RowForms (cells codewords widths : List String) : Prop where
  columns : 2 ≤ cells.length
  aligned : Aligned CellForms cells codewords widths

/-- The rows of the source with their two forms, row by row. -/
def TableForms (rows codewords widths : List (List String)) : Prop :=
  Aligned (fun _ => RowForms) rows codewords widths

/-- The text is written of the rows and is read back as them. -/
structure Spells (text : String) (rows : List (List String)) : Prop where
  written : text = String.join (rows.map Render.cellRow)
  readBack : Render.rowsOf text = rows

namespace CellForms

/-- **The two forms of a cell decide it.** The codeword alone does not: `-` and `0` share it. -/
theorem unique {column : Nat} {cell cell' codeword width : String}
    (h : CellForms column cell codeword width) (h' : CellForms column cell' codeword width) :
    cell = cell' := by
  have hzero : ∀ n : Nat, 1 ≤ n → Text.decimal n ≠ "0" := by
    intro n hn h0
    have : (n : Int) = 0 := Text.decimal_inj.1 (h0.trans (by decide : "0" = Text.decimal 0))
    omega
  generalize hk : codeword = codeword' at h'
  generalize hw : width = width' at h'
  cases h with
  | number early _ =>
    cases h' with
    | number => exact hk
    | absent late => omega
    | codeword late => omega
  | absent late =>
    cases h' with
    | number early => omega
    | absent => rfl
    | codeword _ nonempty => exact absurd hw.symm (hzero _ nonempty)
  | codeword late nonempty _ =>
    cases h' with
    | number early => omega
    | absent => exact absurd hw (hzero _ nonempty)
    | codeword => exact String.append_right_inj _ |>.1 hk

theorem isCell {column : Nat} {cell codeword width : String}
    (h : CellForms column cell codeword width) : Render.IsCell codeword ∧ Render.IsCell width := by
  cases h with
  | number _ spells =>
    exact ⟨Render.isCell_of_isNumeral (Text.isNumeral_of_readInt64? spells).1,
      Render.isCell_decimal _⟩
  | absent => exact ⟨by decide, by decide⟩
  | codeword _ _ binary =>
    have hmark : Render.IsCell "0b" := by decide
    have hcell : Render.IsCell cell := Render.isCell_of_isNumeral fun c hc => by
      rcases binary c hc with rfl | rfl
      · exact .inr (.inr rfl)
      · exact .inr (.inr rfl)
    exact ⟨hmark.append hcell, Render.isCell_decimal _⟩

theorem of_pattern {column : Nat} {cell : String} (late : 2 ≤ column)
    (h : Grammar.isPattern cell = true) :
    CellForms column cell (Render.bitLiteral cell) (Text.decimal (Render.width cell)) := by
  unfold Render.bitLiteral Render.width
  by_cases hc : cell = Grammar.noCodeword
  · subst hc
    exact .absent late
  · rw [if_neg hc, if_neg hc]
    simp only [Grammar.isPattern, beq_iff_eq, hc, Bool.or_eq_true, false_or, Bool.and_eq_true,
      Bool.not_eq_true', List.all_eq_true] at h
    have hne : cell ≠ "" := fun he => by simp [he] at h
    exact .codeword late (Nat.pos_of_ne_zero fun h0 => hne (String.length_eq_zero_iff.1 h0)) h.2

theorem of_number {column : Nat} {cell : String} (early : column < 2)
    (h : (Text.readInt64? cell.toList).isSome = true) :
    CellForms column cell cell (Text.decimal (Render.width cell)) := by
  have hne : cell ≠ Grammar.noCodeword := by
    rintro rfl
    exact (Text.isNumeral_of_readInt64? h).2 rfl
  rw [Render.width, if_neg hne]
  exact .number early h

end CellForms

/-! ## Rows -/

/-- The cells of a row in the table of codewords. -/
def codewordCells (cells : List String) : List String :=
  cells.take 2 ++ (cells.drop 2).map Render.bitLiteral

def widthCells (cells : List String) : List String :=
  cells.map fun cell => Text.decimal (Render.width cell)

/-- **A row that the grammar accepts has its two forms**, cell by cell. -/
theorem rowForms_of_isCavlcRow : ∀ {cells : List String}, Grammar.IsCavlcRow cells →
    RowForms cells (codewordCells cells) (widthCells cells)
  | first :: second :: patterns, ⟨h₁, h₂, hp⟩ => by
    refine ⟨by simp, .cons (.of_number (by omega) h₁) (.cons (.of_number (by omega) h₂) ?_)⟩
    show Aligned (fun i => CellForms (i + 1 + 1)) patterns (patterns.map Render.bitLiteral) _
    exact .of_map fun i cell hc => .of_pattern (by omega) (hp cell hc)

theorem RowForms.unique {cells cells' codewords widths : List String}
    (h : RowForms cells codewords widths) (h' : RowForms cells' codewords widths) :
    cells = cells' := by
  refine h.aligned.unique ?_ h'.aligned
  rintro _ _ _ _ _ hc hc'
  exact hc.unique hc'

/-- Both forms of a row can be read back. -/
theorem RowForms.readable {cells codewords widths : List String}
    (h : RowForms cells codewords widths) :
    (codewords ≠ [] ∧ ∀ cell ∈ codewords, Render.IsCell cell) ∧
      (widths ≠ [] ∧ ∀ cell ∈ widths, Render.IsCell cell) := by
  obtain ⟨hc, hw⟩ := h.aligned.forall_mem fun _ _ _ _ => CellForms.isCell
  have hcols := h.columns
  refine ⟨⟨?_, hc⟩, ?_, hw⟩
  · rw [← List.length_pos_iff_ne_nil, h.aligned.left]
    omega
  · rw [← List.length_pos_iff_ne_nil, h.aligned.right]
    omega

/-! ## Tables -/

theorem TableForms.spells {rows codewords widths : List (List String)}
    (h : TableForms rows codewords widths) :
    Spells (String.join (codewords.map Render.cellRow)) codewords ∧
      Spells (String.join (widths.map Render.cellRow)) widths := by
  obtain ⟨hc, hw⟩ := Aligned.forall_mem h fun _ _ _ _ => RowForms.readable
  exact ⟨⟨rfl, Render.rowsOf_join hc⟩, rfl, Render.rowsOf_join hw⟩

/-- A renderer that writes a row for the cells of each entry writes the rows of the table. -/
theorem blocks_numberRows {block : Entry → String} {form : List String → List String}
    (hb : ∀ row cells, block ⟨row, cells.map .text⟩ = Render.cellRow (form cells)) :
    ∀ (rows : List (List String)) (start : Int),
      Render.blocks block (numberRows start rows) =
        String.join ((rows.map form).map Render.cellRow)
  | [], _ => rfl
  | cells :: rows, start => by
    have ih := blocks_numberRows hb rows (start + 1)
    unfold Render.blocks at ih ⊢
    rw [numberRows, List.map_cons, String.join_cons, hb, ih]
    simp

theorem bitLiteralRow_eq (row : Int) (cells : List String) :
    Render.bitLiteralRow ⟨row, cells.map .text⟩ = Render.cellRow (codewordCells cells) := by
  have ht : (cells.map Field.text).map Field.toText = cells := by
    rw [List.map_map]
    exact List.map_id cells
  unfold Render.bitLiteralRow
  rw [ht]
  rfl

theorem widthRow_eq (row : Int) (cells : List String) :
    Render.widthRow ⟨row, cells.map .text⟩ = Render.cellRow (widthCells cells) := by
  unfold Render.widthRow
  rw [List.map_map]
  rfl

/-- The texts of the two forms, and the table that they describe. -/
theorem tableForms_of_accepted {rows : List (List String)}
    (h : ∀ cells ∈ rows, Grammar.IsCavlcRow cells) :
    TableForms rows (rows.map codewordCells) (rows.map widthCells) :=
  .of_map fun _ cells hc => rowForms_of_isCavlcRow (h cells hc)

theorem TableForms.unique {rows rows' codewords widths : List (List String)}
    (h : TableForms rows codewords widths) (h' : TableForms rows' codewords widths) : rows = rows' := by
  refine Aligned.unique ?_ h h'
  rintro _ _ _ _ _ hr hr'
  exact hr.unique hr'

/-- A file whose table can be generated is the table of its two texts. -/
theorem transform_cavlc {raw : List String} {es : List Entry}
    (h : collect (.cavlc .lut) raw = .ok es) :
    ∃ lut sizes codewords widths, transform (.cavlc .lut) raw = .ok lut ∧
      transform (.cavlc .sizes) raw = .ok sizes ∧ Spells lut codewords ∧ Spells sizes widths ∧
      TableForms ((Line.ofRaw raw).map Line.cells) codewords widths := by
  obtain ⟨hacc, rfl⟩ := collect_cavlc_iff.1 h
  have h' := (collect_cavlc_mode .sizes .lut raw).trans h
  have ht := tableForms_of_accepted (List.forall_mem_map.2 hacc)
  obtain ⟨hl, hs⟩ := ht.spells
  refine ⟨_, _, _, _, ?_, ?_, hl, hs, ht⟩
  · rw [transform, h, map_ok, ← blocks_numberRows bitLiteralRow_eq _ 0]
    rfl
  · rw [transform, h', map_ok, ← blocks_numberRows widthRow_eq _ 0]
    rfl

/-- **The two forms of the CAVLC table describe the same table.** For every file, either neither can
be generated, for the same reason, or both can: then they have a row for each line of the source
that is not blank and a cell for each of its cells, and each cell has its two forms. Files that
agree in both forms have the same collected table. -/
theorem cavlc_forms :
    (∀ raw,
      (∃ e, transform (.cavlc .lut) raw = .error e ∧ transform (.cavlc .sizes) raw = .error e) ∨
      ∃ lut sizes codewords widths, transform (.cavlc .lut) raw = .ok lut ∧
        transform (.cavlc .sizes) raw = .ok sizes ∧ Spells lut codewords ∧ Spells sizes widths ∧
        TableForms ((Line.ofRaw raw).map Line.cells) codewords widths) ∧
    ∀ raw raw' lut sizes,
      transform (.cavlc .lut) raw = .ok lut → transform (.cavlc .sizes) raw = .ok sizes →
      transform (.cavlc .lut) raw' = .ok lut → transform (.cavlc .sizes) raw' = .ok sizes →
      ∀ mode, ∃ es, collect (.cavlc mode) raw = .ok es ∧ collect (.cavlc mode) raw' = .ok es := by
  constructor
  · intro raw
    cases h : collect (.cavlc .lut) raw with
    | error e =>
      have h' := (collect_cavlc_mode .sizes .lut raw).trans h
      exact .inl ⟨e, by rw [transform, h]; rfl, by rw [transform, h']; rfl⟩
    | ok es => exact .inr (transform_cavlc h)
  · intro raw raw' lut sizes hl hs hl' hs' mode
    obtain ⟨es, he, -⟩ := map_eq_ok_iff.1 hl
    obtain ⟨es', he', -⟩ := map_eq_ok_iff.1 hl'
    obtain ⟨_, _, codewords, widths, h₁, h₂, hc, hw, ht⟩ := transform_cavlc he
    obtain ⟨_, _, codewords', widths', h₁', h₂', hc', hw', ht'⟩ := transform_cavlc he'
    cases hl.symm.trans h₁
    cases hs.symm.trans h₂
    cases hl'.symm.trans h₁'
    cases hs'.symm.trans h₂'
    cases hc.readBack.symm.trans hc'.readBack
    cases hw.readBack.symm.trans hw'.readBack
    refine ⟨es, (collect_cavlc_mode mode .lut raw).trans he, ?_⟩
    rw [collect_cavlc_mode mode .lut raw', he', (collect_cavlc_iff.1 he).2,
      (collect_cavlc_iff.1 he').2, ht.unique ht']

end EntropyTables
