import EntropyTables.Layout
import EntropyTables.Proofs.Failing
/-!
# What the line grammars accept

A grammar that accepts a line reads each token in its place (`readPair_eq_ok_iff`,
`cabacInit_eq_ok_iff`, `cavlc_eq_ok_iff`), so its entries are as wide as the table says
(`parse_fits`). The number and the text of a line show in nothing but the error of the line
(`parse_retell`, `parse_relocate`), and the number of a CAVLC row in nothing but its index
(`parse_eq`).
-/
namespace EntropyTables

/-! ## The number and the text of a line -/

/-- The error with its line numbers put through `f`. -/
def TableError.relocate (f : Nat → Nat) : TableError → TableError
  | .malformedLine n line reason => .malformedLine (f n) line reason
  | .duplicateIndex index line first => .duplicateIndex index (f line) (f first)
  | .indexOutOfRange index line domain => .indexOutOfRange index (f line) domain
  | e => e

def Line.relocate (f : Nat → Nat) (line : Line) : Line := ⟨f line.number, line.text⟩

@[simp] theorem Line.tokens_relocate (f : Nat → Nat) (line : Line) :
    (line.relocate f).tokens = line.tokens := rfl

/-- The error of a malformed line, told of another line. -/
def TableError.retell (line : Line) : TableError → TableError
  | .malformedLine _ _ reason => .malformedLine line.number line.text reason
  | e => e

namespace Grammar

variable {line line' : Line}

theorem readIndex_retell (token : String) :
    readIndex line' token = (readIndex line token).mapError (.retell line') := by
  unfold readIndex; cases Text.readInt64? token.toList <;> rfl

theorem readValue_retell (token : String) :
    readValue line' token = (readValue line token).mapError (.retell line') := by
  unfold readValue; cases Text.readInt64? token.toList <;> rfl

theorem keepToken_retell (token : String) :
    keepToken line' token = (keepToken line token).mapError (.retell line') := rfl

theorem checkPattern_retell (cell : String) :
    checkPattern line' cell = (checkPattern line cell).mapError (.retell line') := by
  unfold checkPattern; split <;> rfl

section
variable {readField : Line → String → Except TableError Field}
  (hf : ∀ token, readField line' token = (readField line token).mapError (.retell line'))
include hf

theorem readEntry_retell (tokens : List String) :
    readEntry readField line' tokens =
      (readEntry readField line tokens).mapError (.retell line') := by
  unfold readEntry
  rw [mapError_bind, @readIndex_retell line line']
  congr 1; funext index
  rw [mapError_bind, mapError_mapM, ← funext hf]
  rfl

theorem readPair_retell (ht : line'.tokens = line.tokens) (width : Nat) :
    readPair width readField line' =
      (readPair width readField line).mapError (.retell line') := by
  unfold readPair
  rw [ht]
  by_cases h : line.tokens.length = 2 * (1 + width)
  · simp only [h, ↓reduceIte]
    rw [mapError_bind, readEntry_retell hf]
    congr 1; funext first
    rw [mapError_bind, readEntry_retell hf]
    rfl
  · simp only [h, ↓reduceIte]
    rfl

end

theorem cabacInit_retell (ht : line'.tokens = line.tokens) :
    cabacInit line' = (cabacInit line).mapError (.retell line') := by
  unfold cabacInit
  rw [ht]
  by_cases h : 1 + cabacWidth ≤ line.tokens.length ∧ line.tokens.length ≤ 2 * (1 + cabacWidth)
  · simp only [h, and_self, ↓reduceIte]
    rw [mapError_bind, readEntry_retell readValue_retell]
    congr 1; funext first
    by_cases h' : line.tokens.length = 1 + cabacWidth
    · simp only [h', ↓reduceIte]
      rfl
    · simp only [h', ↓reduceIte]
      rw [mapError_bind, readEntry_retell readValue_retell]
      rfl
  · simp only [h, ↓reduceIte]
    rfl

theorem cavlc_retell (ht : line'.tokens = line.tokens) (row : Int) :
    cavlc row line' = (cavlc row line).mapError (.retell line') := by
  unfold cavlc
  simp only [ht]
  split
  · rw [mapError_bind, @readValue_retell line line']
    congr 1; funext _
    rw [mapError_bind, @readValue_retell line line']
    congr 1; funext _
    rw [mapError_bind, mapError_forM, ← funext checkPattern_retell]
    rfl
  · rfl

end Grammar

/-! ## Refused lines -/

/-- If the reading fails, it says that the line is malformed. -/
def BlamesLine {α : Type} (line : Line) (x : Except TableError α) : Prop :=
  ∀ e, x = .error e → ∃ reason, e = .malformedLine line.number line.text reason

namespace BlamesLine

variable {α β : Type} {line : Line}

theorem ok (a : α) : BlamesLine line (.ok a) := nofun

theorem malformed (reason : String) :
    BlamesLine line (.error (Grammar.malformed line reason) : Except TableError α) := by
  rintro e ⟨⟩; exact ⟨reason, rfl⟩

theorem bind {x : Except TableError α} {f : α → Except TableError β} (hx : BlamesLine line x)
    (hf : ∀ a, BlamesLine line (f a)) : BlamesLine line (x >>= f) := by
  cases x with
  | error e => rintro _ ⟨⟩; exact hx e rfl
  | ok a => exact hf a

theorem map {x : Except TableError α} (hx : BlamesLine line x) (f : α → β) :
    BlamesLine line (x.map f) :=
  fun e h => hx e (map_eq_error_iff.1 h)

theorem mapM {f : α → Except TableError β} (hf : ∀ a, BlamesLine line (f a)) :
    ∀ xs : List α, BlamesLine line (xs.mapM f)
  | [] => ok []
  | x :: xs => by
    rw [List.mapM_cons]
    exact (hf x).bind fun y => (mapM hf xs).bind fun ys => ok (y :: ys)

theorem forM {f : α → Except TableError Unit} (hf : ∀ a, BlamesLine line (f a)) :
    ∀ xs : List α, BlamesLine line (xs.forM f)
  | [] => ok ()
  | x :: xs => (hf x).bind fun _ => forM hf xs

/-- The error of a line, told of the line at another place, is the error with another number. -/
theorem retell_eq {x : Except TableError α} (h : BlamesLine line x) (f : Nat → Nat) :
    x.mapError (TableError.retell (line.relocate f)) = x.mapError (TableError.relocate f) := by
  cases x with
  | ok a => rfl
  | error e => obtain ⟨reason, rfl⟩ := h e rfl; rfl

end BlamesLine

namespace Grammar

variable {line : Line}

theorem readIndex_blames (token : String) : BlamesLine line (readIndex line token) := by
  unfold readIndex; split
  · exact .ok _
  · exact .malformed _

theorem readValue_blames (token : String) : BlamesLine line (readValue line token) := by
  unfold readValue; split
  · exact .ok _
  · exact .malformed _

theorem checkPattern_blames (cell : String) : BlamesLine line (checkPattern line cell) := by
  unfold checkPattern; split
  · exact .ok _
  · exact .malformed _

theorem readEntry_blames {readField : Line → String → Except TableError Field}
    (hf : ∀ token, BlamesLine line (readField line token)) (tokens : List String) :
    BlamesLine line (readEntry readField line tokens) :=
  (readIndex_blames _).bind fun _ => (BlamesLine.mapM hf _).bind fun _ => .ok _

theorem readPair_blames {readField : Line → String → Except TableError Field}
    (hf : ∀ token, BlamesLine line (readField line token)) (width : Nat) :
    BlamesLine line (readPair width readField line) := by
  unfold readPair
  dsimp only
  split
  · exact (readEntry_blames hf _).bind fun _ => (readEntry_blames hf _).bind fun _ => .ok _
  · exact .malformed _

theorem cabacInit_blames : BlamesLine line (cabacInit line) := by
  unfold cabacInit
  dsimp only
  split
  · refine (readEntry_blames readValue_blames _).bind fun _ => ?_
    split
    · exact .ok _
    · exact (readEntry_blames readValue_blames _).bind fun _ => .ok _
  · exact .malformed _

theorem cavlc_blames (row : Int) : BlamesLine line (cavlc row line) := by
  unfold cavlc
  dsimp only
  split
  · exact (readValue_blames _).bind fun _ => (readValue_blames _).bind fun _ =>
      (BlamesLine.forM checkPattern_blames _).bind fun _ => .ok _
  · exact .malformed _

theorem cavlc_relocate (f : Nat → Nat) (row : Int) :
    cavlc row (line.relocate f) = (cavlc row line).mapError (.relocate f) := by
  rw [cavlc_retell (line.tokens_relocate f), BlamesLine.retell_eq (cavlc_blames row)]

end Grammar

/-! ## Accepted lines -/

/-- The cells of a CAVLC line: its tokens without the commas at their ends. -/
def Line.cells (line : Line) : List String := line.tokens.map Grammar.stripCommas

namespace Grammar

variable {readField : Line → String → Except TableError Field} {line : Line}

theorem readEntry_eq_ok_iff {tokens : List String} {entry : Entry} :
    readEntry readField line tokens = .ok entry ↔
      readIndex line (tokens.headD "") = .ok entry.index ∧
        tokens.tail.mapM (readField line) = .ok entry.fields := by
  unfold readEntry
  rw [bind_eq_ok_iff]
  constructor
  · rintro ⟨index, hi, h⟩
    obtain ⟨fields, hf, h⟩ := bind_eq_ok_iff.1 h
    cases h
    exact ⟨hi, hf⟩
  · rintro ⟨hi, hf⟩
    exact ⟨_, hi, bind_eq_ok_iff.2 ⟨_, hf, rfl⟩⟩

theorem length_fields_of_readEntry {tokens : List String} {entry : Entry}
    (h : readEntry readField line tokens = .ok entry) : entry.fields.length = tokens.length - 1 := by
  rw [length_of_mapM_ok (readEntry_eq_ok_iff.1 h).2, List.length_tail]

theorem readPair_eq_ok_iff {width : Nat} {entries : List Entry} :
    readPair width readField line = .ok entries ↔
      line.tokens.length = 2 * (1 + width) ∧ ∃ first second,
        readEntry readField line (line.tokens.take (1 + width)) = .ok first ∧
          readEntry readField line (line.tokens.drop (1 + width)) = .ok second ∧
            entries = [first, second] := by
  unfold readPair
  by_cases hn : line.tokens.length = 2 * (1 + width)
  · simp only [hn, ↓reduceIte, true_and]
    rw [bind_eq_ok_iff]
    constructor
    · rintro ⟨first, h₁, h⟩
      obtain ⟨second, h₂, h⟩ := bind_eq_ok_iff.1 h
      cases h
      exact ⟨first, second, h₁, h₂, rfl⟩
    · rintro ⟨first, second, h₁, h₂, rfl⟩
      exact ⟨first, h₁, bind_eq_ok_iff.2 ⟨second, h₂, rfl⟩⟩
  · simp [hn]

theorem cabacInit_eq_ok_iff {entries : List Entry} :
    cabacInit line = .ok entries ↔
      9 ≤ line.tokens.length ∧ line.tokens.length ≤ 18 ∧ ∃ first,
        readEntry readValue line (line.tokens.take 9) = .ok first ∧
          ((line.tokens.length = 9 ∧ entries = [first]) ∨
            (line.tokens.length ≠ 9 ∧ ∃ second,
              readEntry readValue line (line.tokens.drop 9) = .ok second ∧
                entries = [first, fillWithZeros second])) := by
  unfold cabacInit
  show (if 9 ≤ line.tokens.length ∧ line.tokens.length ≤ 18 then _ else _) = _ ↔ _
  by_cases hn : 9 ≤ line.tokens.length ∧ line.tokens.length ≤ 18
  · rw [if_pos hn, bind_eq_ok_iff, ← and_assoc]
    refine Iff.trans (exists_congr fun first => and_congr_right fun _ => ?_)
      (and_iff_right hn).symm
    show (if line.tokens.length = 9 then _ else _) = _ ↔ _
    by_cases h9 : line.tokens.length = 9
    · simp [h9, eq_comm]
    · rw [if_neg h9, bind_eq_ok_iff]
      simp [h9, eq_comm, show 1 + cabacWidth = 9 from rfl]
  · rw [if_neg hn]
    simp only [throw_eq_error, reduceCtorEq, false_iff]
    exact fun h => hn ⟨h.1, h.2.1⟩

theorem length_fillWithZeros {entry : Entry} (h : entry.fields.length ≤ cabacWidth) :
    (fillWithZeros entry).fields.length = cabacWidth := by
  simp [fillWithZeros]; omega

/-- The cells make a CAVLC row: two integers, then patterns. -/
def IsCavlcRow : List String → Prop
  | first :: second :: patterns =>
    (Text.readInt64? first.toList).isSome ∧ (Text.readInt64? second.toList).isSome ∧
      ∀ cell ∈ patterns, isPattern cell = true
  | _ => False

theorem readValue_eq_ok_iff {token : String} {field : Field} :
    readValue line token = .ok field ↔
      ∃ value, Text.readInt64? token.toList = some value ∧ field = .int value := by
  unfold readValue
  cases Text.readInt64? token.toList <;> simp [eq_comm]

theorem checkPattern_eq_ok_iff {cell : String} :
    checkPattern line cell = .ok () ↔ isPattern cell = true := by
  unfold checkPattern; split <;> simp_all

theorem cavlc_eq_ok_iff {row : Int} {entry : Entry} :
    cavlc row line = .ok entry ↔ IsCavlcRow line.cells ∧ entry = ⟨row, line.cells.map .text⟩ := by
  unfold cavlc
  show (match line.cells with | _ :: _ :: _ => _ | _ => _) = _ ↔ _
  match hc : line.cells with
  | [] | [_] => simp [IsCavlcRow]
  | first :: second :: patterns =>
    simp only [IsCavlcRow, bind_eq_ok_iff, readValue_eq_ok_iff, Option.isSome_iff_exists]
    constructor
    · rintro ⟨_, ⟨a, ha, -⟩, _, ⟨b, hb, -⟩, _, hp, h⟩
      cases h
      exact ⟨⟨⟨a, ha⟩, ⟨b, hb⟩, fun cell hcell =>
        checkPattern_eq_ok_iff.1 (forM_eq_ok_iff.1 hp cell hcell)⟩, by rw [← hc]; rfl⟩
    · rintro ⟨⟨⟨a, ha⟩, ⟨b, hb⟩, hp⟩, rfl⟩
      exact ⟨_, ⟨a, ha, rfl⟩, _, ⟨b, hb, rfl⟩, (), forM_eq_ok_iff.2 fun cell hcell =>
        checkPattern_eq_ok_iff.2 (hp cell hcell), by rw [← hc]; rfl⟩

/-- The number of a CAVLC row shows only as the index of its entry. -/
theorem cavlc_eq_map (row row' : Int) :
    cavlc row line = (cavlc row' line).map fun entry => { entry with index := row } := by
  unfold cavlc
  dsimp only
  split
  · next first second patterns _ =>
    cases readValue line first with
    | error e => rfl
    | ok _ =>
      cases readValue line second with
      | error e => rfl
      | ok _ => cases patterns.forM (checkPattern line) <;> simp
  · rfl

end Grammar

/-! ## A layout before and after a line -/

/-- **Only its tokens decide what a line reads as**; its number and text show in its error. -/
theorem parse_retell (layout : Layout) {line line' : Line} (ht : line'.tokens = line.tokens) :
    layout.parse line' = (layout.parse line).mapError (.retell line') := by
  rw [Layout.parse_grammar, Layout.parse_grammar]
  split
  · rw [mapError_map, Grammar.ctxIdxInc, Grammar.readPair_retell Grammar.keepToken_retell ht]; rfl
  · rw [mapError_map, Grammar.cabacInit_retell ht]
  · rw [mapError_map, Grammar.rangeTabLps, Grammar.readPair_retell Grammar.readValue_retell ht]; rfl
  · rw [mapError_map, Grammar.cavlc_retell ht]

/-- **A refused line is malformed**, with its own number and text in the error. -/
theorem parse_blames (layout : Layout) (line : Line) : BlamesLine line (layout.parse line) := by
  rw [Layout.parse_grammar]
  split
  · exact (Grammar.readPair_blames (fun _ => .ok _) 3).map _
  · exact Grammar.cabacInit_blames.map _
  · exact (Grammar.readPair_blames Grammar.readValue_blames 4).map _
  · exact (Grammar.cavlc_blames _).map _

/-- **A line's number shows only in its error**: reading the same text at another place changes
nothing but the number that the error cites. -/
theorem parse_relocate (layout : Layout) (f : Nat → Nat) (line : Line) :
    layout.parse (line.relocate f) = (layout.parse line).mapError (.relocate f) := by
  rw [parse_retell layout (line.tokens_relocate f), BlamesLine.retell_eq (parse_blames layout line)]

namespace Layout

/-- The layout after an accepted line. -/
def next (layout : Layout) : Layout :=
  match layout.selection with
  | .cavlc _ => { layout with nextRow := layout.nextRow + 1 }
  | _ => layout

/-- The entry with the index of the layout's next row, if the table numbers its rows. -/
def place (layout : Layout) (entry : Entry) : Entry :=
  match layout.selection with
  | .cavlc _ => { entry with index := layout.nextRow }
  | _ => entry

@[simp] theorem selection_next (layout : Layout) : layout.next.selection = layout.selection := by
  unfold next; split <;> rfl

theorem place_eq_id {layout : Layout} (h : layout.selection.table ≠ .cavlc) : layout.place = id := by
  obtain ⟨selection, row⟩ := layout
  cases selection with
  | cavlc mode => exact absurd rfl h
  | _ => rfl

theorem next_eq_self {layout : Layout} (h : layout.selection.table ≠ .cavlc) :
    layout.next = layout := by
  obtain ⟨selection, row⟩ := layout
  cases selection with
  | cavlc mode => exact absurd rfl h
  | _ => rfl

/-- **What came before a line decides only where its CAVLC row stands**, not whether the line is
accepted, nor its error. -/
theorem parse_eq (layout : Layout) (line : Line) :
    layout.parse line = ((fresh layout.selection).parse line).map fun r =>
      (r.1.map layout.place, layout.next) := by
  by_cases h : layout.selection.table = .cavlc
  · obtain ⟨selection, row⟩ := layout
    cases selection with
    | cavlc mode =>
      simp only [parse_grammar, fresh]
      rw [Grammar.cavlc_eq_map row 0]
      cases Grammar.cavlc 0 line <;> simp [place, next]
    | _ => cases h
  · rw [place_eq_id h, next_eq_self h]
    obtain ⟨selection, row⟩ := layout
    cases selection with
    | ctxIdxInc => simp only [parse_grammar, fresh]; cases Grammar.ctxIdxInc line <;> simp
    | cabacInit => simp only [parse_grammar, fresh]; cases Grammar.cabacInit line <;> simp
    | rangeTabLps => simp only [parse_grammar, fresh]; cases Grammar.rangeTabLps line <;> simp
    | cavlc mode => exact absurd rfl h

end Layout

/-! ## Widths -/

/-- The entry has as many fields as the entries of the table have; a CAVLC row has at least two. -/
def Table.Fits (table : Table) (entry : Entry) : Prop :=
  match table.fieldsPerEntry with
  | some width => entry.fields.length = width
  | none => 2 ≤ entry.fields.length

namespace Grammar

theorem readPair_width {readField : Line → String → Except TableError Field} {width : Nat}
    {line : Line} {entries : List Entry} (h : readPair width readField line = .ok entries) :
    ∀ entry ∈ entries, entry.fields.length = width := by
  obtain ⟨hn, first, second, h₁, h₂, rfl⟩ := readPair_eq_ok_iff.1 h
  have w₁ := length_fields_of_readEntry h₁
  have w₂ := length_fields_of_readEntry h₂
  rw [List.length_take] at w₁
  rw [List.length_drop] at w₂
  simp only [List.forall_mem_cons, List.not_mem_nil, false_imp_iff, implies_true, and_true]
  omega

theorem cabacInit_width {line : Line} {entries : List Entry} (h : cabacInit line = .ok entries) :
    ∀ entry ∈ entries, entry.fields.length = cabacWidth := by
  obtain ⟨hlo, hhi, first, h₁, h⟩ := cabacInit_eq_ok_iff.1 h
  have w₁ : first.fields.length = cabacWidth := by
    rw [length_fields_of_readEntry h₁, List.length_take, Nat.min_eq_left hlo]; rfl
  rcases h with ⟨-, rfl⟩ | ⟨-, second, h₂, rfl⟩
  · simpa using w₁
  · have w₂ : second.fields.length ≤ cabacWidth := by
      rw [length_fields_of_readEntry h₂, List.length_drop]
      show line.tokens.length - 9 - 1 ≤ 8
      omega
    simpa using ⟨w₁, length_fillWithZeros w₂⟩

theorem cavlc_width {row : Int} {line : Line} {entry : Entry} (h : cavlc row line = .ok entry) :
    2 ≤ entry.fields.length := by
  obtain ⟨hrow, rfl⟩ := cavlc_eq_ok_iff.1 h
  match hc : line.cells with
  | [] | [_] => simp [hc, IsCavlcRow] at hrow
  | _ :: _ :: _ => simp

end Grammar

theorem parse_fits {layout layout' : Layout} {line : Line} {entries : List Entry}
    (h : layout.parse line = .ok (entries, layout')) :
    ∀ entry ∈ entries, layout.selection.table.Fits entry := by
  have hread := Layout.grammar_of_parse h
  obtain ⟨selection, row⟩ := layout
  cases selection with
  | ctxIdxInc => exact Grammar.readPair_width hread
  | cabacInit => exact Grammar.cabacInit_width hread
  | rangeTabLps => exact Grammar.readPair_width hread
  | cavlc mode =>
    obtain ⟨entry, he, rfl⟩ := hread
    exact List.forall_mem_singleton.2 (Grammar.cavlc_width he)

end EntropyTables
