import EntropyTables.Grammar
import EntropyTables.Render
/-!
# The layout of a table

A `Layout` joins the line grammar of a table with the renderer of its generated text. It is the
state of one run: CAVLC rows carry no index, so they are numbered as they are accepted.

Main statement: `step_refused` (a refused line takes no number).
-/
namespace EntropyTables

/-- The grammar and renderer of a selected table (`TableLayout`). For CAVLC it is also the state of a
run. -/
structure Layout where
  selection : Selection
  /-- The index of the next CAVLC row. -/
  nextRow : Int
  deriving DecidableEq, Repr, Inhabited

namespace Layout

/-- `TableSelection::layout`: the layout before the first line. -/
def fresh (selection : Selection) : Layout := ⟨selection, 0⟩

/-- One call of `TableLayout::parse_line`: the layout after it, and the entries of the line. -/
def step (layout : Layout) (line : Line) : Layout × Except TableError (List Entry) :=
  match layout.selection with
  | .ctxIdxInc => (layout, Grammar.ctxIdxInc line)
  | .cabacInit => (layout, Grammar.cabacInit line)
  | .rangeTabLps => (layout, Grammar.rangeTabLps line)
  | .cavlc _ =>
    match Grammar.cavlc layout.nextRow line with
    | .error e => (layout, .error e)
    | .ok entry => ({ layout with nextRow := layout.nextRow + 1 }, .ok [entry])

/-- The entries of a line that is accepted and the layout after it, or the fault of one that is
refused. -/
def parse (layout : Layout) (line : Line) : Except TableError (List Entry × Layout) :=
  match layout.step line with
  | (layout', .ok entries) => .ok (entries, layout')
  | (_, .error e) => .error e

section

variable {layout layout' : Layout} {line : Line} {entries : List Entry} {e : TableError}

/-- **A refused line leaves the layout as it was**, so it takes no row number. -/
theorem step_refused (h : layout.step line = (layout', .error e)) : layout' = layout := by
  unfold step at h
  split at h
  · exact (Prod.mk.inj h).1.symm
  · exact (Prod.mk.inj h).1.symm
  · exact (Prod.mk.inj h).1.symm
  · split at h
    · exact (Prod.mk.inj h).1.symm
    · cases h

theorem step_of_parse_ok (h : layout.parse line = .ok (entries, layout')) :
    layout.step line = (layout', .ok entries) := by
  unfold parse at h
  split at h
  · next hs =>
    cases h
    exact hs
  · cases h

theorem step_of_parse_error (h : layout.parse line = .error e) :
    layout.step line = (layout, .error e) := by
  unfold parse at h
  split at h
  · cases h
  · next hs =>
    obtain rfl := Except.error.inj h
    rw [hs, step_refused hs]

/-- An accepted line is read by the grammar of its table. -/
theorem grammar_of_parse (h : layout.parse line = .ok (entries, layout')) :
    match layout.selection with
    | .ctxIdxInc => Grammar.ctxIdxInc line = .ok entries
    | .cabacInit => Grammar.cabacInit line = .ok entries
    | .rangeTabLps => Grammar.rangeTabLps line = .ok entries
    | .cavlc _ => ∃ entry, Grammar.cavlc layout.nextRow line = .ok entry ∧ entries = [entry] := by
  have hs := step_of_parse_ok h
  obtain ⟨selection, row⟩ := layout
  cases selection with
  | ctxIdxInc => exact (Prod.mk.inj hs).2
  | cabacInit => exact (Prod.mk.inj hs).2
  | rangeTabLps => exact (Prod.mk.inj hs).2
  | cavlc mode =>
    unfold step at hs
    dsimp only at hs
    split at hs
    · cases hs
    · next entry he => exact ⟨entry, he, (Except.ok.inj (Prod.mk.inj hs).2).symm⟩

end

theorem parse_grammar (layout : Layout) (line : Line) :
    layout.parse line =
      match layout.selection with
      | .ctxIdxInc => (Grammar.ctxIdxInc line).map (·, layout)
      | .cabacInit => (Grammar.cabacInit line).map (·, layout)
      | .rangeTabLps => (Grammar.rangeTabLps line).map (·, layout)
      | .cavlc _ =>
        (Grammar.cavlc layout.nextRow line).map fun entry =>
          ([entry], { layout with nextRow := layout.nextRow + 1 }) := by
  obtain ⟨selection, row⟩ := layout
  unfold parse step
  cases selection with
  | ctxIdxInc => dsimp only; cases Grammar.ctxIdxInc line <;> rfl
  | cabacInit => dsimp only; cases Grammar.cabacInit line <;> rfl
  | rangeTabLps => dsimp only; cases Grammar.rangeTabLps line <;> rfl
  | cavlc mode => dsimp only; cases Grammar.cavlc row line <;> rfl

end Layout

/-- `TableLayout::render`: the generated text of entries that are in order. -/
def Selection.render : Selection → List Entry → String
  | .ctxIdxInc => Render.switchCases
  | .cabacInit => Render.cabacInit
  | .rangeTabLps => Render.rangeTabLps
  | .cavlc .lut => Render.bitLiterals
  | .cavlc .sizes => Render.widths

/-- `TableLayout::domain_size`: the number of indices of the selected table that must all be
present. -/
def Selection.domainSize (selection : Selection) : Option Nat := selection.table.domainSize

end EntropyTables
