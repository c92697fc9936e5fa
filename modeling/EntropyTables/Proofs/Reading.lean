import EntropyTables.Generate
import EntropyTables.Proofs.Checking
import EntropyTables.Proofs.LineGrammar
/-!
# The lines of a file and what they read as

`Layout.readings` feeds lines to a layout one after the other and keeps the entries of each line
that is accepted; a line that is refused gives nothing and takes no row number. The raw lines around
a kept line are `Line.ofRawFrom_split`, what a line reads as after others is `readings_append`.
-/
namespace EntropyTables

namespace Line

/-- The lines with something on them, in order, where the first has the number `start`. -/
def ofRawFrom (start : Nat) (raw : List String) : List Line :=
  (raw.zipIdx start).filterMap fun (text, number) => (normalize text).map (⟨number, ·⟩)

theorem ofRaw_eq (raw : List String) : ofRaw raw = ofRawFrom 1 raw := rfl

@[simp] theorem ofRawFrom_nil (start : Nat) : ofRawFrom start [] = [] := rfl

theorem ofRawFrom_cons (start : Nat) (text : String) (raw : List String) :
    ofRawFrom start (text :: raw) =
      ((normalize text).map (⟨start, ·⟩)).toList ++ ofRawFrom (start + 1) raw := by
  unfold ofRawFrom
  rw [List.zipIdx_cons, List.filterMap_cons]
  cases h : normalize text <;> simp [h]

theorem ofRawFrom_append (start : Nat) (as bs : List String) :
    ofRawFrom start (as ++ bs) = ofRawFrom start as ++ ofRawFrom (start + as.length) bs := by
  unfold ofRawFrom
  rw [List.zipIdx_append, List.filterMap_append]

/-- Lines that stand further down have greater numbers and are else the same. -/
theorem ofRawFrom_add (start k : Nat) (raw : List String) :
    ofRawFrom (start + k) raw = (ofRawFrom start raw).map (relocate (· + k)) := by
  induction raw generalizing start with
  | nil => rfl
  | cons text raw ih =>
    rw [ofRawFrom_cons, ofRawFrom_cons, List.map_append, ← ih, Nat.add_right_comm]
    cases normalize text <;> rfl

/-- What the lines say depends on no number. -/
theorem texts_ofRawFrom (start : Nat) (raw : List String) :
    (ofRawFrom start raw).map Line.text = raw.filterMap normalize := by
  induction raw generalizing start with
  | nil => rfl
  | cons text raw ih =>
    rw [ofRawFrom_cons, List.map_append, ih, List.filterMap_cons]
    cases normalize text <;> rfl

/-- The number of a kept line counts the raw lines up to it. -/
theorem number_of_mem_ofRawFrom {start : Nat} {raw : List String} {line : Line}
    (h : line ∈ ofRawFrom start raw) : start ≤ line.number ∧ line.number < start + raw.length := by
  obtain ⟨⟨text, number⟩, hz, hn⟩ := List.mem_filterMap.1 h
  obtain ⟨_, _, rfl⟩ := Option.map_eq_some_iff.1 hn
  have := List.mem_zipIdx hz
  exact ⟨this.1, this.2.1⟩

/-- **The raw lines around a kept line**: it stands for one of them, and its number counts those
before it. -/
theorem ofRawFrom_split {pre post : List Line} {line : Line} :
    ∀ {start : Nat} {raw : List String}, ofRawFrom start raw = pre ++ line :: post →
      ∃ before text after, raw = before ++ text :: after ∧
        line.number = start + before.length ∧ normalize text = some line.text ∧
        pre = ofRawFrom start before ∧ post = ofRawFrom (line.number + 1) after
  | _, [], h => by simp at h
  | start, text :: raw, h => by
    rw [ofRawFrom_cons] at h
    cases hn : normalize text with
    | none =>
      rw [hn] at h
      obtain ⟨before, text', after, rfl, hnum, ht, rfl, rfl⟩ := ofRawFrom_split h
      refine ⟨text :: before, text', after, rfl, by simp [hnum]; omega, ht, ?_, rfl⟩
      rw [ofRawFrom_cons, hn]; rfl
    | some t =>
      rw [hn] at h
      cases pre with
      | nil =>
        cases h
        exact ⟨[], text, raw, rfl, rfl, hn, rfl, rfl⟩
      | cons first pre =>
        obtain ⟨rfl, h'⟩ := List.cons.inj h
        obtain ⟨before, text', after, rfl, hnum, ht, rfl, rfl⟩ := ofRawFrom_split h'
        refine ⟨text :: before, text', after, rfl, by simp [hnum]; omega, ht, ?_, rfl⟩
        rw [ofRawFrom_cons, hn]; rfl

theorem ofRaw_append_cons {before : List String} {text : String} {line : Line}
    (hnum : line.number = before.length + 1) (htext : normalize text = some line.text)
    (after : List String) :
    ofRaw (before ++ text :: after) = ofRaw before ++ line :: ofRawFrom (line.number + 1) after := by
  rw [ofRaw_eq, ofRawFrom_append, ofRawFrom_cons, htext, Nat.add_comm, ← hnum]
  rfl

end Line

/-! ## Readings -/

/-- The grammar of the selected table accepts the line. -/
def Selection.Accepts (selection : Selection) (line : Line) : Prop :=
  ∃ r, (Layout.fresh selection).parse line = .ok r

namespace Layout

/-- The accepted lines, each with its entries. -/
def readings (layout : Layout) : List Line → List (Line × List Entry)
  | [] => []
  | line :: rest =>
    match layout.step line with
    | (layout', .ok entries) => (line, entries) :: readings layout' rest
    | (layout', .error _) => readings layout' rest

/-- The layout after lines, whether they are accepted or not. -/
def after (layout : Layout) : List Line → Layout
  | [] => layout
  | line :: rest => after (layout.step line).1 rest

section

variable {layout layout' : Layout} {line : Line} {entries : List Entry} {e : TableError}

theorem readings_of_ok (h : layout.parse line = .ok (entries, layout')) (rest : List Line) :
    layout.readings (line :: rest) = (line, entries) :: layout'.readings rest := by
  rw [readings, step_of_parse_ok h]

theorem readings_of_error (h : layout.parse line = .error e) (rest : List Line) :
    layout.readings (line :: rest) = layout.readings rest := by
  rw [readings, step_of_parse_error h]

theorem after_of_ok (h : layout.parse line = .ok (entries, layout')) (rest : List Line) :
    layout.after (line :: rest) = layout'.after rest := by
  rw [after, step_of_parse_ok h]

theorem after_of_error (h : layout.parse line = .error e) (rest : List Line) :
    layout.after (line :: rest) = layout.after rest := by
  rw [after, step_of_parse_error h]

end

/-- Whether a line is accepted does not depend on the lines before it. -/
theorem accepts_iff (layout : Layout) (line : Line) :
    layout.selection.Accepts line ↔ ∃ entries, layout.parse line = .ok (entries, layout.next) := by
  rw [parse_eq]
  unfold Selection.Accepts
  cases (fresh layout.selection).parse line with
  | error e => simp
  | ok r => simp

theorem accepts_of_parse {layout : Layout} {line : Line} {r : List Entry × Layout}
    (h : layout.parse line = .ok r) : layout.selection.Accepts line := by
  rw [parse_eq] at h
  obtain ⟨r', h', -⟩ := map_eq_ok_iff.1 h
  exact ⟨r', h'⟩

theorem not_accepts_iff (layout : Layout) (line : Line) :
    ¬ layout.selection.Accepts line ↔ ∃ e, layout.parse line = .error e := by
  rw [parse_eq]
  unfold Selection.Accepts
  cases (fresh layout.selection).parse line with
  | error e => simp
  | ok r => simp

theorem selection_of_parse {layout layout' : Layout} {line : Line} {entries : List Entry}
    (h : layout.parse line = .ok (entries, layout')) : layout'.selection = layout.selection := by
  rw [parse_eq] at h
  obtain ⟨_, _, h⟩ := map_eq_ok_iff.1 h
  cases h
  exact selection_next layout

theorem selection_after : ∀ (lines : List Line) (layout : Layout),
    (layout.after lines).selection = layout.selection
  | [], _ => rfl
  | line :: rest, layout => by
    cases hp : layout.parse line with
    | error e =>
      rw [after_of_error hp]
      exact selection_after rest layout
    | ok r => rw [after_of_ok hp, selection_after rest, selection_of_parse hp]

/-- **Readings run on** from the layout after the lines before. -/
theorem readings_append : ∀ (as bs : List Line) (layout : Layout),
    layout.readings (as ++ bs) = layout.readings as ++ (layout.after as).readings bs
  | [], _, _ => rfl
  | line :: as, bs, layout => by
    rw [List.cons_append]
    cases hp : layout.parse line with
    | error e =>
      rw [readings_of_error hp, readings_of_error hp, after_of_error hp]
      exact readings_append as bs layout
    | ok r =>
      rw [readings_of_ok hp, readings_of_ok hp, after_of_ok hp, readings_append as bs r.2,
        List.cons_append]

theorem mem_of_mem_readings : ∀ {lines : List Line} {layout : Layout} {r : Line × List Entry},
    r ∈ layout.readings lines → r.1 ∈ lines
  | [], _, _, h => by simp [readings] at h
  | line :: rest, layout, r, h => by
    cases hp : layout.parse line with
    | error e =>
      rw [readings_of_error hp] at h
      exact List.mem_cons_of_mem _ (mem_of_mem_readings h)
    | ok _ =>
      rw [readings_of_ok hp] at h
      rcases List.mem_cons.1 h with rfl | h
      · exact List.mem_cons_self
      · exact List.mem_cons_of_mem _ (mem_of_mem_readings h)

/-- Every reading is what a layout of the same table makes of its line. -/
theorem parse_of_mem_readings : ∀ {lines : List Line} {layout : Layout} {r : Line × List Entry},
    r ∈ layout.readings lines → ∃ before after : Layout,
      before.selection = layout.selection ∧ before.parse r.1 = .ok (r.2, after)
  | [], _, _, h => by simp [readings] at h
  | line :: rest, layout, r, h => by
    cases hp : layout.parse line with
    | error e =>
      rw [readings_of_error hp] at h
      exact parse_of_mem_readings h
    | ok read =>
      rw [readings_of_ok hp] at h
      rcases List.mem_cons.1 h with rfl | h
      · exact ⟨layout, read.2, rfl, hp⟩
      · obtain ⟨before, after, hsel, hr⟩ := parse_of_mem_readings h
        exact ⟨before, after, hsel.trans (selection_of_parse hp), hr⟩

theorem fits_of_mem_readings {lines : List Line} {layout : Layout} {r : Line × List Entry}
    (h : r ∈ layout.readings lines) : ∀ entry ∈ r.2, layout.selection.table.Fits entry := by
  obtain ⟨before, after, hsel, hp⟩ := parse_of_mem_readings h
  rw [← hsel]
  exact parse_fits hp

end Layout

theorem selection_after_fresh (selection : Selection) (lines : List Line) :
    ((Layout.fresh selection).after lines).selection = selection :=
  Layout.selection_after lines (.fresh selection)

def Selection.readings (selection : Selection) (raw : List String) : List (Line × List Entry) :=
  (Layout.fresh selection).readings (Line.ofRaw raw)

def entriesRead (readings : List (Line × List Entry)) : List Entry := readings.flatMap Prod.snd

/-- The entries of readings, each with the number of its line. -/
def calls (readings : List (Line × List Entry)) : List (Entry × Nat) :=
  readings.flatMap fun r => r.2.map (·, r.1.number)

/-- The entries that the lines of a file read as. -/
def Selection.parsed (selection : Selection) (raw : List String) : List Entry :=
  entriesRead (selection.readings raw)

@[simp] theorem entriesOf_calls (readings : List (Line × List Entry)) :
    entriesOf (calls readings) = entriesRead readings := by
  simp [entriesOf, calls, entriesRead, List.map_flatMap, Function.comp_def]

theorem calls_readings_cons {layout layout' : Layout} {line : Line} {entries : List Entry}
    (h : layout.parse line = .ok (entries, layout')) (rest : List Line) :
    calls (layout.readings (line :: rest)) =
      entries.map (·, line.number) ++ calls (layout'.readings rest) := by
  rw [Layout.readings_of_ok h]
  rfl

theorem entriesOf_calls_append (readings : List (Line × List Entry)) (entries : List Entry)
    (number : Nat) : entriesOf (calls readings ++ entries.map (·, number)) =
      entriesRead readings ++ entries := by
  rw [entriesOf, List.map_append, ← entriesOf, entriesOf_calls, List.map_map]
  simp [Function.comp_def]

theorem mem_calls_iff {readings : List (Line × List Entry)} {entry : Entry} {number : Nat} :
    (entry, number) ∈ calls readings ↔ ∃ r ∈ readings, r.1.number = number ∧ entry ∈ r.2 := by
  simp only [calls, List.mem_flatMap, List.mem_map, Prod.mk.injEq]
  constructor
  · rintro ⟨r, hr, _, he, rfl, rfl⟩; exact ⟨r, hr, rfl, he⟩
  · rintro ⟨r, hr, rfl, he⟩; exact ⟨r, hr, entry, he, rfl, rfl⟩

end EntropyTables
