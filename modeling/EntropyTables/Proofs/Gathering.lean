import EntropyTables.Proofs.Reading
/-!
# What the reading of a file comes to

Reading stops at the first fault or reaches the end. `observeAll_cases` says so for the entries of
one line, `gather_cases` for lines, and `collect_cases`, the main statement, for a file: either the
lines are clean and only the completeness of the domain is left to check, or some line is the first
at fault, and then no line after it matters.
-/
namespace EntropyTables

/-- What can go wrong at a line, after a layout and a history: its grammar refuses it, or its
entries can be added up to one that is refused. -/
inductive FaultAt (layout : Layout) (domain : Option Nat) (history : List (Entry × Nat))
    (line : Line) : TableError → Prop where
  | malformed {e : TableError} (parse : layout.parse line = .error e) :
      FaultAt layout domain history line e
  | refused {before rest : List Entry} {entry : Entry} {layout' : Layout} {e : TableError}
      (parse : layout.parse line = .ok (before ++ entry :: rest, layout'))
      (admissible : Admissible domain (entriesOf history ++ before))
      (refused : Refused domain (history ++ before.map (·, line.number)) entry line.number e) :
      FaultAt layout domain history line e

/-- **The entries of one line** all join the history, or one of them is the first that is refused. -/
theorem observeAll_cases {domain : Option Nat} (line : Nat) :
    ∀ (entries : List Entry) {v : Validator} {history : List (Entry × Nat)},
      v.Tracks domain history →
      (∃ v', observeAll v line entries = (v', none) ∧
        v'.Tracks domain (history ++ entries.map (·, line))) ∨
      ∃ before entry rest v' e, entries = before ++ entry :: rest ∧
        observeAll v line entries = (v', some e) ∧
        Admissible domain (entriesOf history ++ before) ∧
        Refused domain (history ++ before.map (·, line)) entry line e
  | [], v, history, h => .inl ⟨v, rfl, by simpa using h⟩
  | entry :: rest, v, history, h => by
    unfold observeAll
    rcases h.observe entry line with ⟨v', ho, h'⟩ | ⟨e, ho, hr⟩
    · rw [Validator.step_of_observe_ok ho]
      rcases observeAll_cases line rest h' with
        ⟨v'', hg, h''⟩ | ⟨before, x, rest', v'', e, rfl, hg, ha, hr⟩
      · exact .inl ⟨v'', hg, by simpa using h''⟩
      · refine .inr ⟨entry :: before, x, rest', v'', e, rfl, hg, ?_, by simpa using hr⟩
        simpa [entriesOf] using ha
    · rw [Validator.step_of_observe_error ho]
      exact .inr ⟨[], entry, rest, v, e, rfl, rfl, by simpa using h.admissible, by simpa using hr⟩

/-- **Lines** are all read, and their entries join the history, or one of them is the first at
fault, whatever lines follow it. -/
theorem gather_cases {domain : Option Nat} :
    ∀ (lines : List Line) (layout : Layout) {v : Validator} {history : List (Entry × Nat)},
      v.Tracks domain history →
      (∃ v', gather layout v lines = (v', none) ∧
        v'.Tracks domain (history ++ calls (layout.readings lines)) ∧
        ∀ line ∈ lines, layout.selection.Accepts line) ∨
      ∃ pre line post e, lines = pre ++ line :: post ∧
        (∀ line ∈ pre, layout.selection.Accepts line) ∧
        Admissible domain (entriesOf (history ++ calls (layout.readings pre))) ∧
        FaultAt (layout.after pre) domain (history ++ calls (layout.readings pre)) line e ∧
        ∀ post', ∃ v', gather layout v (pre ++ line :: post') = (v', some e)
  | [], layout, v, history, h => .inl ⟨v, rfl, by simpa [Layout.readings, calls] using h, by simp⟩
  | line :: rest, layout, v, history, h => by
    cases hp : layout.parse line with
    | error e =>
      refine .inr ⟨[], line, rest, e, rfl, by simp, ?_, .malformed hp, fun post' => ⟨v, ?_⟩⟩
      · simpa [Layout.readings, calls] using h.admissible
      · simp [gather, Layout.step_of_parse_error hp]
    | ok r =>
      obtain ⟨entries, layout'⟩ := r
      have hsel := Layout.selection_of_parse hp
      have hacc := Layout.accepts_of_parse hp
      have hcalls : ∀ lines, history ++ calls (layout.readings (line :: lines)) =
          history ++ entries.map (·, line.number) ++ calls (layout'.readings lines) := by
        intro lines
        rw [calls_readings_cons hp, List.append_assoc]
      rcases observeAll_cases line.number entries h with
        ⟨v', ho, h'⟩ | ⟨before, entry, rest', v', e, rfl, ho, ha, hr⟩
      · have hstep : ∀ lines, gather layout v (line :: lines) = gather layout' v' lines := by
          intro lines; simp [gather, Layout.step_of_parse_ok hp, ho]
        rcases gather_cases rest layout' h' with
          ⟨v'', hg, h'', hall⟩ | ⟨pre, bad, post, e, rfl, hall, ha, hf, hg⟩
        · rw [hsel] at hall
          exact .inl ⟨v'', by rw [hstep, hg], by rw [hcalls]; exact h'',
            List.forall_mem_cons.2 ⟨hacc, hall⟩⟩
        · rw [hsel] at hall
          refine .inr ⟨line :: pre, bad, post, e, rfl, List.forall_mem_cons.2 ⟨hacc, hall⟩, ?_, ?_,
            fun post' => ?_⟩
          · rw [hcalls]; exact ha
          · rw [hcalls, Layout.after_of_ok hp]; exact hf
          · rw [List.cons_append, hstep]; exact hg post'
      · refine .inr ⟨[], line, rest, e, rfl, by simp, ?_, ?_, fun post' => ⟨v', ?_⟩⟩
        · simpa [Layout.readings, calls] using h.admissible
        · exact .refused hp (by simpa [Layout.readings, calls] using ha)
            (by simpa [Layout.readings, calls] using hr)
        · simp [gather, Layout.step_of_parse_ok hp, ho]

/-! ## A file -/

/-- Every line that is kept is accepted, no index comes twice, and all lie in the domain. -/
def Selection.Clean (selection : Selection) (raw : List String) : Prop :=
  (∀ line ∈ Line.ofRaw raw, selection.Accepts line) ∧
    Admissible selection.domainSize (selection.parsed raw)

/-- The first line at fault: the lines before it are clean, and it is not. -/
structure FirstFault (selection : Selection) (before : List String) (line : Line) (e : TableError) :
    Prop where
  number_eq : line.number = before.length + 1
  clean : selection.Clean before
  fault : FaultAt ((Layout.fresh selection).after (Line.ofRaw before)) selection.domainSize
    (calls (selection.readings before)) line e

theorem domainSize_le {selection : Selection} :
    ∀ size : Nat, selection.domainSize = some size → size ≤ Text.int64Max := by
  rintro size h
  cases selection <;> cases h
  decide

theorem gather_fresh (selection : Selection) (raw : List String) :
    (Collection.ofRaw selection raw).fault =
        (gather (Layout.fresh selection) (Validator.new selection.domainSize) (Line.ofRaw raw)).2 ∧
      (Collection.ofRaw selection raw).validator =
        (gather (Layout.fresh selection) (Validator.new selection.domainSize) (Line.ofRaw raw)).1 :=
  ⟨rfl, rfl⟩

/-- **A run over a file.** A clean file is checked for completeness and sorted; any other file has a
first line at fault, whose error is returned whatever lines follow it. -/
theorem collect_cases (selection : Selection) (raw : List String) :
    (selection.Clean raw ∧ Covers selection.domainSize (selection.parsed raw) ∧
      collect selection raw = .ok (sortEntries (selection.parsed raw))) ∨
    (selection.Clean raw ∧ ∃ size index, selection.domainSize = some size ∧
      collect selection raw = .error (.missingIndex index) ∧ index < size ∧
      LeastAbsent ((selection.parsed raw).map Entry.index) index) ∨
    ∃ before text after line e, raw = before ++ text :: after ∧
      Line.normalize text = some line.text ∧ FirstFault selection before line e ∧
      ∀ tail, collect selection (before ++ text :: tail) = .error e := by
  have hstart := Validator.new_tracks selection.domainSize
  rcases gather_cases (Line.ofRaw raw) (.fresh selection) hstart with
    ⟨v, hg, ht, hall⟩ | ⟨pre, line, post, e, hlines, hall, ha, hf, hg⟩
  · rw [List.nil_append] at ht
    have hclean : selection.Clean raw := by
      refine ⟨hall, ?_⟩
      have := ht.admissible
      rwa [entriesOf_calls] at this
    have hcollect : collect selection raw = v.finish.map sortEntries := by
      simp only [collect, Collection.entries, gather_fresh, hg]
    rcases ht.finish domainSize_le with ⟨hfin, hcov⟩ | ⟨size, index, hsize, hfin, hlt, habs⟩
    · rw [entriesOf_calls] at hfin hcov
      exact .inl ⟨hclean, hcov, by rw [hcollect, hfin]; rfl⟩
    · rw [entriesOf_calls] at habs
      exact .inr (.inl ⟨hclean, size, index, hsize, by rw [hcollect, hfin]; rfl, hlt, habs⟩)
  · rw [Line.ofRaw_eq] at hlines
    obtain ⟨before, text, after, rfl, hnum, htext, rfl, rfl⟩ := Line.ofRawFrom_split hlines
    rw [← Line.ofRaw_eq, List.nil_append] at ha hf
    refine .inr (.inr ⟨before, text, after, line, e, rfl, htext, ⟨by omega, ⟨hall, ?_⟩, hf⟩, ?_⟩)
    · rwa [entriesOf_calls] at ha
    · intro tail
      obtain ⟨v, hv⟩ := hg (Line.ofRawFrom (line.number + 1) tail)
      rw [← Line.ofRaw_eq, ← Line.ofRaw_append_cons (by omega) htext] at hv
      simp only [collect, Collection.entries, gather_fresh, hv]

theorem FirstFault.not_clean {selection : Selection} {before after : List String} {text : String}
    {line : Line} {e : TableError} (h : FirstFault selection before line e)
    (htext : Line.normalize text = some line.text) :
    ¬ selection.Clean (before ++ text :: after) := by
  rintro ⟨hall, ha⟩
  rw [Selection.parsed, Selection.readings] at ha
  rw [Line.ofRaw_append_cons h.number_eq htext] at hall ha
  cases h.fault with
  | malformed hp =>
    have hacc := hall line (by simp)
    rw [← selection_after_fresh selection (Line.ofRaw before)] at hacc
    exact (Layout.not_accepts_iff _ line).2 ⟨e, hp⟩ hacc
  | @refused pre rest entry layout' _ hp _ hr =>
    apply hr.not_admissible
    rw [Layout.readings_append, Layout.readings_of_ok hp] at ha
    have hsplit : Admissible selection.domainSize
        (entriesOf (calls (selection.readings before) ++ pre.map (·, line.number)) ++ [entry] ++
          (rest ++ entriesRead (layout'.readings (Line.ofRawFrom (line.number + 1) after)))) := by
      rw [entriesOf_calls_append]
      simpa [entriesRead, Selection.readings] using ha
    exact hsplit.of_append

end EntropyTables
