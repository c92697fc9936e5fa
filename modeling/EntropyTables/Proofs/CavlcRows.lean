import EntropyTables.Proofs.Collecting
/-!
# The collected rows of CAVLC

The rows of a CAVLC file are numbered as they come, so the collected table is the list of its rows
in the order of the file (`collect_cavlc_iff`); which form the table is wanted in does not matter
before it is rendered (`collect_cavlc_mode`).
-/
namespace EntropyTables

/-- The entries of CAVLC rows, numbered from `start`. -/
def numberRows (start : Int) : List (List String) → List Entry
  | [] => []
  | cells :: rows => ⟨start, cells.map .text⟩ :: numberRows (start + 1) rows

theorem le_index_of_mem_numberRows : ∀ {rows : List (List String)} {start : Int} {entry : Entry},
    entry ∈ numberRows start rows → start ≤ entry.index
  | [], _, _, h => by simp [numberRows] at h
  | _ :: _, _, _, h => by
    rcases List.mem_cons.1 h with rfl | h
    · exact Int.le_refl _
    · have := le_index_of_mem_numberRows h
      omega

theorem numberRows_ascending : ∀ (rows : List (List String)) (start : Int),
    (numberRows start rows).Pairwise fun a b => a.index < b.index
  | [], _ => .nil
  | cells :: rows, start => by
    refine List.pairwise_cons.2 ⟨fun entry h => ?_, numberRows_ascending rows (start + 1)⟩
    have := le_index_of_mem_numberRows h
    show start < entry.index
    omega

/-! ## Reading the rows -/

/-- A row takes the next number. -/
theorem parse_cavlc {mode : CavlcMode} {row : Int} {line : Line}
    (h : Grammar.IsCavlcRow line.cells) :
    (⟨.cavlc mode, row⟩ : Layout).parse line =
      .ok ([⟨row, line.cells.map .text⟩], ⟨.cavlc mode, row + 1⟩) := by
  rw [Layout.parse_grammar]
  exact map_eq_ok_iff.2 ⟨_, Grammar.cavlc_eq_ok_iff.2 ⟨h, rfl⟩, rfl⟩

theorem accepts_cavlc_iff (mode : CavlcMode) (line : Line) :
    (Selection.cavlc mode).Accepts line ↔ Grammar.IsCavlcRow line.cells := by
  unfold Selection.Accepts
  constructor
  · rintro ⟨_, h⟩
    rw [Layout.parse_grammar] at h
    obtain ⟨_, he, -⟩ := map_eq_ok_iff.1 h
    exact (Grammar.cavlc_eq_ok_iff.1 he).1
  · intro h
    exact ⟨_, parse_cavlc h⟩

theorem entriesRead_cavlc (mode : CavlcMode) : ∀ (lines : List Line) (row : Int),
    (∀ line ∈ lines, Grammar.IsCavlcRow line.cells) →
      entriesRead ((⟨.cavlc mode, row⟩ : Layout).readings lines) =
        numberRows row (lines.map Line.cells)
  | [], _, _ => rfl
  | line :: rest, row, h => by
    obtain ⟨hl, h⟩ := List.forall_mem_cons.1 h
    rw [Layout.readings_of_ok (parse_cavlc hl), List.map_cons, numberRows,
      ← entriesRead_cavlc mode rest (row + 1) h]
    rfl

/-- **The collected table of CAVLC** is the list of its rows. -/
theorem collect_cavlc_iff {mode : CavlcMode} {raw : List String} {es : List Entry} :
    collect (.cavlc mode) raw = .ok es ↔
      (∀ line ∈ Line.ofRaw raw, Grammar.IsCavlcRow line.cells) ∧
        es = numberRows 0 ((Line.ofRaw raw).map Line.cells) := by
  have hp : (∀ line ∈ Line.ofRaw raw, Grammar.IsCavlcRow line.cells) →
      (Selection.cavlc mode).parsed raw = numberRows 0 ((Line.ofRaw raw).map Line.cells) :=
    entriesRead_cavlc mode (Line.ofRaw raw) 0
  have hs := numberRows_ascending ((Line.ofRaw raw).map Line.cells) 0
  rw [collect_eq_ok_iff]
  constructor
  · rintro ⟨hc, rfl⟩
    have hacc := fun line hl => (accepts_cavlc_iff mode line).1 (hc.accepted line hl)
    refine ⟨hacc, ?_⟩
    rw [hp hacc]
    exact (eq_sortEntries (.refl _) hs).symm
  · rintro ⟨hacc, rfl⟩
    refine ⟨⟨fun line hl => (accepts_cavlc_iff mode line).2 (hacc line hl), ?_, nofun⟩, ?_⟩
    · rw [hp hacc]
      exact nodup_of_ascending hs
    · rw [hp hacc]
      exact eq_sortEntries (.refl _) hs

/-! ## The form does not matter -/

theorem gather_cavlc_mode (mode mode' : CavlcMode) : ∀ (lines : List Line) (row : Int)
    (v : Validator), gather ⟨.cavlc mode, row⟩ v lines = gather ⟨.cavlc mode', row⟩ v lines
  | [], _, _ => rfl
  | line :: rest, row, v => by
    unfold gather Layout.step
    dsimp only
    cases Grammar.cavlc row line with
    | error e => rfl
    | ok entry =>
      dsimp only
      rcases observeAll v line.number [entry] with ⟨v', _ | e⟩
      · exact gather_cavlc_mode mode mode' rest (row + 1) v'
      · rfl

/-- **The form in which CAVLC is wanted** changes nothing in what is collected, errors included. -/
theorem collect_cavlc_mode (mode mode' : CavlcMode) (raw : List String) :
    collect (.cavlc mode) raw = collect (.cavlc mode') raw := by
  have h := gather_cavlc_mode mode mode' (Line.ofRaw raw) 0 (Validator.new none)
  show (Collection.mk _ (gather ⟨.cavlc mode, 0⟩ (Validator.new none) (Line.ofRaw raw)).1
      (gather ⟨.cavlc mode, 0⟩ (Validator.new none) (Line.ofRaw raw)).2).entries = _
  rw [h]
  rfl

end EntropyTables
