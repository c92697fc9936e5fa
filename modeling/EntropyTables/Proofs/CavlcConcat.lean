import EntropyTables.Proofs.CavlcRows
/-!
# CAVLC line by line

A CAVLC file is generated line by line (`transform_cavlc_eq`): its text is the text of its lines in
their order, and its error is that of the first line that the grammar refuses. The number of a row
orders the rows and is not written, so the text of a line does not depend on the lines before it.

Main statement: `transform_cavlc_append`.
-/
namespace EntropyTables

/-! ## The fault of a file -/

/-- A row is never refused for its number, so a line at fault is one that the grammar refuses. -/
theorem FirstFault.refused_cavlc {mode : CavlcMode} {before : List String} {text : String}
    {line : Line} {e : TableError} (h : FirstFault (.cavlc mode) before line e)
    (ht : Line.normalize text = some line.text)
    (hc : ∀ tail, collect (.cavlc mode) (before ++ text :: tail) = .error e) :
    Grammar.cavlc 0 line = .error e := by
  have hsel := selection_after_fresh (.cavlc mode) (Line.ofRaw before)
  cases h.fault with
  | malformed hp =>
    rw [Layout.parse_eq, hsel, Layout.parse_grammar] at hp
    exact map_eq_error_iff.1 (map_eq_error_iff.1 hp)
  | refused hp =>
    -- The line is accepted, so the file that it ends would be collected.
    have hacc := Layout.accepts_of_parse hp
    rw [hsel] at hacc
    have hall : ∀ l ∈ Line.ofRaw (before ++ [text]), Grammar.IsCavlcRow l.cells := by
      intro l hl
      rw [Line.ofRaw_append_cons h.number_eq ht, Line.ofRawFrom_nil, List.mem_append,
        List.mem_singleton] at hl
      rcases hl with hl | rfl
      · exact (accepts_cavlc_iff mode l).1 (h.clean.1 l hl)
      · exact (accepts_cavlc_iff mode l).1 hacc
    have hok : collect (.cavlc mode) (before ++ [text]) = .ok _ := collect_cavlc_iff.2 ⟨hall, rfl⟩
    rw [hc []] at hok
    cases hok

/-- **The fault of a CAVLC file** is that of the first line that the grammar refuses. -/
theorem mapM_cavlc_of_collect_error {mode : CavlcMode} {raw : List String} {e : TableError}
    (h : collect (.cavlc mode) raw = .error e) :
    (Line.ofRaw raw).mapM (Grammar.cavlc 0) = .error e := by
  rcases collect_cases (.cavlc mode) raw with ⟨-, -, hc⟩ | ⟨-, _, _, hsize, -⟩ |
    ⟨before, text, after, line, e', rfl, ht, hf, hc⟩
  · rw [hc] at h; cases h
  · cases hsize
  · rw [hc after] at h
    cases h
    rw [Line.ofRaw_append_cons hf.number_eq ht]
    refine mapM_eq_error (hf.refused_cavlc ht hc) fun l hl => ?_
    exact ⟨_, Grammar.cavlc_eq_ok_iff.2 ⟨(accepts_cavlc_iff mode l).1 (hf.clean.1 l hl), rfl⟩⟩

/-! ## The text of a file -/

def Entry.unnumbered (entry : Entry) : Entry := { entry with index := 0 }

theorem render_cavlc_unnumbered (mode : CavlcMode) (entries : List Entry) :
    (Selection.cavlc mode).render (entries.map Entry.unnumbered) =
      (Selection.cavlc mode).render entries := by
  cases mode <;>
    simp only [Selection.render, Render.bitLiterals, Render.widths, Render.blocks, List.map_map] <;>
    rfl

theorem render_cavlc_append (mode : CavlcMode) (as bs : List Entry) :
    (Selection.cavlc mode).render (as ++ bs) =
      (Selection.cavlc mode).render as ++ (Selection.cavlc mode).render bs := by
  cases mode <;>
    simp [Selection.render, Render.bitLiterals, Render.widths, Render.blocks, String.join_append]

theorem unnumbered_numberRows : ∀ (rows : List (List String)) (start : Int),
    (numberRows start rows).map Entry.unnumbered = rows.map fun cells => ⟨0, cells.map .text⟩
  | [], _ => rfl
  | cells :: rows, start => by
    rw [numberRows, List.map_cons, List.map_cons, unnumbered_numberRows rows (start + 1)]
    rfl

theorem mapM_cavlc_of_accepted {lines : List Line}
    (h : ∀ line ∈ lines, Grammar.IsCavlcRow line.cells) :
    lines.mapM (Grammar.cavlc 0) =
      .ok ((numberRows 0 (lines.map Line.cells)).map Entry.unnumbered) := by
  rw [mapM_eq_ok_iff, unnumbered_numberRows, List.map_map, List.forall₂_map_right_iff,
    List.forall₂_same]
  exact fun line hl => Grammar.cavlc_eq_ok_iff.2 ⟨h line hl, rfl⟩

/-- **CAVLC is generated line by line**: each line is read as if it were the only one. -/
theorem transform_cavlc_eq (mode : CavlcMode) (raw : List String) :
    transform (.cavlc mode) raw =
      ((Line.ofRaw raw).mapM (Grammar.cavlc 0)).map (Selection.cavlc mode).render := by
  unfold transform
  cases h : collect (.cavlc mode) raw with
  | error e => rw [mapM_cavlc_of_collect_error h, map_error]
  | ok es =>
    obtain ⟨hacc, rfl⟩ := collect_cavlc_iff.1 h
    rw [mapM_cavlc_of_accepted hacc, map_ok, map_ok, render_cavlc_unnumbered]

theorem transform_cavlc_blank {mode : CavlcMode} {raw : List String} (h : Line.ofRaw raw = []) :
    transform (.cavlc mode) raw = .ok "" := by
  rw [transform_cavlc_eq, h]
  cases mode <;> rfl

/-- A line further down the file reads the same, but for the number in its error. -/
theorem mapM_cavlc_ofRawFrom (start k : Nat) (raw : List String) :
    (Line.ofRawFrom (start + k) raw).mapM (Grammar.cavlc 0) =
      ((Line.ofRawFrom start raw).mapM (Grammar.cavlc 0)).mapError (.relocate (· + k)) := by
  rw [mapError_mapM, Line.ofRawFrom_add, List.mapM_map]
  congr 1
  funext line
  exact Grammar.cavlc_relocate (· + k) 0

/-- **A file in two parts** gives the text of the first part and then that of the second; an error
of the second part counts the lines of the first. -/
theorem transform_cavlc_parts (mode : CavlcMode) (a b : List String) :
    transform (.cavlc mode) (a ++ b) =
      transform (.cavlc mode) a >>= fun s =>
        ((transform (.cavlc mode) b).mapError (.relocate (· + a.length))).map (s ++ ·) := by
  simp only [transform_cavlc_eq, Line.ofRaw_eq, Line.ofRawFrom_append, List.mapM_append,
    mapM_cavlc_ofRawFrom]
  cases (Line.ofRawFrom 1 a).mapM (Grammar.cavlc 0) with
  | error e => rfl
  | ok as =>
    cases (Line.ofRawFrom 1 b).mapM (Grammar.cavlc 0) with
    | error e => rfl
    | ok bs => simp [render_cavlc_append]

/-- An error of a CAVLC file is about a line that the grammar refuses. -/
theorem malformed_of_transform_cavlc {mode : CavlcMode} {raw : List String} {e : TableError}
    (h : transform (.cavlc mode) raw = .error e) :
    ∃ n text reason, e = .malformedLine n text reason := by
  rw [transform_cavlc_eq] at h
  obtain ⟨line, -, hl⟩ := exists_of_mapM_eq_error (map_eq_error_iff.1 h)
  obtain ⟨reason, rfl⟩ := Grammar.cavlc_blames 0 e hl
  exact ⟨_, _, reason, rfl⟩

/-- **The rows stay in the order of the file**: its text is the texts of its lines, joined. -/
theorem transform_cavlc_ok_iff {mode : CavlcMode} : ∀ {raw : List String} {s : String},
    transform (.cavlc mode) raw = .ok s ↔ ∃ texts,
      List.Forall₂ (fun line text => transform (.cavlc mode) [line] = .ok text) raw texts ∧
        s = String.join texts
  | [], s => by
    have h : transform (.cavlc mode) [] = .ok "" := transform_cavlc_blank rfl
    simp [h, eq_comm]
  | line :: raw, s => by
    have hp : transform (.cavlc mode) (line :: raw) = _ := transform_cavlc_parts mode [line] raw
    rw [hp, bind_eq_ok_iff]
    constructor
    · rintro ⟨first, hf, h⟩
      cases hr : transform (.cavlc mode) raw with
      | error e => rw [hr] at h; cases h
      | ok rest =>
        obtain ⟨texts, ht, rfl⟩ := transform_cavlc_ok_iff.1 hr
        rw [hr] at h
        cases h
        exact ⟨first :: texts, .cons hf ht, by rw [String.join_cons]⟩
    · rintro ⟨_, _ | ⟨hf, ht⟩, rfl⟩
      refine ⟨_, hf, ?_⟩
      rw [transform_cavlc_ok_iff.2 ⟨_, ht, rfl⟩, mapError_ok, map_ok, String.join_cons]

/-- **Cutting a CAVLC file in two.** If the first part fails, the whole fails with its error. If only
the second part fails, the whole fails with its error, which counts the lines of the first part as
well. Otherwise the whole gives the text of the first part and then that of the second.

So the rows stay in the order of the file and a blank line adds nothing. No error is about an index. -/
theorem transform_cavlc_append (mode : CavlcMode) (a b : List String) :
    (∀ e, transform (.cavlc mode) a = .error e → transform (.cavlc mode) (a ++ b) = .error e) ∧
    (∀ s n text reason, transform (.cavlc mode) a = .ok s →
      transform (.cavlc mode) b = .error (.malformedLine n text reason) →
      transform (.cavlc mode) (a ++ b) = .error (.malformedLine (n + a.length) text reason)) ∧
    (∀ s s', transform (.cavlc mode) a = .ok s → transform (.cavlc mode) b = .ok s' →
      transform (.cavlc mode) (a ++ b) = .ok (s ++ s')) ∧
    (∀ e, transform (.cavlc mode) a = .error e → ∃ n text reason, e = .malformedLine n text reason) ∧
    (∀ s, transform (.cavlc mode) a = .ok s ↔ ∃ texts,
      List.Forall₂ (fun line text => transform (.cavlc mode) [line] = .ok text) a texts ∧
        s = String.join texts) ∧
    ∀ line, Line.normalize line = none → transform (.cavlc mode) [line] = .ok "" := by
  have hparts := transform_cavlc_parts mode a b
  refine ⟨fun e ha => ?_, fun s n text reason ha hb => ?_, fun s s' ha hb => ?_,
    fun e => malformed_of_transform_cavlc, fun s => transform_cavlc_ok_iff, fun line hl => ?_⟩
  · rw [hparts, ha, error_bind]
  · rw [hparts, ha, ok_bind, hb]
    rfl
  · rw [hparts, ha, ok_bind, hb]
    rfl
  · refine transform_cavlc_blank ?_
    rw [Line.ofRaw_eq, Line.ofRawFrom_cons, hl]
    rfl

end EntropyTables
