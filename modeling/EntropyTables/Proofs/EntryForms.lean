import EntropyTables.Proofs.Collecting
/-!
# What the entries of a table hold

The tokens of a line are words: they hold something, and no blank (`isWord_of_mem_tokens`). A
grammar keeps such tokens as they are or reads each of them as a number, so the fields of a
collected entry have one form for each table (`hasForm_of_mem_collect`).
-/
namespace EntropyTables

namespace Text

def IsWord (text : String) : Prop := text ≠ "" ∧ ∀ c ∈ text.toList, isBlank c = false

theorem not_blank_of_mem_wordsFrom : ∀ {cs carry : List Char}, (∀ c ∈ carry, isBlank c = false) →
    ∀ w ∈ wordsFrom carry cs, w ≠ [] ∧ ∀ c ∈ w, isBlank c = false
  | [], carry, hc, w, hw => by
    unfold wordsFrom at hw
    by_cases hnil : carry = []
    · simp [hnil] at hw
    · obtain rfl : w = carry.reverse := by simpa [hnil] using hw
      exact ⟨by simpa using hnil, fun c h => hc c (List.mem_reverse.1 h)⟩
  | c :: cs, carry, hc, w, hw => by
    have hempty : ∀ c ∈ ([] : List Char), isBlank c = false := by simp
    unfold wordsFrom at hw
    by_cases hb : isBlank c = true
    · by_cases hnil : carry = []
      · exact not_blank_of_mem_wordsFrom hempty w (by simpa [hb, hnil] using hw)
      · have hw : w = carry.reverse ∨ w ∈ wordsFrom [] cs := by simpa [hb, hnil] using hw
        rcases hw with rfl | hw
        · exact ⟨by simpa using hnil, fun c h => hc c (List.mem_reverse.1 h)⟩
        · exact not_blank_of_mem_wordsFrom hempty w hw
    · have hb : isBlank c = false := by simpa using hb
      refine not_blank_of_mem_wordsFrom ?_ w (by simpa [hb] using hw)
      exact List.forall_mem_cons.2 ⟨hb, hc⟩

/-- **A word holds something, and no blank.** -/
theorem isWord_of_mem_tokens {text token : String} (h : token ∈ tokens text) : IsWord token := by
  obtain ⟨w, hw, rfl⟩ := List.mem_map.1 h
  obtain ⟨hne, hb⟩ := not_blank_of_mem_wordsFrom (by simp) w hw
  refine ⟨by simpa using hne, ?_⟩
  rw [String.toList_ofList]
  exact hb

end Text

def AreNumbers (count : Nat) (fields : List Field) : Prop :=
  ∃ values : List Int, values.length = count ∧ fields = values.map .int

/-- The fields of an entry of the table: words for ctxIdxInc, numbers for the other two tables whose
entries have an index, and the cells of a row for CAVLC. -/
def Selection.HasForm (selection : Selection) (fields : List Field) : Prop :=
  match selection with
  | .ctxIdxInc => ∃ a b c, Text.IsWord a ∧ Text.IsWord b ∧ Text.IsWord c ∧
      fields = [.text a, .text b, .text c]
  | .cabacInit => AreNumbers 8 fields
  | .rangeTabLps => AreNumbers 4 fields
  | .cavlc _ => ∃ cells, Grammar.IsCavlcRow cells ∧ fields = cells.map .text

namespace Grammar

variable {line : Line}

theorem mapM_keepToken (tokens : List String) :
    tokens.mapM (keepToken line) = .ok (tokens.map .text) := by
  rw [mapM_eq_ok_iff, List.forall₂_map_right_iff, List.forall₂_same]
  exact fun token _ => rfl

theorem areNumbers_of_mapM {tokens : List String} {fields : List Field}
    (h : tokens.mapM (readValue line) = .ok fields) : AreNumbers fields.length fields := by
  rw [mapM_eq_ok_iff] at h
  induction h with
  | nil => exact ⟨[], rfl, rfl⟩
  | cons hv _ ih =>
    obtain ⟨value, -, rfl⟩ := readValue_eq_ok_iff.1 hv
    obtain ⟨values, hn, rfl⟩ := ih
    exact ⟨value :: values, by simp, rfl⟩

theorem areNumbers_fillWithZeros {entry : Entry} (h : AreNumbers entry.fields.length entry.fields) :
    AreNumbers (fillWithZeros entry).fields.length (fillWithZeros entry).fields := by
  obtain ⟨values, -, hv⟩ := h
  refine ⟨values ++ List.replicate (cabacWidth - entry.fields.length) 0, ?_, ?_⟩
  · simp [fillWithZeros, hv]
  · simp [fillWithZeros, hv]

theorem hasForm_of_keepToken {tokens : List String} {entry : Entry}
    (hw : ∀ token ∈ tokens, Text.IsWord token) (hn : tokens.length = 4)
    (h : readEntry keepToken line tokens = .ok entry) :
    Selection.ctxIdxInc.HasForm entry.fields := by
  have hf := (readEntry_eq_ok_iff.1 h).2
  rw [mapM_keepToken] at hf
  match tokens, hn with
  | [_, a, b, c], _ =>
    exact ⟨a, b, c, hw a (by simp), hw b (by simp), hw c (by simp), (Except.ok.inj hf).symm⟩

theorem areNumbers_of_readEntry {tokens : List String} {entry : Entry}
    (h : readEntry readValue line tokens = .ok entry) :
    AreNumbers entry.fields.length entry.fields :=
  areNumbers_of_mapM (readEntry_eq_ok_iff.1 h).2

theorem ctxIdxInc_hasForm {entries : List Entry} (h : ctxIdxInc line = .ok entries) :
    ∀ entry ∈ entries, Selection.ctxIdxInc.HasForm entry.fields := by
  obtain ⟨hn, first, second, h₁, h₂, rfl⟩ := readPair_eq_ok_iff.1 h
  have hw : ∀ token ∈ line.tokens, Text.IsWord token := fun _ => Text.isWord_of_mem_tokens
  intro entry he
  rcases List.mem_pair.1 he with rfl | rfl
  · exact hasForm_of_keepToken (fun t ht => hw t (List.mem_of_mem_take ht)) (by simp [hn]) h₁
  · exact hasForm_of_keepToken (fun t ht => hw t (List.mem_of_mem_drop ht)) (by simp [hn]) h₂

theorem rangeTabLps_hasForm {entries : List Entry} (h : rangeTabLps line = .ok entries) :
    ∀ entry ∈ entries, Selection.rangeTabLps.HasForm entry.fields := by
  have hwidth := readPair_width h
  obtain ⟨-, first, second, h₁, h₂, rfl⟩ := readPair_eq_ok_iff.1 h
  intro entry he
  have hn : AreNumbers entry.fields.length entry.fields := by
    rcases List.mem_pair.1 he with rfl | rfl
    · exact areNumbers_of_readEntry h₁
    · exact areNumbers_of_readEntry h₂
  rwa [hwidth entry he] at hn

theorem cabacInit_hasForm {entries : List Entry} (h : cabacInit line = .ok entries) :
    ∀ entry ∈ entries, Selection.cabacInit.HasForm entry.fields := by
  have hwidth := cabacInit_width h
  obtain ⟨-, -, first, h₁, h'⟩ := cabacInit_eq_ok_iff.1 h
  intro entry he
  have hn : AreNumbers entry.fields.length entry.fields := by
    rcases h' with ⟨-, rfl⟩ | ⟨-, second, h₂, rfl⟩
    · rw [List.mem_singleton.1 he]
      exact areNumbers_of_readEntry h₁
    · rcases List.mem_pair.1 he with rfl | rfl
      · exact areNumbers_of_readEntry h₁
      · exact areNumbers_fillWithZeros (areNumbers_of_readEntry h₂)
  rwa [hwidth entry he] at hn

end Grammar

theorem parse_hasForm {layout layout' : Layout} {line : Line} {entries : List Entry}
    (h : layout.parse line = .ok (entries, layout')) :
    ∀ entry ∈ entries, layout.selection.HasForm entry.fields := by
  have hread := Layout.grammar_of_parse h
  obtain ⟨selection, row⟩ := layout
  cases selection with
  | ctxIdxInc => exact Grammar.ctxIdxInc_hasForm hread
  | cabacInit => exact Grammar.cabacInit_hasForm hread
  | rangeTabLps => exact Grammar.rangeTabLps_hasForm hread
  | cavlc mode =>
    obtain ⟨entry, he, rfl⟩ := hread
    obtain ⟨hrow, rfl⟩ := Grammar.cavlc_eq_ok_iff.1 he
    exact List.forall_mem_singleton.2 ⟨line.cells, hrow, rfl⟩

/-- **The fields of a collected entry** have the form of the table. -/
theorem hasForm_of_mem_collect {selection : Selection} {raw : List String} {es : List Entry}
    (h : collect selection raw = .ok es) {entry : Entry} (he : entry ∈ es) :
    selection.HasForm entry.fields := by
  obtain ⟨-, rfl⟩ := collect_eq_ok_iff.1 h
  have hmem : entry ∈ selection.parsed raw := (sortEntries_perm _).mem_iff.1 he
  obtain ⟨r, hr, hin⟩ := List.mem_flatMap.1 hmem
  obtain ⟨before, after, hsel, hp⟩ := Layout.parse_of_mem_readings hr
  have hform := parse_hasForm hp entry hin
  rwa [hsel] at hform

end EntropyTables
