import EntropyTables.Proofs.Collecting
/-!
# Order and packing of the lines

Main statement: `transform_perm`. The generated text of a table depends on the entries of its lines
only, not on the order in which they come or on the lines that hold them; a line that is refused
spoils the file wherever it stands. A table whose entries carry their own index reads each line by
itself (`parsed_eq_flatMap`), so moving its lines moves the entries of the file with them.
-/
namespace EntropyTables

namespace Selection

variable {selection : Selection}

/-- The entries of a line with the text, if the line is accepted. -/
def entriesIn (selection : Selection) (text : String) : List Entry :=
  match (Layout.fresh selection).parse ⟨0, text⟩ with
  | .ok (entries, _) => entries
  | .error _ => []

/-! ## Each line by itself -/

/-- Reading a line at another place gives the same entries, or another error. -/
theorem parse_text (selection : Selection) (line : Line) :
    (Layout.fresh selection).parse ⟨0, line.text⟩ =
      ((Layout.fresh selection).parse line).mapError (.relocate fun _ => 0) :=
  parse_relocate (.fresh selection) (fun _ => 0) line

/-- Only its text decides whether a line is accepted. -/
theorem accepts_iff_text (selection : Selection) (line : Line) :
    selection.Accepts line ↔ selection.Accepts ⟨0, line.text⟩ := by
  unfold Accepts
  rw [parse_text]
  cases (Layout.fresh selection).parse line <;> simp

theorem accepts_all_iff (selection : Selection) (raw : List String) :
    (∀ line ∈ Line.ofRaw raw, selection.Accepts line) ↔
      ∀ text ∈ raw.filterMap Line.normalize, selection.Accepts ⟨0, text⟩ := by
  rw [← Line.texts_ofRawFrom 1 raw, List.forall_mem_map]
  exact forall₂_congr fun line _ => accepts_iff_text selection line

theorem parse_unnumbered (h : selection.table ≠ .cavlc) {line : Line} {entries : List Entry}
    {layout' : Layout} (hp : (Layout.fresh selection).parse line = .ok (entries, layout')) :
    entries = selection.entriesIn line.text ∧ layout' = .fresh selection := by
  constructor
  · unfold entriesIn
    rw [parse_text, hp]
    rfl
  · obtain ⟨_, hn⟩ := (Layout.accepts_iff (.fresh selection) line).1 ⟨_, hp⟩
    rw [hp, Layout.next_eq_self h] at hn
    cases hn
    rfl

theorem entriesRead_readings (h : selection.table ≠ .cavlc) : ∀ lines : List Line,
    entriesRead ((Layout.fresh selection).readings lines) =
      lines.flatMap fun line => selection.entriesIn line.text
  | [] => rfl
  | line :: rest => by
    rw [List.flatMap_cons, ← entriesRead_readings h rest]
    cases hp : (Layout.fresh selection).parse line with
    | ok read =>
      obtain ⟨entries, layout'⟩ := read
      obtain ⟨rfl, rfl⟩ := parse_unnumbered h hp
      rw [Layout.readings_of_ok hp]
      rfl
    | error e =>
      rw [Layout.readings_of_error hp]
      unfold entriesIn
      rw [parse_text, hp]
      rfl

/-- **A file without row numbers reads text by text.** -/
theorem parsed_eq_flatMap (h : selection.table ≠ .cavlc) (raw : List String) :
    selection.parsed raw = (raw.filterMap Line.normalize).flatMap selection.entriesIn := by
  rw [← Line.texts_ofRawFrom 1 raw, List.flatMap_map]
  exact entriesRead_readings h (Line.ofRaw raw)

theorem parsed_perm (h : selection.table ≠ .cavlc) {raw raw' : List String} (hp : raw.Perm raw') :
    (selection.parsed raw).Perm (selection.parsed raw') := by
  rw [parsed_eq_flatMap h, parsed_eq_flatMap h]
  exact (hp.filterMap _).flatMap_right _

end Selection

/-! ## Zeros left out -/

/-- The second text is the first, or else it has zeros at its end that the second entry of the first
leaves out. -/
def WritesOutZeros (text text' : String) : Prop :=
  text' = text ∨ 10 ≤ (Text.tokens text).length ∧ (Text.tokens text').length ≤ 18 ∧
    ∃ k, Text.tokens text' = Text.tokens text ++ List.replicate k "0"

namespace Grammar

variable {line line' : Line}

theorem mapM_zeros : ∀ k : Nat,
    (List.replicate k "0").mapM (readValue line) = .ok (List.replicate k (.int 0))
  | 0 => rfl
  | k + 1 => by
    have hz : readValue line "0" = .ok (.int 0) := readValue_eq_ok_iff.2 ⟨0, by decide, rfl⟩
    rw [List.replicate_succ, List.mapM_cons, mapM_zeros k, hz]
    rfl

theorem readEntry_eq_ok_of_tokens {tokens : List String} {entry : Entry}
    (h : readEntry readValue line tokens = .ok entry) (line' : Line) :
    readEntry readValue line' tokens = .ok entry := by
  rw [readEntry_eq_ok_iff, mapM_eq_ok_iff] at h ⊢
  refine ⟨?_, h.2.imp fun token field hf => readValue_eq_ok_iff.2 (readValue_eq_ok_iff.1 hf)⟩
  have hi := h.1
  unfold readIndex at hi ⊢
  cases hr : Text.readInt64? (tokens.headD "").toList with
  | none => rw [hr] at hi; cases hi
  | some index => rw [hr] at hi; exact hi

/-- Zeros at the end of an entry are zeros at the end of its fields. -/
theorem readEntry_append_zeros {tokens : List String} {entry : Entry} (k : Nat)
    (hne : tokens ≠ []) :
    readEntry readValue line (tokens ++ List.replicate k "0") = .ok entry ↔ ∃ written,
      readEntry readValue line tokens = .ok written ∧
        entry = ⟨written.index, written.fields ++ List.replicate k (.int 0)⟩ := by
  obtain ⟨token, tokens, rfl⟩ := List.exists_cons_of_ne_nil hne
  simp only [readEntry_eq_ok_iff, List.cons_append, List.headD_cons, List.tail_cons,
    List.mapM_append, mapM_zeros, bind_eq_ok_iff]
  constructor
  · rintro ⟨hi, fields, hf, _, ⟨⟩, h⟩
    exact ⟨⟨entry.index, fields⟩, ⟨hi, hf⟩, congrArg (Entry.mk entry.index) (Except.ok.inj h).symm⟩
  · rintro ⟨written, ⟨hi, hf⟩, rfl⟩
    exact ⟨hi, written.fields, hf, _, rfl, rfl⟩

/-- A line that goes into a second entry has two, and the second is filled up. -/
theorem cabacInit_two {entries : List Entry} (hlo : 10 ≤ line.tokens.length)
    (hhi : line.tokens.length ≤ 18) :
    cabacInit line = .ok entries ↔ ∃ first second,
      readEntry readValue line (line.tokens.take 9) = .ok first ∧
        readEntry readValue line (line.tokens.drop 9) = .ok second ∧
          entries = [first, fillWithZeros second] := by
  rw [cabacInit_eq_ok_iff]
  constructor
  · rintro ⟨-, -, first, h₁, ⟨h9, -⟩ | ⟨-, second, h₂, rfl⟩⟩
    · omega
    · exact ⟨first, second, h₁, h₂, rfl⟩
  · rintro ⟨first, second, h₁, h₂, rfl⟩
    exact ⟨by omega, hhi, first, h₁, .inr ⟨by omega, second, h₂, rfl⟩⟩

/-- Zeros that fit into the width of the table are filled in anyway. -/
theorem fillWithZeros_append {entry : Entry} {k : Nat} (h : entry.fields.length + k ≤ cabacWidth) :
    fillWithZeros ⟨entry.index, entry.fields ++ List.replicate k (.int 0)⟩ = fillWithZeros entry := by
  simp only [fillWithZeros, List.append_assoc, List.replicate_append_replicate, List.length_append,
    List.length_replicate]
  rw [show k + (cabacWidth - (entry.fields.length + k)) = cabacWidth - entry.fields.length by omega]

/-- **Zeros at the end of a second entry** may be written or left out. -/
theorem cabacInit_zeros {entries : List Entry} {k : Nat}
    (ht : line'.tokens = line.tokens ++ List.replicate k "0") (hlo : 10 ≤ line.tokens.length)
    (hhi : line'.tokens.length ≤ 18) : cabacInit line' = .ok entries ↔ cabacInit line = .ok entries := by
  have hlen : line'.tokens.length = line.tokens.length + k := by simp [ht]
  have hne : line.tokens.drop 9 ≠ [] := by
    rw [ne_eq, List.drop_eq_nil_iff]
    omega
  have hfill : ∀ second, readEntry readValue line (line.tokens.drop 9) = .ok second →
      second.fields.length + k ≤ cabacWidth := by
    intro second h
    rw [length_fields_of_readEntry h, List.length_drop]
    show _ ≤ 8
    omega
  rw [cabacInit_two (by omega) hhi, cabacInit_two hlo (by omega), ht,
    List.take_append_of_le_length (by omega), List.drop_append_of_le_length (by omega)]
  constructor
  · rintro ⟨first, _, h₁, h₂, rfl⟩
    obtain ⟨second, h, rfl⟩ := (readEntry_append_zeros k hne).1 (readEntry_eq_ok_of_tokens h₂ line)
    rw [fillWithZeros_append (hfill second h)]
    exact ⟨first, second, readEntry_eq_ok_of_tokens h₁ line, h, rfl⟩
  · rintro ⟨first, second, h₁, h₂, rfl⟩
    rw [← fillWithZeros_append (hfill second h₂)]
    exact ⟨first, _, readEntry_eq_ok_of_tokens h₁ line',
      (readEntry_append_zeros k hne).2 ⟨second, readEntry_eq_ok_of_tokens h₂ line', rfl⟩, rfl⟩

end Grammar

theorem entriesIn_cabacInit (text : String) :
    Selection.cabacInit.entriesIn text = (Grammar.cabacInit ⟨0, text⟩).toOption.getD [] := by
  have hp : (Layout.fresh .cabacInit).parse ⟨0, text⟩ =
      (Grammar.cabacInit ⟨0, text⟩).map (·, Layout.fresh .cabacInit) :=
    Layout.parse_grammar _ _
  unfold Selection.entriesIn
  rw [hp]
  cases Grammar.cabacInit ⟨0, text⟩ <;> rfl

theorem WritesOutZeros.entriesIn_eq {text text' : String} (h : WritesOutZeros text text') :
    Selection.cabacInit.entriesIn text' = Selection.cabacInit.entriesIn text := by
  rcases h with rfl | ⟨hlo, hhi, k, ht⟩
  · rfl
  · have key : ∀ entries, Grammar.cabacInit ⟨0, text'⟩ = .ok entries ↔
        Grammar.cabacInit ⟨0, text⟩ = .ok entries :=
      fun entries => Grammar.cabacInit_zeros ht hlo hhi
    rw [entriesIn_cabacInit, entriesIn_cabacInit]
    cases h : Grammar.cabacInit ⟨0, text⟩ with
    | ok entries => rw [(key entries).2 h]
    | error e =>
      cases h' : Grammar.cabacInit ⟨0, text'⟩ with
      | ok entries => rw [(key entries).1 h'] at h; cases h
      | error e' => rfl

theorem parsed_zeros {raw raw' : List String}
    (h : List.Forall₂ WritesOutZeros (raw.filterMap Line.normalize)
      (raw'.filterMap Line.normalize)) :
    Selection.cabacInit.parsed raw' = Selection.cabacInit.parsed raw := by
  have hne : Selection.cabacInit.table ≠ .cavlc := by decide
  rw [Selection.parsed_eq_flatMap hne, Selection.parsed_eq_flatMap hne]
  generalize raw.filterMap Line.normalize = texts at h
  generalize raw'.filterMap Line.normalize = texts' at h
  induction h with
  | nil => rfl
  | cons hw _ ih => rw [List.flatMap_cons, List.flatMap_cons, hw.entriesIn_eq, ih]

/-! ## The generated text -/

/-- Whether a file is complete depends on the entries, once its lines are accepted. -/
theorem Selection.Complete.of_perm {selection : Selection} {raw raw' : List String}
    (h : selection.Complete raw) (hacc : ∀ line ∈ Line.ofRaw raw', selection.Accepts line)
    (hp : (selection.parsed raw).Perm (selection.parsed raw')) : selection.Complete raw' := by
  have hi := hp.map Entry.index
  exact ⟨hacc, hi.nodup_iff.1 h.distinct, fun hsel i => hi.mem_iff.symm.trans (h.full hsel i)⟩

/-- Accepted files with the same entries have one collected table, or none. -/
theorem collect_perm {selection : Selection} {raw raw' : List String}
    (hacc : ∀ line ∈ Line.ofRaw raw', selection.Accepts line)
    (hp : (selection.parsed raw).Perm (selection.parsed raw')) {es : List Entry}
    (h : collect selection raw = .ok es) : collect selection raw' = .ok es := by
  obtain ⟨hc, rfl⟩ := collect_eq_ok_iff.1 h
  refine collect_eq_ok_iff.2 ⟨hc.of_perm hacc hp, ?_⟩
  exact eq_sortEntries ((sortEntries_perm _).trans hp) (sortEntries_ascending hc.distinct)

theorem transform_eq_ok_iff {selection : Selection} {raw : List String} {text : String} :
    transform selection raw = .ok text ↔
      ∃ es, collect selection raw = .ok es ∧ selection.render es = text := map_eq_ok_iff

/-- **Order and packing do not matter.** Two files whose lines are all accepted and hold the same
entries, in any order and on any lines, both fail or both give the same text. A file with a line
that is refused fails in every order of its lines.

Moving the lines of a table whose entries carry their index moves the entries, and the zeros at the
end of the second entry of a CABAC initialization line may be written or left out. -/
theorem transform_perm (selection : Selection) :
    (∀ raw raw', (∀ line ∈ Line.ofRaw raw, selection.Accepts line) →
      (∀ line ∈ Line.ofRaw raw', selection.Accepts line) →
      (selection.parsed raw).Perm (selection.parsed raw') →
      ((∃ e, transform selection raw = .error e) ∧ ∃ e, transform selection raw' = .error e) ∨
        ∃ text, transform selection raw = .ok text ∧ transform selection raw' = .ok text) ∧
    (∀ raw raw' : List String, raw.Perm raw' → (∃ line ∈ Line.ofRaw raw, ¬ selection.Accepts line) →
      ∃ e, transform selection raw' = .error e) ∧
    (selection.table ≠ .cavlc → ∀ raw raw' : List String, raw.Perm raw' →
      (selection.parsed raw).Perm (selection.parsed raw')) ∧
    (selection = .cabacInit → ∀ raw raw',
      List.Forall₂ WritesOutZeros (raw.filterMap Line.normalize) (raw'.filterMap Line.normalize) →
      selection.parsed raw' = selection.parsed raw) := by
  refine ⟨fun raw raw' hacc hacc' hp => ?_, fun raw raw' hp => ?_,
    fun h _ _ => Selection.parsed_perm h, ?_⟩
  · cases h : collect selection raw with
    | ok es =>
      refine .inr ⟨selection.render es, transform_eq_ok_iff.2 ⟨es, h, rfl⟩, ?_⟩
      exact transform_eq_ok_iff.2 ⟨es, collect_perm hacc' hp h, rfl⟩
    | error e =>
      cases h' : collect selection raw' with
      | ok es => rw [collect_perm hacc hp.symm h'] at h; cases h
      | error e' => exact .inl ⟨⟨e, by rw [transform, h]; rfl⟩, e', by rw [transform, h']; rfl⟩
  · rintro ⟨line, hmem, hn⟩
    cases h : transform selection raw' with
    | error e => exact ⟨e, rfl⟩
    | ok text =>
      obtain ⟨es, hes, -⟩ := transform_eq_ok_iff.1 h
      have hacc := (selection.accepts_all_iff raw').1 (collect_eq_ok_iff.1 hes).1.accepted
      refine absurd ((selection.accepts_all_iff raw).2 (fun text ht => ?_) line hmem) hn
      exact hacc text ((hp.filterMap _).mem_iff.1 ht)
  · rintro rfl _ _ h
    exact parsed_zeros h

end EntropyTables
