import EntropyTables.Proofs.Columns
/-!
# Lines of entries

Three of the four grammars read one or two entries from a line, each of an index and so many fields.
`Makes` says which entry tokens make, and `pairColumn` where the two indices stand.

Main statements: `readsPairs_ctxIdxInc_rangeTabLps` (lines of two entries) and
`cabacInit_by_columns` (lines whose second entry may be absent or cut short).
-/
namespace EntropyTables.Grammar

open Text (decimal)

/-! ## One entry -/

/-- The field that a token makes in a column of fields. -/
inductive Column.Holds : Column → String → Field → Prop
  | number {token : String} {value : Int} (spells : Text.readInt64? token.toList = some value) :
      Holds .value token (.int value)
  | word (token : String) : Holds .word token (.text token)

/-- The tokens make the entry: the first is its index, and the others are its fields in order. -/
structure Makes (column : Column) (tokens : List String) (entry : Entry) : Prop where
  index : ∃ token, tokens.head? = some token ∧ Text.readInt64? token.toList = some entry.index
  fields : List.Forall₂ column.Holds tokens.tail entry.fields

/-- The reader makes the fields of the column. -/
structure FieldReader (column : Column) (readField : Line → String → Except TableError Field) :
    Prop where
  eq_ok_iff : ∀ line token field, readField line token = .ok field ↔ column.Holds token field
  follows : ∀ line token, Follows line (fault? (fun _ => column) [token]) (readField line token)

theorem fieldReader_readValue : FieldReader .value readValue where
  eq_ok_iff line token field := by
    rw [readValue_eq_ok_iff]
    constructor
    · rintro ⟨value, h, rfl⟩; exact .number h
    · rintro ⟨h⟩; exact ⟨_, h, rfl⟩
  follows _ := follows_readValue

theorem fieldReader_keepToken : FieldReader .word keepToken where
  eq_ok_iff line token field := by
    constructor
    · rintro ⟨⟩; exact .word token
    · rintro ⟨⟩; rfl
  follows _ := follows_keepToken

theorem readIndex_eq_ok_iff {line : Line} {token : String} {index : Int} :
    readIndex line token = .ok index ↔ Text.readInt64? token.toList = some index := by
  unfold readIndex
  cases Text.readInt64? token.toList <;> simp

section

variable {column : Column} {readField : Line → String → Except TableError Field}
  {line : Line} {tokens : List String}

theorem FieldReader.readEntry_eq_ok_iff (hr : FieldReader column readField) {entry : Entry} :
    readEntry readField line tokens = .ok entry ↔ Makes column tokens entry := by
  have hfields : tokens.tail.mapM (readField line) = .ok entry.fields ↔
      List.Forall₂ column.Holds tokens.tail entry.fields := by
    rw [mapM_eq_ok_iff]
    simp only [hr.eq_ok_iff]
  rw [Grammar.readEntry_eq_ok_iff, readIndex_eq_ok_iff, hfields]
  cases tokens with
  | nil =>
    -- The empty text is no number, so no index is read where there is no token.
    have hempty : Text.readInt64? "".toList = none := by decide
    constructor
    · rintro ⟨hindex, -⟩
      cases hempty.symm.trans hindex
    · rintro ⟨⟨token, hhead, -⟩, -⟩
      cases hhead
  | cons token rest =>
    constructor
    · rintro ⟨hindex, hrest⟩
      exact ⟨⟨token, rfl, hindex⟩, hrest⟩
    · rintro ⟨⟨token, hhead, hindex⟩, hrest⟩
      cases hhead
      exact ⟨hindex, hrest⟩

/-- An entry is read by its columns: the index first, then the fields. -/
theorem FieldReader.follows_readEntry (hr : FieldReader column readField) {columns : Nat → Column}
    (hne : tokens ≠ []) (hindex : columns 0 = .index)
    (hfields : ∀ i, i + 1 < tokens.length → columns (i + 1) = column) :
    Follows line (fault? columns tokens) (readEntry readField line tokens) := by
  obtain ⟨token, rest, rfl⟩ := List.exists_cons_of_ne_nil hne
  have hrest : fault? (fun i => columns (i + 1)) rest = fault? (fun _ => column) rest :=
    fault?_congr fun i hi => hfields i (Nat.succ_lt_succ hi)
  have hsplit : fault? columns (token :: rest) =
      (fault? (fun _ => .index) [token]).or (fault? (fun _ => column) rest) := by
    rw [← hrest, fault?, fault?, hindex]
    split <;> rfl
  rw [hsplit]
  exact (follows_readIndex token).bind fun index =>
    (Follows.mapM (hr.follows line) rest).bind_ok fun fields => ⟨⟨index, fields⟩, rfl⟩

/-! ## Two entries -/

/-- The columns of a line of two entries, each of an index and `width` fields. -/
def pairColumn (width : Nat) (column : Column) (i : Nat) : Column :=
  if i = 0 ∨ i = 1 + width then .index else column

variable {width : Nat}

theorem FieldReader.follows_first (hr : FieldReader column readField) (hne : tokens ≠ []) :
    Follows line (fault? (pairColumn width column) (tokens.take (1 + width)))
      (readEntry readField line (tokens.take (1 + width))) := by
  refine hr.follows_readEntry (by simp [hne]) (if_pos (.inl rfl)) fun i hi => if_neg ?_
  rw [List.length_take] at hi
  omega

/-- The second entry of a line, which may be cut short. -/
theorem FieldReader.follows_second (hr : FieldReader column readField)
    (hlo : 1 + width < tokens.length) :
    Follows line
      (fault? (fun i => pairColumn width column (1 + width + i)) (tokens.drop (1 + width)))
      (readEntry readField line (tokens.drop (1 + width))) := by
  refine hr.follows_readEntry ?_ (if_pos (.inr rfl)) fun i hi => if_neg (by omega)
  rw [Ne, List.drop_eq_nil_iff]
  omega

/-- The grammar reads lines of two entries, each of an index and `width` fields. A line with another
count of tokens is malformed. The tokens of any other line are read by their columns; each half of
them makes one entry. -/
structure ReadsPairs (width : Nat) (column : Column)
    (grammar : Line → Except TableError (List Entry)) : Prop where
  miscounted : ∀ line, line.tokens.length ≠ 2 * (1 + width) →
    grammar line = .error (.malformedLine line.number line.text
      ("expected " ++ decimal (2 * (1 + width) : Nat) ++ " tokens, found "
        ++ decimal line.tokens.length))
  byColumn : ∀ line, line.tokens.length = 2 * (1 + width) →
    ReadsByColumn line (pairColumn width column) line.tokens (grammar line)
  entries : ∀ line entries, line.tokens.length = 2 * (1 + width) →
    (grammar line = .ok entries ↔ ∃ first second, entries = [first, second] ∧
      Makes column (line.tokens.take (1 + width)) first ∧
      Makes column (line.tokens.drop (1 + width)) second)

theorem FieldReader.follows_readPair (hr : FieldReader column readField)
    (hn : line.tokens.length = 2 * (1 + width)) :
    Follows line (fault? (pairColumn width column) line.tokens)
      (readPair width readField line) := by
  have hne : line.tokens ≠ [] := List.ne_nil_of_length_pos (by omega)
  unfold readPair
  simp only [hn, ↓reduceIte]
  rw [fault?_cut (n := 1 + width) (by omega)]
  exact (hr.follows_first hne).bind fun first =>
    (hr.follows_second (by omega)).bind_ok fun second => ⟨[first, second], rfl⟩

theorem FieldReader.readsPairs_readPair (hr : FieldReader column readField) (width : Nat) :
    ReadsPairs width column (readPair width readField) where
  miscounted line hn := by
    unfold readPair
    simp only [hn, ↓reduceIte]
    rfl
  byColumn _ hn := (hr.follows_readPair hn).readsByColumn
  entries line entries hn := by
    rw [readPair_eq_ok_iff]
    simp only [hr.readEntry_eq_ok_iff]
    constructor
    · rintro ⟨-, first, second, h₁, h₂, rfl⟩; exact ⟨first, second, rfl, h₁, h₂⟩
    · rintro ⟨first, second, rfl, h₁, h₂⟩; exact ⟨hn, first, second, h₁, h₂, rfl⟩

end

/-- **Lines of two entries.** ctxIdxInc reads twice an index and three words, rangeTabLPS twice an
index and four numbers. -/
theorem readsPairs_ctxIdxInc_rangeTabLps :
    ReadsPairs 3 .word ctxIdxInc ∧ ReadsPairs 4 .value rangeTabLps :=
  ⟨fieldReader_keepToken.readsPairs_readPair 3, fieldReader_readValue.readsPairs_readPair 4⟩

/-! ## One entry or two -/

theorem cabacInit_of_miscounted {line : Line}
    (h : line.tokens.length < 9 ∨ 18 < line.tokens.length) :
    cabacInit line = .error (.malformedLine line.number line.text
      ("expected 9 to 18 tokens, found " ++ decimal line.tokens.length)) := by
  have hcount : ¬ (1 + cabacWidth ≤ line.tokens.length ∧
      line.tokens.length ≤ 2 * (1 + cabacWidth)) := by
    simp only [cabacWidth]
    omega
  have hreason : "expected " ++ decimal (1 + cabacWidth : Nat) ++ " to "
      ++ decimal (2 * (1 + cabacWidth) : Nat) ++ " tokens, found " =
        "expected 9 to 18 tokens, found " := by decide
  unfold cabacInit
  rw [← hreason]
  exact if_neg hcount

theorem cabacInit_of_counted {line : Line} (hlo : 9 ≤ line.tokens.length)
    (hhi : line.tokens.length ≤ 18) :
    cabacInit line = readEntry readValue line (line.tokens.take 9) >>= fun first =>
      if line.tokens.length = 9 then .ok [first]
      else readEntry readValue line (line.tokens.drop 9) >>= fun second =>
        .ok [first, fillWithZeros second] := by
  unfold cabacInit
  exact if_pos ⟨hlo, hhi⟩

theorem cabacInit_follows {line : Line} (hlo : 9 ≤ line.tokens.length)
    (hhi : line.tokens.length ≤ 18) :
    Follows line (fault? (pairColumn 8 .value) line.tokens) (cabacInit line) := by
  have hne : line.tokens ≠ [] := List.ne_nil_of_length_pos (by omega)
  have hfirst : Follows line (fault? (pairColumn 8 .value) (line.tokens.take 9))
      (readEntry readValue line (line.tokens.take 9)) :=
    fieldReader_readValue.follows_first hne
  rw [cabacInit_of_counted hlo hhi, fault?_cut hlo]
  refine hfirst.bind fun first => ?_
  by_cases h9 : line.tokens.length = 9
  · rw [if_pos h9, List.drop_eq_nil_of_le (by omega)]
    exact ⟨[first], rfl⟩
  · have hsecond : Follows line (fault? (fun i => pairColumn 8 .value (9 + i)) (line.tokens.drop 9))
        (readEntry readValue line (line.tokens.drop 9)) :=
      fieldReader_readValue.follows_second (by omega)
    rw [if_neg h9]
    exact hsecond.bind_ok fun second => ⟨[first, fillWithZeros second], rfl⟩

theorem fillWithZeros_eq {entry : Entry} {n : Nat} (h : entry.fields.length = n - 10)
    (hlo : 9 < n) :
    fillWithZeros entry = ⟨entry.index, entry.fields ++ List.replicate (18 - n) (.int 0)⟩ := by
  unfold fillWithZeros
  rw [h]
  congr 3
  simp only [cabacWidth]
  omega

theorem fillWithZeros_eq_self {entry : Entry} (h : entry.fields.length = cabacWidth) :
    fillWithZeros entry = entry := by
  simp [fillWithZeros, h]

theorem cabacInit_eq_ok_iff_makes {line : Line} (hlo : 9 ≤ line.tokens.length)
    (hhi : line.tokens.length ≤ 18) {entries : List Entry} :
    cabacInit line = .ok entries ↔ ∃ first, Makes .value (line.tokens.take 9) first ∧
      (line.tokens.length = 9 ∧ entries = [first] ∨
        9 < line.tokens.length ∧ ∃ second, Makes .value (line.tokens.drop 9) second ∧
          entries = [first, ⟨second.index,
            second.fields ++ List.replicate (18 - line.tokens.length) (.int 0)⟩]) := by
  rw [cabacInit_eq_ok_iff]
  simp only [fieldReader_readValue.readEntry_eq_ok_iff, hlo, hhi, true_and]
  have hmore : line.tokens.length ≠ 9 ↔ 9 < line.tokens.length := by omega
  rw [hmore]
  refine exists_congr fun first => and_congr_right fun _ => or_congr_right ?_
  refine and_congr_right fun h9 => exists_congr fun second => and_congr_right fun h₂ => ?_
  have hlen : second.fields.length = line.tokens.length - 10 := by
    rw [← h₂.fields.length_eq, List.length_tail, List.length_drop]
    omega
  rw [fillWithZeros_eq hlen h9]

/-! ## Reading by position -/

/-- The tokens before and from a position, unless the position lies beyond their end. -/
def cutAt? (n : Nat) (tokens : List String) : Option (List String × List String) :=
  if n ≤ tokens.length then some (tokens.take n, tokens.drop n) else none

/-- An entry whose tokens are looked up by their positions. There must be one for the index, while a
value without a token is zero. -/
def entryByPosition? (line : Line) (tokens : List String) : Option (Except TableError Entry) :=
  tokens[0]?.map fun token => do
    let index ← readIndex line token
    let fields ← (List.range cabacWidth).mapM fun i =>
      (tokens[1 + i]?).elim (.ok (.int 0)) (readValue line)
    return ⟨index, fields⟩

/-- The grammar of CABAC initialization with its tokens looked up by their positions. It comes to
nothing (`none`) if a position that must have a token has none. -/
def cabacInitByPosition? (line : Line) : Option (Except TableError (List Entry)) :=
  let tokens := line.tokens
  if tokens.length < 9 ∨ 18 < tokens.length then
    some (.error (malformed line ("expected 9 to 18 tokens, found " ++ decimal tokens.length)))
  else do
    let (first, rest) ← cutAt? 9 tokens
    match ← entryByPosition? line first with
    | .error e => some (.error e)
    | .ok a =>
      if rest.isEmpty then some (.ok [a])
      else (entryByPosition? line rest).map fun b => b.map ([a, ·])

/-- **An entry looked up by position** is the entry read in order, with zeros for what it lacks. -/
theorem entryByPosition?_eq {line : Line} {tokens : List String} (hne : tokens ≠ [])
    (hn : tokens.length ≤ 1 + cabacWidth) :
    entryByPosition? line tokens =
      some ((readEntry readValue line tokens).map fillWithZeros) := by
  obtain ⟨token, rest, rfl⟩ := List.exists_cons_of_ne_nil hne
  have hlookup : (List.range cabacWidth).mapM (fun i =>
      ((token :: rest)[1 + i]?).elim (.ok (.int 0)) (readValue line)) =
        (rest.mapM (readValue line)).map
          (· ++ List.replicate (cabacWidth - rest.length) (.int 0)) := by
    rw [List.length_cons] at hn
    rw [← mapM_range_getElem? (by omega)]
    simp only [Nat.add_comm 1, List.getElem?_cons_succ]
  unfold entryByPosition? readEntry
  rw [List.getElem?_cons_zero, Option.map_some, hlookup, List.headD_cons, List.tail_cons]
  congr 1
  cases readIndex line token with
  | error e => rfl
  | ok index =>
    cases hrest : rest.mapM (readValue line) with
    | error e => rfl
    | ok fields =>
      have hlen := length_of_mapM_ok hrest
      simp [fillWithZeros, hlen]

/-- **No position is asked for that a line does not have.** -/
theorem cabacInitByPosition?_eq (line : Line) :
    cabacInitByPosition? line = some (cabacInit line) := by
  unfold cabacInitByPosition?
  dsimp only
  by_cases hcount : line.tokens.length < 9 ∨ 18 < line.tokens.length
  · rw [if_pos hcount, cabacInit_of_miscounted hcount]
    rfl
  · have hlo : 9 ≤ line.tokens.length := by omega
    have hhi : line.tokens.length ≤ 18 := by omega
    have hfirst : (line.tokens.take 9).length = 9 := by
      rw [List.length_take]
      omega
    have hne : line.tokens.take 9 ≠ [] := List.ne_nil_of_length_pos (by omega)
    rw [if_neg hcount, cabacInit_of_counted hlo hhi, cutAt?, if_pos hlo, Option.bind_eq_bind,
      Option.bind_some, entryByPosition?_eq hne (Nat.le_of_eq hfirst)]
    cases h₁ : readEntry readValue line (line.tokens.take 9) with
    | error e => rfl
    | ok first =>
      have hwidth : first.fields.length = cabacWidth := by
        rw [length_fields_of_readEntry h₁, hfirst]
        rfl
      simp only [map_ok, Option.bind_eq_bind, Option.bind_some, fillWithZeros_eq_self hwidth,
        ok_bind]
      by_cases h9 : line.tokens.length = 9
      · rw [if_pos h9, if_pos (by simp [h9])]
      · have hrest : line.tokens.drop 9 ≠ [] := by
          rw [Ne, List.drop_eq_nil_iff]
          omega
        have hlen : (line.tokens.drop 9).length ≤ 1 + cabacWidth := by
          rw [List.length_drop, cabacWidth]
          omega
        rw [if_neg h9, if_neg (by simpa using hrest), entryByPosition?_eq hrest hlen]
        cases readEntry readValue line (line.tokens.drop 9) <;> rfl

/-- **Lines of one or two entries**, where the second may be cut short. A line of fewer than nine or
more than eighteen tokens is malformed. The tokens of any other line are read by their columns. The
first nine make an entry, and the others, if there are any, make another one, which has zeros for
the values that it lacks. Every error is about the line, and no token is looked up where the line
has none. -/
theorem cabacInit_by_columns (line : Line) :
    let tokens := line.tokens
    let n := tokens.length
    (n < 9 ∨ 18 < n → cabacInit line = .error (.malformedLine line.number line.text
      ("expected 9 to 18 tokens, found " ++ decimal n))) ∧
    (9 ≤ n → n ≤ 18 →
      ReadsByColumn line (pairColumn 8 .value) tokens (cabacInit line) ∧
      ∀ entries, cabacInit line = .ok entries ↔ ∃ first, Makes .value (tokens.take 9) first ∧
        (n = 9 ∧ entries = [first] ∨ 9 < n ∧ ∃ second, Makes .value (tokens.drop 9) second ∧
          entries = [first, ⟨second.index, second.fields ++ List.replicate (18 - n) (.int 0)⟩])) ∧
    BlamesLine line (cabacInit line) ∧
    cabacInitByPosition? line = some (cabacInit line) := by
  refine ⟨cabacInit_of_miscounted, fun hlo hhi => ⟨?_, fun entries => ?_⟩, cabacInit_blames,
    cabacInitByPosition?_eq line⟩
  · exact (cabacInit_follows hlo hhi).readsByColumn
  · exact cabacInit_eq_ok_iff_makes hlo hhi

end EntropyTables.Grammar
