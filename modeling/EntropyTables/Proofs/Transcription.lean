import Mathlib.Data.List.TakeWhile
import Mathlib.Logic.Relation
import EntropyTables.Proofs.Retelling
/-!
# The noise of a transcription

Main statement: `collect_transcribed`. How the minus signs of a file are spelled and which blanks
stand at the ends of its lines changes nothing in what is collected. Other blanks between the tokens
change only the line that an error quotes, and blank lines change only the numbers of its lines.

The misdecoded minus sign is the only spelling of more than one character. No occurrence of it
overlaps another one or reaches over a blank, so a line may be cut before a character that does not
continue it (`mendMisdecoded_append`).
-/
namespace EntropyTables

namespace Text

/-! ## Blanks around and between words -/

def AllBlank (cs : List Char) : Prop := ∀ c ∈ cs, isBlank c = true

theorem allBlank_cons_iff {c : Char} {cs : List Char} :
    AllBlank (c :: cs) ↔ isBlank c = true ∧ AllBlank cs := List.forall_mem_cons

theorem AllBlank.reverse {cs : List Char} (h : AllBlank cs) : AllBlank cs.reverse :=
  fun c hc => h c (List.mem_reverse.1 hc)

theorem allBlank_takeWhile (cs : List Char) : AllBlank (cs.takeWhile isBlank) :=
  fun _ hc => List.mem_takeWhile_imp hc

theorem wordsFrom_append_cons {b : Char} (hb : isBlank b = true) (ys : List Char) :
    ∀ xs carry : List Char, wordsFrom carry (xs ++ b :: ys) = wordsFrom carry xs ++ words ys
  | [], carry => by by_cases h : carry = [] <;> simp [wordsFrom, hb, h, words]
  | x :: xs, carry => by
    have ih := wordsFrom_append_cons hb ys xs
    rw [List.cons_append, wordsFrom, wordsFrom]
    split
    · split <;> simp [ih]
    · exact ih (x :: carry)

/-- **A blank parts the words** before it from those after it. -/
theorem words_append_cons {b : Char} (hb : isBlank b = true) (xs ys : List Char) :
    words (xs ++ b :: ys) = words xs ++ words ys :=
  wordsFrom_append_cons hb ys xs []

theorem words_blanks_append {ws : List Char} (h : AllBlank ws) (cs : List Char) :
    words (ws ++ cs) = words cs := by
  induction ws with
  | nil => rfl
  | cons w ws ih =>
    obtain ⟨hw, h⟩ := allBlank_cons_iff.1 h
    rw [List.cons_append, words_cons_blank hw, ih h]

theorem words_append_blanks {ws : List Char} (h : AllBlank ws) (cs : List Char) :
    words (cs ++ ws) = words cs := by
  cases ws with
  | nil => rw [List.append_nil]
  | cons w ws =>
    obtain ⟨hw, h⟩ := allBlank_cons_iff.1 h
    have hnone : words ws = [] := by simpa using words_blanks_append h []
    rw [words_append_cons hw, hnone, List.append_nil]

theorem words_append_blanks_append {ws : List Char} (h : AllBlank ws) (hne : ws ≠ [])
    (xs ys : List Char) : words (xs ++ ws ++ ys) = words xs ++ words ys := by
  obtain ⟨w, ws, rfl⟩ := List.exists_cons_of_ne_nil hne
  obtain ⟨hw, h⟩ := allBlank_cons_iff.1 h
  rw [List.append_assoc, List.cons_append, words_append_cons hw, words_blanks_append h]

theorem eq_nil_of_wordsFrom_eq_nil : ∀ {cs carry : List Char}, wordsFrom carry cs = [] →
    carry = [] ∧ AllBlank cs
  | [], carry, h => by
    by_cases hc : carry = []
    · exact ⟨hc, by simp [AllBlank]⟩
    · simp [wordsFrom, hc] at h
  | c :: cs, carry, h => by
    rw [wordsFrom] at h
    split at h
    · next hb =>
      split at h
      · next hc => exact ⟨by simpa using hc, allBlank_cons_iff.2 ⟨hb, (eq_nil_of_wordsFrom_eq_nil h).2⟩⟩
      · cases h
    · exact absurd (eq_nil_of_wordsFrom_eq_nil h).1 (List.cons_ne_nil _ _)

/-- A text has no words exactly when all of it is blank. -/
theorem words_eq_nil_iff {cs : List Char} : words cs = [] ↔ AllBlank cs :=
  ⟨fun h => (eq_nil_of_wordsFrom_eq_nil h).2, fun h => by simpa using words_blanks_append h []⟩

/-! ## Trimming -/

theorem trimStart_blanks_append {ws : List Char} (h : AllBlank ws) (cs : List Char) :
    trimStart (ws ++ cs) = trimStart cs := by
  have hnil : ws.dropWhile isBlank = [] := dropWhile_eq_nil.2 h
  rw [trimStart, List.dropWhile_append, hnil]
  rfl

theorem trimEnd_append_blanks {ws : List Char} (h : AllBlank ws) (cs : List Char) :
    trimEnd (cs ++ ws) = trimEnd cs := by
  have hs := trimStart_blanks_append h.reverse cs.reverse
  unfold trimStart at hs
  rw [trimEnd, List.reverse_append, hs]
  rfl

theorem trimStart_append_blanks {ws : List Char} (h : AllBlank ws) (cs : List Char) :
    ∃ ws', AllBlank ws' ∧ trimStart (cs ++ ws) = trimStart cs ++ ws' := by
  rw [trimStart, List.dropWhile_append]
  split
  · next hc =>
    have hnil : ws.dropWhile isBlank = [] := dropWhile_eq_nil.2 h
    exact ⟨[], by simp [AllBlank], by simpa [hnil, trimStart] using hc⟩
  · exact ⟨ws, h, rfl⟩

theorem trim_surrounded {lead trail : List Char} (hl : AllBlank lead) (ht : AllBlank trail)
    (cs : List Char) : trim (lead ++ cs ++ trail) = trim cs := by
  obtain ⟨ws, hw, h⟩ := trimStart_append_blanks ht cs
  rw [trim, List.append_assoc, trimStart_blanks_append hl, h, trimEnd_append_blanks hw, trim]

theorem exists_trim (cs : List Char) :
    ∃ lead trail, AllBlank lead ∧ AllBlank trail ∧ cs = lead ++ trim cs ++ trail := by
  refine ⟨cs.takeWhile isBlank, ((trimStart cs).reverse.takeWhile isBlank).reverse,
    allBlank_takeWhile cs, (allBlank_takeWhile _).reverse, ?_⟩
  rw [trim, trimEnd, List.append_assoc, ← List.reverse_append, List.takeWhile_append_dropWhile,
    List.reverse_reverse, trimStart, List.takeWhile_append_dropWhile]

theorem words_trim (cs : List Char) : words (trim cs) = words cs := by
  obtain ⟨lead, trail, hl, ht, h⟩ := exists_trim cs
  conv_rhs => rw [h, words_append_blanks ht, words_blanks_append hl]

end Text

open Text (AllBlank isBlank words)

namespace Line

/-! ## Spellings of the minus sign -/

def misdecodedMinus : List Char := ['\u00e2', '\u02c6', '\u2019']

/-- The ways in which a transcription writes a minus sign. -/
def minusSpellings : List (List Char) := [['-'], ['\u2212'], misdecodedMinus]

def mend (cs : List Char) : List Char := mendMinus (mendMisdecoded cs)

theorem mendMisdecoded_cons {c : Char} {cs : List Char}
    (h : ∀ rest, c = '\u00e2' → cs ≠ '\u02c6' :: '\u2019' :: rest) :
    mendMisdecoded (c :: cs) = c :: mendMisdecoded cs := by
  rw [mendMisdecoded]
  exact fun rest hc hcs => h rest hc hcs

/-- The text may start in the middle of no misdecoded minus sign. -/
def StartsAfresh (cs : List Char) : Prop := ∀ c ∈ cs.head?, c ≠ '\u02c6' ∧ c ≠ '\u2019'

/-- **A text may be cut** before a character that continues no misdecoded minus sign. -/
theorem mendMisdecoded_append {ys : List Char} (h : StartsAfresh ys) (xs : List Char) :
    mendMisdecoded (xs ++ ys) = mendMisdecoded xs ++ mendMisdecoded ys := by
  fun_induction mendMisdecoded xs with
  | case1 cs ih => simp [mendMisdecoded, ih]
  | case2 c cs hne ih =>
    have hcut : ∀ rest, c = '\u00e2' → cs ++ ys ≠ '\u02c6' :: '\u2019' :: rest := by
      rintro rest rfl he
      match cs, hne, he with
      | [], _, he =>
        subst he
        exact (h '\u02c6' rfl).1 rfl
      | [d], _, he =>
        obtain ⟨rfl, rfl⟩ := List.cons.inj he
        exact (h '\u2019' rfl).2 rfl
      | d :: d' :: ds, hne, he =>
        simp only [List.cons_append, List.cons.injEq] at he
        exact hne ds rfl (by rw [he.1, he.2.1])
    rw [List.cons_append, mendMisdecoded_cons hcut, ih, List.cons_append]
  | case3 => rfl

theorem mend_append {ys : List Char} (h : StartsAfresh ys) (xs : List Char) :
    mend (xs ++ ys) = mend xs ++ mend ys := by
  rw [mend, mendMisdecoded_append h, mendMinus, List.map_append]
  rfl

/-- **Every spelling of the minus sign** is read as `-`, whatever stands around it. -/
theorem mend_spelling {spelling : List Char} (h : spelling ∈ minusSpellings) (pre post : List Char) :
    mend (pre ++ spelling ++ post) = mend pre ++ '-' :: mend post := by
  have hcut : StartsAfresh (spelling ++ post) := by
    simp only [minusSpellings, List.mem_cons, List.not_mem_nil, or_false] at h
    rcases h with rfl | rfl | rfl <;> simp [StartsAfresh, misdecodedMinus]
  rw [List.append_assoc, mend_append hcut]
  congr 1
  simp only [minusSpellings, List.mem_cons, List.not_mem_nil, or_false] at h
  rcases h with rfl | rfl | rfl <;> simp [misdecodedMinus, mend, mendMisdecoded, mendMinus]

/-! ## Blanks in a line -/

theorem startsAfresh_of_isBlank {b : Char} (hb : isBlank b = true) (cs : List Char) :
    StartsAfresh (b :: cs) := by
  rintro _ ⟨⟩
  constructor
  · rintro rfl; exact absurd hb (by decide)
  · rintro rfl; exact absurd hb (by decide)

/-- A character that starts no other spelling of the minus sign stays as it is. -/
theorem mend_cons {c : Char} (h₁ : c ≠ '\u00e2') (h₂ : c ≠ '\u2212') (cs : List Char) :
    mend (c :: cs) = c :: mend cs := by
  rw [mend, mendMisdecoded_cons fun _ h => absurd h h₁, mendMinus, List.map_cons, if_neg h₂]
  rfl

theorem mend_cons_blank {b : Char} (hb : isBlank b = true) (cs : List Char) :
    mend (b :: cs) = b :: mend cs := by
  have h₁ : b ≠ '\u00e2' := by rintro rfl; exact absurd hb (by decide)
  have h₂ : b ≠ '\u2212' := by rintro rfl; exact absurd hb (by decide)
  exact mend_cons h₁ h₂ cs

theorem mend_blanks_append {ws : List Char} (h : AllBlank ws) (cs : List Char) :
    mend (ws ++ cs) = ws ++ mend cs := by
  induction ws with
  | nil => rfl
  | cons w ws ih =>
    obtain ⟨hw, h⟩ := Text.allBlank_cons_iff.1 h
    rw [List.cons_append, mend_cons_blank hw, ih h, List.cons_append]

/-- Blanks stay as they are, and what stands before them is read by itself. -/
theorem mend_append_blanks_append {ws : List Char} (h : AllBlank ws) (hne : ws ≠ [])
    (xs ys : List Char) : mend (xs ++ ws ++ ys) = mend xs ++ ws ++ mend ys := by
  obtain ⟨w, ws', rfl⟩ := List.exists_cons_of_ne_nil hne
  have hcut : StartsAfresh (w :: ws' ++ ys) := startsAfresh_of_isBlank (h w (by simp)) _
  rw [List.append_assoc, List.append_assoc, mend_append hcut, mend_blanks_append h]

theorem mend_surrounded {lead trail : List Char} (hl : AllBlank lead) (ht : AllBlank trail)
    (cs : List Char) : mend (lead ++ cs ++ trail) = lead ++ mend cs ++ trail := by
  rw [List.append_assoc, mend_blanks_append hl, List.append_assoc]
  by_cases hne : trail = []
  · simp [hne]
  · have h := mend_append_blanks_append ht hne cs []
    rw [List.append_nil] at h
    rw [h]
    simp [mend, mendMisdecoded, mendMinus]

/-! ## Lines that differ by noise -/

/-- One change to a line that shows nowhere: a minus sign is spelled in another way, or blanks are
put at the ends of the line. -/
inductive Retyped : List Char → List Char → Prop
  | minus (pre post : List Char) {a b : List Char} (ha : a ∈ minusSpellings)
      (hb : b ∈ minusSpellings) : Retyped (pre ++ a ++ post) (pre ++ b ++ post)
  | blanks (cs : List Char) {lead trail : List Char} (hl : AllBlank lead) (ht : AllBlank trail) :
      Retyped cs (lead ++ cs ++ trail)

/-- One change to the blanks of a line: others stand in their place. -/
inductive Respaced : List Char → List Char → Prop
  | mk (pre post : List Char) {ws ws' : List Char} (h : AllBlank ws) (hne : ws ≠ [])
      (h' : AllBlank ws') (hne' : ws' ≠ []) : Respaced (pre ++ ws ++ post) (pre ++ ws' ++ post)

theorem Retyped.canonical_eq {a b : List Char} (h : Retyped a b) : canonical a = canonical b := by
  show Text.trim (mend a) = Text.trim (mend b)
  cases h with
  | minus pre post ha hb => rw [mend_spelling ha, mend_spelling hb]
  | blanks cs hl ht => rw [mend_surrounded hl ht, Text.trim_surrounded hl ht]

theorem Respaced.words_eq {a b : List Char} (h : Respaced a b) : words (mend a) = words (mend b) := by
  obtain ⟨pre, post, h, hne, h', hne'⟩ := h
  rw [mend_append_blanks_append h hne, mend_append_blanks_append h' hne',
    Text.words_append_blanks_append h hne, Text.words_append_blanks_append h' hne']

/-- An equation that one change of a line keeps is kept by any number of changes, back and forth. -/
theorem eq_of_eqvGen {α β : Type} {R : α → α → Prop} {F : α → β} (hF : ∀ a b, R a b → F a = F b)
    {a b : α} (h : Relation.EqvGen R a b) : F a = F b := by
  induction h with
  | rel a b h => exact hF a b h
  | refl a => rfl
  | symm a b _ ih => exact ih.symm
  | trans a b c _ _ ih₁ ih₂ => exact ih₁.trans ih₂

/-- The tokens of a line are the words of its mended text; a line without words is dropped. -/
theorem normalize_cases (raw : String) :
    (normalize raw = none ∧ words (mend raw.toList) = []) ∨
      ∃ text, normalize raw = some text ∧ words (mend raw.toList) ≠ [] ∧
        Text.tokens text = (words (mend raw.toList)).map String.ofList := by
  have hw : words (canonical raw.toList) = words (mend raw.toList) := Text.words_trim _
  have hnil : canonical raw.toList = [] ↔ words (mend raw.toList) = [] := by
    rw [Text.words_eq_nil_iff]
    exact Text.trim_eq_nil_iff
  by_cases hc : canonical raw.toList = []
  · exact .inl ⟨by simp [normalize, hc], hnil.1 hc⟩
  · refine .inr ⟨String.ofList (canonical raw.toList), by simp [normalize, hc], mt hnil.2 hc, ?_⟩
    rw [Text.tokens, String.toList_ofList, hw]

/-! ## Files that differ by noise -/

theorem ofRawFrom_retyped {raw raw' : List String}
    (h : List.Forall₂ (fun a b => Relation.EqvGen Retyped a.toList b.toList) raw raw') :
    ∀ start, ofRawFrom start raw' = ofRawFrom start raw := by
  induction h with
  | nil => exact fun _ => rfl
  | @cons a b raw raw' hab _ ih =>
    intro start
    have hc : canonical b.toList = canonical a.toList :=
      (eq_of_eqvGen (F := canonical) (fun _ _ => Retyped.canonical_eq) hab).symm
    rw [ofRawFrom_cons, ofRawFrom_cons, ih, normalize, normalize, hc]

theorem ofRawFrom_respaced {raw raw' : List String}
    (h : List.Forall₂ (fun a b => Relation.EqvGen Respaced a.toList b.toList) raw raw') :
    ∀ start, List.Forall₂ (Retold id fun _ => "") (ofRawFrom start raw) (ofRawFrom start raw') := by
  induction h with
  | nil => exact fun _ => .nil
  | @cons a b raw raw' hab _ ih =>
    intro start
    have hw : words (mend a.toList) = words (mend b.toList) :=
      eq_of_eqvGen (F := fun cs => words (mend cs)) (fun _ _ => Respaced.words_eq) hab
    rw [ofRawFrom_cons, ofRawFrom_cons]
    rcases normalize_cases a with ⟨ha, hwa⟩ | ⟨text, ha, hwa, hta⟩
    · rcases normalize_cases b with ⟨hb, -⟩ | ⟨text', hb, hwb, -⟩
      · rw [ha, hb]
        exact ih (start + 1)
      · exact absurd (hw ▸ hwa) hwb
    · rcases normalize_cases b with ⟨hb, hwb⟩ | ⟨text', hb, -, htb⟩
      · exact absurd (hw.trans hwb) hwa
      · rw [ha, hb]
        exact .cons ⟨htb.trans (hw ▸ hta.symm), rfl, rfl⟩ (ih (start + 1))

/-- The second file is the first with blank lines put in anywhere. The lines of the second are
counted from `start`, and `places` are the numbers there of the lines of the first. -/
inductive Interlined : Nat → List String → List String → List Nat → Prop
  | nil (start : Nat) : Interlined start [] [] []
  | keep {start : Nat} {raw raw' : List String} {places : List Nat} (text : String)
      (rest : Interlined (start + 1) raw raw' places) :
      Interlined start (text :: raw) (text :: raw') (start :: places)
  | blank {start : Nat} {raw raw' : List String} {places : List Nat} {text : String}
      (h : normalize text = none) (rest : Interlined (start + 1) raw raw' places) :
      Interlined start raw (text :: raw') places

/-- The lines of the first file stand in the second at their places. -/
theorem Interlined.ofRawFrom_eq {start : Nat} {raw raw' : List String} {places : List Nat}
    (h : Interlined start raw raw' places) : ∀ {k : Nat} {f : Nat → Nat},
      (∀ i (hi : i < places.length), f (k + i) = places[i]) →
        ofRawFrom start raw' = (ofRawFrom k raw).map (relocate f) := by
  induction h with
  | nil start => exact fun _ => rfl
  | @keep start raw raw' places text _ ih =>
    intro k f hf
    have hk : f k = start := hf 0 (by simp)
    rw [ofRawFrom_cons, ofRawFrom_cons, List.map_append, @ih (k + 1) f fun i hi => ?_]
    · cases normalize text with
      | none => rfl
      | some t => simp [relocate, hk]
    · have := hf (i + 1) (by simpa using hi)
      rw [Nat.add_assoc, Nat.add_comm 1 i]
      simpa using this
  | blank h _ ih =>
    intro k f hf
    rw [ofRawFrom_cons, h, ih hf]
    rfl

end Line

/-- **The noise of a transcription does not matter.** Spelling any minus signs in another way and
blanks at the ends of lines change nothing. Other blanks in the place of blanks leave a table as it
is, and an error as well, but for the line that it quotes. Blank lines put in anywhere leave a table
as it is, and an error as well, but that every line number is the number of the same line in the
new file. -/
theorem collect_transcribed (selection : Selection) (raw raw' : List String) :
    (List.Forall₂ (fun a b => Relation.EqvGen Line.Retyped a.toList b.toList) raw raw' →
      collect selection raw' = collect selection raw) ∧
    (List.Forall₂ (fun a b => Relation.EqvGen Line.Respaced a.toList b.toList) raw raw' →
      (collect selection raw').mapError (TableError.reword fun _ => "") =
        (collect selection raw).mapError (TableError.reword fun _ => "")) ∧
    ∀ places, Line.Interlined 1 raw raw' places →
      collect selection raw' =
        (collect selection raw).mapError (.relocate fun n => places.getD (n - 1) 0) := by
  refine ⟨fun h => ?_, fun h => ?_, fun places h => ?_⟩
  · have hl := Line.ofRawFrom_retyped h 1
    unfold collect Collection.ofRaw
    rw [Line.ofRaw_eq, Line.ofRaw_eq, hl]
  · exact collect_reworded selection (Line.ofRawFrom_respaced h 1)
  · refine collect_relocated selection (h.ofRawFrom_eq fun i hi => ?_)
    rw [Nat.add_sub_cancel_left]
    exact (List.getElem_eq_getD 0).symm

end EntropyTables
