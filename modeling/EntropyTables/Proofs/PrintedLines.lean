import EntropyTables.Proofs.CellRows
import EntropyTables.Proofs.EntryLines
import EntropyTables.Proofs.NormalForm
/-!
# Printed lines read back

An entry of numbers is printed as its tokens. A line of such tokens, transcribed with any blanks
between them and any spelling of its minus signs, has the same tokens again
(`Line.Transcribes.normalize`), and a number reads back from its decimal text (`makes_printed`).

Main statement: `cabacInit_printed`.
-/
namespace EntropyTables

open Text (AllBlank IsNumeral words)

/-! ## Lines of given tokens -/

/-- The text has the tokens one after the other, with blanks between any two. -/
inductive Text.Spaced : List String → List Char → Prop
  | last (token : String) : Spaced [token] token.toList
  | more (token : String) {ws text : List Char} {tokens : List String} (blank : AllBlank ws)
      (nonempty : ws ≠ []) (rest : Spaced tokens text) :
      Spaced (token :: tokens) (token.toList ++ ws ++ text)

/-- The raw line is written of the tokens, with its minus signs in any of their spellings. -/
def Line.Transcribes (raw : String) (tokens : List String) : Prop :=
  ∃ text, Text.Spaced tokens text ∧ Relation.EqvGen Line.Retyped text raw.toList

theorem Text.spaced_intercalate : ∀ {tokens : List String}, tokens ≠ [] →
    Text.Spaced tokens (" ".intercalate tokens).toList
  | [token], _ => by simpa using .last token
  | token :: next :: tokens, _ => by
    have hrest : Text.Spaced (next :: tokens) (" ".intercalate (next :: tokens)).toList :=
      Text.spaced_intercalate (List.cons_ne_nil _ _)
    have hspace : AllBlank [' '] := by simp [AllBlank, show Text.isBlank ' ' = true by decide]
    rw [String.intercalate_cons_cons, String.toList_append, String.toList_append]
    exact .more token hspace (by simp) hrest

/-- The token is a numeral that holds something. -/
def IsNumeralToken (token : String) : Prop := token ≠ "" ∧ IsNumeral token.toList

theorem isNumeralToken_decimal (n : Int) : IsNumeralToken (Text.decimal n) := by
  constructor
  · rintro h
    have hread : Text.readInt? (Text.decimal n).toList = some n := by
      rw [Text.decimal, String.toList_ofList, Text.readInt?_ofInt]
    rw [h] at hread
    cases hread
  · rw [Text.decimal, String.toList_ofList]
    exact Text.isNumeral_ofInt n

theorem IsNumeralToken.words_mend {token : String} (h : IsNumeralToken token) :
    words (Line.mend token.toList) = [token.toList] := by
  rw [Line.mend_of_unspelled (Line.unspelled_of_isNumeral h.2)]
  refine Text.words_of_not_blank (fun c hc => (Render.isCell_of_isNumeral h.2 c hc).2) ?_
  simpa using h.1

/-- The words of a text of numerals are the numerals. -/
theorem Text.Spaced.words_mend {tokens : List String} {text : List Char}
    (h : Text.Spaced tokens text) (hnum : ∀ token ∈ tokens, IsNumeralToken token) :
    words (Line.mend text) = tokens.map String.toList := by
  induction h with
  | last token => exact (hnum token List.mem_cons_self).words_mend
  | @more token ws text tokens blank nonempty _ ih =>
    obtain ⟨htoken, hrest⟩ := List.forall_mem_cons.1 hnum
    rw [Line.mend_append_blanks_append blank nonempty,
      Text.words_append_blanks_append blank nonempty, htoken.words_mend, ih hrest]
    rfl

/-- **A transcribed line of numerals** is kept, and its tokens are the numerals. -/
theorem Line.Transcribes.normalize {raw : String} {tokens : List String}
    (h : Line.Transcribes raw tokens) (hnum : ∀ token ∈ tokens, IsNumeralToken token) :
    ∃ text, Line.normalize raw = some text ∧ Text.tokens text = tokens := by
  obtain ⟨spaced, hs, hraw⟩ := h
  have hwords : words (Line.mend raw.toList) = tokens.map String.toList := by
    have hcanonical : Line.canonical spaced = Line.canonical raw.toList :=
      Line.eq_of_eqvGen (F := Line.canonical) (fun _ _ => Line.Retyped.canonical_eq) hraw
    calc words (Line.mend raw.toList)
      _ = words (Line.canonical raw.toList) := (Text.words_trim _).symm
      _ = words (Line.canonical spaced) := by rw [hcanonical]
      _ = words (Line.mend spaced) := Text.words_trim _
      _ = tokens.map String.toList := hs.words_mend hnum
  have hne : tokens ≠ [] := by cases hs <;> simp
  rcases Line.normalize_cases raw with ⟨-, hnone⟩ | ⟨text, hkept, -, htokens⟩
  · rw [hwords, List.map_eq_nil_iff] at hnone
    exact absurd hnone hne
  · refine ⟨text, hkept, ?_⟩
    rw [htokens, hwords, List.map_map]
    simp [Function.comp_def]

/-! ## Printed entries -/

namespace Entry

def printed (entry : Entry) : List String :=
  Text.decimal entry.index :: entry.fields.map Field.toText

/-- The entry has so many fields. Its index and all its fields are signed 64-bit numbers. -/
structure IsNumeric (width : Nat) (entry : Entry) : Prop where
  index : Text.isInt64 entry.index = true
  length_fields : entry.fields.length = width
  numbers : ∀ field ∈ entry.fields, ∃ value, field = .int value ∧ Text.isInt64 value = true

def trailingZeros (entry : Entry) : Nat :=
  (entry.fields.reverse.takeWhile (· == .int 0)).length

def withoutLast (count : Nat) (entry : Entry) : Entry :=
  { entry with fields := entry.fields.take (entry.fields.length - count) }

variable {entry : Entry} {width count : Nat}

theorem IsNumeric.withoutLast (h : entry.IsNumeric width) (count : Nat) :
    (entry.withoutLast count).IsNumeric (width - count) where
  index := h.index
  length_fields := by
    simp only [Entry.withoutLast, List.length_take, h.length_fields]
    omega
  numbers field hfield := h.numbers field (List.mem_of_mem_take hfield)

theorem isNumeric_of_values {index : Int} {values : List Int} (hindex : Text.isInt64 index = true)
    (hwidth : values.length = width) (hvalues : ∀ value ∈ values, Text.isInt64 value = true) :
    IsNumeric width ⟨index, values.map .int⟩ where
  index := hindex
  length_fields := (List.length_map _).trans hwidth
  numbers field hfield := by
    obtain ⟨value, hvalue, rfl⟩ := List.mem_map.1 hfield
    exact ⟨value, rfl, hvalues value hvalue⟩

theorem IsNumeric.length_printed (h : entry.IsNumeric width) :
    entry.printed.length = 1 + width := by
  simp [printed, h.length_fields, Nat.add_comm]

theorem IsNumeric.isNumeralToken (h : entry.IsNumeric width) :
    ∀ token ∈ entry.printed, IsNumeralToken token := by
  refine List.forall_mem_cons.2 ⟨isNumeralToken_decimal _, fun token ht => ?_⟩
  obtain ⟨field, hfield, rfl⟩ := List.mem_map.1 ht
  obtain ⟨value, rfl, -⟩ := h.numbers field hfield
  exact isNumeralToken_decimal value

/-- **A printed entry makes itself again.** -/
theorem IsNumeric.makes_printed (h : entry.IsNumeric width) :
    Grammar.Makes .value entry.printed entry where
  index := ⟨_, rfl, by simpa [Text.decimal] using Text.readInt64?_ofInt h.index⟩
  fields := by
    refine List.forall₂_map_left_iff.2 (List.forall₂_same.2 fun field hfield => ?_)
    obtain ⟨value, rfl, hvalue⟩ := h.numbers field hfield
    exact .number (by simpa [Field.toText, Text.decimal] using Text.readInt64?_ofInt hvalue)

theorem trailingZeros_le (entry : Entry) : entry.trailingZeros ≤ entry.fields.length := by
  have hle := (List.takeWhile_prefix (l := entry.fields.reverse) (· == .int 0)).length_le
  rwa [List.length_reverse] at hle

/-- Zeros that are left out at the end of an entry can be filled in again. -/
theorem fields_withoutLast_append (h : count ≤ entry.trailingZeros) :
    (entry.withoutLast count).fields ++ List.replicate count (.int 0) = entry.fields := by
  have hle : count ≤ entry.fields.length := h.trans entry.trailingZeros_le
  have hlast : entry.fields.drop (entry.fields.length - count) = List.replicate count (.int 0) := by
    refine List.eq_replicate_iff.2 ⟨by rw [List.length_drop]; omega, fun field hfield => ?_⟩
    -- The last fields are the first ones from the end.
    have hends : entry.fields.reverse.take count <+:
        entry.fields.reverse.takeWhile (· == .int 0) :=
      List.prefix_of_prefix_length_le (List.take_prefix _ _) (List.takeWhile_prefix _)
        ((List.length_take_le _ _).trans h)
    rw [← List.mem_reverse, ← List.take_reverse] at hfield
    simpa using List.mem_takeWhile_imp (hends.subset hfield)
  rw [← hlast]
  exact List.take_append_drop _ _

end Entry

/-- **A printed line is read as what was printed.** The line of one entry of eight numbers is kept
and read as that entry. A second entry may follow, without any number of the zeros at its end, and
is read in full. Any blanks may part the tokens, and minus signs may have any spelling. -/
theorem cabacInit_printed {a : Entry} (ha : a.IsNumeric 8) (number : Nat) :
    (∀ raw, Line.Transcribes raw a.printed → ∃ text, Line.normalize raw = some text ∧
      Grammar.cabacInit ⟨number, text⟩ = .ok [a]) ∧
    ∀ b : Entry, b.IsNumeric 8 → ∀ count ≤ b.trailingZeros, ∀ raw,
      Line.Transcribes raw (a.printed ++ (b.withoutLast count).printed) →
        ∃ text, Line.normalize raw = some text ∧
          Grammar.cabacInit ⟨number, text⟩ = .ok [a, b] := by
  have hlen := ha.length_printed
  constructor
  · intro raw hraw
    obtain ⟨text, hkept, htokens⟩ := hraw.normalize ha.isNumeralToken
    refine ⟨text, hkept, ?_⟩
    have hline : (⟨number, text⟩ : Line).tokens = a.printed := htokens
    rw [Grammar.cabacInit_eq_ok_iff_makes (by rw [hline]; omega) (by rw [hline]; omega), hline]
    refine ⟨a, ?_, .inl ⟨hlen, rfl⟩⟩
    rw [List.take_of_length_le (by omega)]
    exact ha.makes_printed
  · intro b hb count hcount raw hraw
    have hcut := hb.withoutLast count
    have hlen' := hcut.length_printed
    have hle : count ≤ 8 := hcount.trans (hb.length_fields ▸ b.trailingZeros_le)
    obtain ⟨text, hkept, htokens⟩ := hraw.normalize
      (List.forall_mem_append.2 ⟨ha.isNumeralToken, hcut.isNumeralToken⟩)
    refine ⟨text, hkept, ?_⟩
    have hline : (⟨number, text⟩ : Line).tokens = a.printed ++ (b.withoutLast count).printed :=
      htokens
    have hn : (⟨number, text⟩ : Line).tokens.length = 18 - count := by
      rw [hline, List.length_append]
      omega
    rw [Grammar.cabacInit_eq_ok_iff_makes (by omega) (by omega), hn, hline,
      List.take_left' hlen, List.drop_left' hlen]
    refine ⟨a, ha.makes_printed, .inr ⟨by omega, b.withoutLast count, hcut.makes_printed, ?_⟩⟩
    rw [Nat.sub_sub_self (by omega), Entry.fields_withoutLast_append hcount]
    rfl

/-- The second line holds both ends of the signed range, leaves out seven zeros, and spells its
first minus sign as U+2212 and its last one as its misdecoded characters. -/
theorem cabacInit_printed_range :
    let a : Entry := ⟨-9223372036854775808, [9223372036854775807, -1, 0, 2, -3, 4, -5, 0].map .int⟩
    let b : Entry := ⟨9223372036854775807, [-6, 0, 0, 0, 0, 0, 0, 0].map .int⟩
    let single := "-9223372036854775808 9223372036854775807 -1 0 2 -3 4 -5 0"
    let double := "\u22129223372036854775808 9223372036854775807 -1 0 2 -3 4 -5 0"
      ++ " 9223372036854775807 \u00e2\u02c6\u20196"
    a.IsNumeric 8 ∧ b.IsNumeric 8 ∧ 7 ≤ b.trailingZeros ∧
    Line.Transcribes single a.printed ∧
    Line.Transcribes double (a.printed ++ (b.withoutLast 7).printed) ∧
    (∃ text, Line.normalize single = some text ∧ Grammar.cabacInit ⟨1, text⟩ = .ok [a]) ∧
    ∃ text, Line.normalize double = some text ∧ Grammar.cabacInit ⟨1, text⟩ = .ok [a, b] := by
  intro a b single double
  have ha : a.IsNumeric 8 := Entry.isNumeric_of_values (by decide) rfl (by decide)
  have hb : b.IsNumeric 8 := Entry.isNumeric_of_values (by decide) rfl (by decide)
  have hzeros : 7 ≤ b.trailingZeros := by decide
  have hsingle : Line.Transcribes single a.printed := by
    have htext : (" ".intercalate a.printed).toList = single.toList := by decide +kernel
    refine ⟨_, Text.spaced_intercalate (List.cons_ne_nil _ _), ?_⟩
    rw [htext]
    exact .refl _
  have hdouble : Line.Transcribes double (a.printed ++ (b.withoutLast 7).printed) := by
    let tokens := a.printed ++ (b.withoutLast 7).printed
    let tail :=
      "9223372036854775808 9223372036854775807 -1 0 2 -3 4 -5 0 9223372036854775807 ".toList
    have hprinted : (" ".intercalate tokens).toList = [] ++ ['-'] ++ (tail ++ ['-', '6']) := by
      decide +kernel
    have hlast :
        [] ++ ['\u2212'] ++ (tail ++ ['-', '6']) = ('\u2212' :: tail) ++ ['-'] ++ ['6'] := by
      simp
    have hraw : double.toList = ('\u2212' :: tail) ++ Line.misdecodedMinus ++ ['6'] := by
      decide +kernel
    have htokens : tokens ≠ [] := List.append_ne_nil_of_left_ne_nil (List.cons_ne_nil _ _) _
    refine ⟨_, Text.spaced_intercalate htokens, ?_⟩
    rw [hprinted, hraw]
    refine .trans _ ([] ++ ['\u2212'] ++ (tail ++ ['-', '6'])) _ (.rel _ _ ?_) (.rel _ _ ?_)
    · exact .minus [] _ (by decide) (by decide)
    · rw [hlast]
      exact .minus _ ['6'] (by decide) (by decide)
  have hread := cabacInit_printed ha 1
  exact ⟨ha, hb, hzeros, hsingle, hdouble, hread.1 single hsingle,
    hread.2 b hb 7 hzeros double hdouble⟩

end EntropyTables
