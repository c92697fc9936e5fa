import EntropyTables.Proofs.CavlcLines
import EntropyTables.Proofs.EntryLines
import EntropyTables.Proofs.Gathering
import EntropyTables.Proofs.QuotedText
/-!
# The messages of errors

The message of an error opens with words of its variant, whose third letter alone tells the variants
apart (`getElem?_message`). A number ends at the first character that no number holds, and a quoted
text is read from the end, so a message gives back all that its error holds.

The reasons that the grammars give quote the token at fault (`printable_complaint`), so no message
of a run writes a control character of the table or of an answer.

Main statement: `message_faithful`.
-/
namespace EntropyTables

open Text (Printable decimal quoted printable_append not_mem_decimal decimal_inj)

namespace TableError

def isIo : TableError → Bool
  | .io .. => true
  | _ => false

/-! ## What a message says -/

theorem message_malformedLine (n : Nat) (line reason : String) :
    (malformedLine n line reason).message =
      "malformed line " ++ (decimal n ++ ": " ++ (reason ++ ": " ++ quoted line)) := by
  show "malformed line " ++ decimal n ++ ": " ++ reason ++ ": " ++ quoted line = _
  simp only [String.append_assoc]

theorem message_duplicateIndex (index : Int) (line first : Nat) :
    (duplicateIndex index line first).message = "duplicate index " ++
      (decimal index ++ " on line " ++ (decimal line ++ " (first seen on line " ++
        (decimal first ++ ")"))) := by
  show "duplicate index " ++ decimal index ++ " on line " ++ decimal line
    ++ " (first seen on line " ++ decimal first ++ ")" = _
  simp only [String.append_assoc]

theorem message_missingIndex (index : Int) :
    (missingIndex index).message = "missing index " ++ decimal index := rfl

theorem message_indexOutOfRange (index : Int) (line domain : Nat) :
    (indexOutOfRange index line domain).message = "index " ++
      (decimal index ++ " on line " ++ (decimal line ++ " is outside 0.." ++ decimal domain)) := by
  show "index " ++ decimal index ++ " on line " ++ decimal line ++ " is outside 0.."
    ++ decimal domain = _
  simp only [String.append_assoc]

theorem message_invalidChoice (input : String) : (invalidChoice input).message =
    "invalid choice " ++ (quoted input ++ ", expected 1 or 2") := by
  show "invalid choice " ++ quoted input ++ ", expected 1 or 2" = _
  rw [String.append_assoc]

theorem message_io (activity : Activity) (path : Path) (fault : Fault) :
    (io activity path fault).message =
      "failed to " ++ (activity.phrase ++ " " ++ path.text ++ ": " ++ fault.message) := by
  show "failed to " ++ activity.phrase ++ " " ++ path.text ++ ": " ++ fault.message = _
  simp only [String.append_assoc]

def thirdLetter : TableError → Char
  | .malformedLine .. => 'l'
  | .duplicateIndex .. => 'p'
  | .missingIndex .. => 's'
  | .indexOutOfRange .. => 'd'
  | .invalidChoice .. => 'v'
  | .io .. => 'i'

theorem getElem?_message (e : TableError) : e.message.toList[2]? = some e.thirdLetter := by
  have hwords : ∀ {words : String} {letter : Char}, words.toList[2]? = some letter →
      ∀ rest : String, (words ++ rest).toList[2]? = some letter := by
    intro words letter h rest
    rw [String.toList_append, List.getElem?_append_left (List.getElem?_eq_some_iff.1 h).1, h]
  cases e with
  | malformedLine => rw [message_malformedLine]; exact hwords rfl _
  | duplicateIndex => rw [message_duplicateIndex]; exact hwords rfl _
  | missingIndex => rw [message_missingIndex]; exact hwords rfl _
  | indexOutOfRange => rw [message_indexOutOfRange]; exact hwords rfl _
  | invalidChoice => rw [message_invalidChoice]; exact hwords rfl _
  | io => rw [message_io]; exact hwords rfl _

/-! ## Messages of one variant -/

/-- A number before a mark that no number holds, and what follows the mark. -/
theorem decimal_append_inj {mark rest rest' : String} {n n' : Int} (d : Char)
    (hmark : mark.toList.head? = some d) (hd : ¬ (d = '-' ∨ d = '+' ∨ d.isDigit = true))
    (h : decimal n ++ mark ++ rest = decimal n' ++ mark ++ rest') : n = n' ∧ rest = rest' := by
  obtain ⟨hn, hrest⟩ := eq_of_append_cut hmark (not_mem_decimal hd n) (not_mem_decimal hd n') h
  exact ⟨decimal_inj.1 hn, hrest⟩

/-- **A malformed line**: the line is quoted at the end of the message, and the reason is what
stands between it and the number. -/
theorem malformedLine_inj {n n' : Nat} {line line' reason reason' : String}
    (h : (malformedLine n line reason).message = (malformedLine n' line' reason').message) :
    malformedLine n line reason = malformedLine n' line' reason' := by
  rw [message_malformedLine, message_malformedLine, String.append_right_inj] at h
  obtain ⟨hn, hrest⟩ := decimal_append_inj ':' (by decide) (by decide) h
  obtain ⟨rfl, rfl⟩ := Text.eq_of_append_quoted hrest
  rw [Int.ofNat_inj.1 hn]

theorem duplicateIndex_inj {index index' : Int} {line line' first first' : Nat}
    (h : (duplicateIndex index line first).message =
      (duplicateIndex index' line' first').message) :
    duplicateIndex index line first = duplicateIndex index' line' first' := by
  rw [message_duplicateIndex, message_duplicateIndex, String.append_right_inj] at h
  obtain ⟨hindex, h⟩ := decimal_append_inj ' ' (by decide) (by decide) h
  obtain ⟨hline, h⟩ := decimal_append_inj ' ' (by decide) (by decide) h
  have hfirst := decimal_inj.1 ((String.append_left_inj _).1 h)
  rw [hindex, Int.ofNat_inj.1 hline, Int.ofNat_inj.1 hfirst]

theorem missingIndex_inj {index index' : Int}
    (h : (missingIndex index).message = (missingIndex index').message) :
    missingIndex index = missingIndex index' := by
  rw [message_missingIndex, message_missingIndex, String.append_right_inj] at h
  rw [decimal_inj.1 h]

theorem indexOutOfRange_inj {index index' : Int} {line line' domain domain' : Nat}
    (h : (indexOutOfRange index line domain).message =
      (indexOutOfRange index' line' domain').message) :
    indexOutOfRange index line domain = indexOutOfRange index' line' domain' := by
  rw [message_indexOutOfRange, message_indexOutOfRange, String.append_right_inj] at h
  obtain ⟨hindex, h⟩ := decimal_append_inj ' ' (by decide) (by decide) h
  obtain ⟨hline, hdomain⟩ := decimal_append_inj ' ' (by decide) (by decide) h
  rw [hindex, Int.ofNat_inj.1 hline, Int.ofNat_inj.1 (decimal_inj.1 hdomain)]

theorem invalidChoice_inj {input input' : String}
    (h : (invalidChoice input).message = (invalidChoice input').message) :
    invalidChoice input = invalidChoice input' := by
  rw [message_invalidChoice, message_invalidChoice, String.append_right_inj,
    String.append_left_inj] at h
  rw [Text.quoted_inj h]

/-- **A message determines its error**, unless the system refused. -/
theorem eq_of_message_eq {e e' : TableError} (he : e.isIo = false) (h : e.message = e'.message) :
    e = e' := by
  have hletter : e.thirdLetter = e'.thirdLetter := by
    rw [← Option.some_inj, ← getElem?_message, ← getElem?_message, h]
  cases e with
  | malformedLine =>
    cases e' with
    | malformedLine => exact malformedLine_inj h
    | _ => exact absurd hletter (by simp [thirdLetter])
  | duplicateIndex =>
    cases e' with
    | duplicateIndex => exact duplicateIndex_inj h
    | _ => exact absurd hletter (by simp [thirdLetter])
  | missingIndex =>
    cases e' with
    | missingIndex => exact missingIndex_inj h
    | _ => exact absurd hletter (by simp [thirdLetter])
  | indexOutOfRange =>
    cases e' with
    | indexOutOfRange => exact indexOutOfRange_inj h
    | _ => exact absurd hletter (by simp [thirdLetter])
  | invalidChoice =>
    cases e' with
    | invalidChoice => exact invalidChoice_inj h
    | _ => exact absurd hletter (by simp [thirdLetter])
  | io => cases he

/-! ## Messages that can be printed -/

theorem printable_message {e : TableError} (he : e.isIo = false)
    (hreason : ∀ n line reason, e = .malformedLine n line reason → Printable reason) :
    Printable e.message := by
  cases e with
  | malformedLine n line reason =>
    have hwords : Printable "malformed line " ∧ Printable ": " := by decide
    simp [message_malformedLine, hwords, hreason n line reason rfl]
  | duplicateIndex =>
    have hwords : Printable "duplicate index " ∧ Printable " on line " ∧
        Printable " (first seen on line " ∧ Printable ")" := by decide
    simp [message_duplicateIndex, hwords]
  | missingIndex =>
    have hwords : Printable "missing index " := by decide
    simp [message_missingIndex, hwords]
  | indexOutOfRange =>
    have hwords : Printable "index " ∧ Printable " on line " ∧ Printable " is outside 0.." := by
      decide
    simp [message_indexOutOfRange, hwords]
  | invalidChoice =>
    have hwords : Printable "invalid choice " ∧ Printable ", expected 1 or 2" := by decide
    simp [message_invalidChoice, hwords]
  | io => cases he

theorem printable_malformed (line : Line) {reason : String} (h : Printable reason) :
    Printable (Grammar.malformed line reason).message :=
  printable_message rfl fun _ _ _ he => (malformedLine.inj he).2.2 ▸ h

end TableError

open TableError (printable_malformed printable_message)

namespace Grammar

/-- **A complaint about a token can be printed**, whatever characters the token holds. -/
theorem printable_complaint (column : Column) (token : String) :
    Printable (column.complaint token) := by
  have hwords : ∀ {words : String}, Printable words → Printable (words ++ quoted token) :=
    fun h => printable_append.2 ⟨h, Text.printable_quoted token⟩
  cases column with
  | index => exact hwords (show Printable "invalid index " by decide)
  | value => exact hwords (show Printable "invalid value " by decide)
  | word => exact show Printable "" by decide
  | pattern => exact hwords (show Printable "invalid bit pattern " by decide)

theorem printable_fault? {column : Nat → Column} {tokens : List String} {reason : String}
    (h : fault? column tokens = some reason) : Printable reason := by
  induction tokens generalizing column with
  | nil => cases h
  | cons token rest ih =>
    rw [fault?] at h
    split_ifs at h
    · exact ih h
    · cases h
      exact printable_complaint _ _

section

variable {α : Type} {line : Line} {x : Except TableError α} {e : TableError}

theorem Follows.printable {column : Nat → Column} {tokens : List String}
    (h : Follows line (fault? column tokens) x) (he : x = .error e) : Printable e.message := by
  cases hf : fault? column tokens with
  | none =>
    rw [hf] at h
    obtain ⟨a, ha⟩ := h
    cases ha.symm.trans he
  | some reason =>
    rw [hf] at h
    cases he.symm.trans h
    exact printable_malformed line (printable_fault? hf)

end

variable {line : Line} {e : TableError}

theorem FieldReader.printable_readPair {column : Column}
    {readField : Line → String → Except TableError Field} (hr : FieldReader column readField)
    {width : Nat} (he : readPair width readField line = .error e) : Printable e.message := by
  by_cases hn : line.tokens.length = 2 * (1 + width)
  · exact (hr.follows_readPair hn).printable he
  · have hwords : Printable "expected " ∧ Printable " tokens, found " := by decide
    cases he.symm.trans ((hr.readsPairs_readPair width).miscounted line hn)
    exact printable_malformed line (by simp [hwords])

theorem printable_cabacInit (he : cabacInit line = .error e) : Printable e.message := by
  by_cases hn : line.tokens.length < 9 ∨ 18 < line.tokens.length
  · have hwords : Printable "expected 9 to 18 tokens, found " := by decide
    cases he.symm.trans (cabacInit_of_miscounted hn)
    exact printable_malformed line (by simp [hwords])
  · exact (cabacInit_follows (by omega) (by omega)).printable he

theorem printable_cavlc {row : Int} (he : cavlc row line = .error e) : Printable e.message := by
  by_cases hn : line.cells.length < 2
  · have hwords : Printable "expected at least 2 tokens, found " := by decide
    cases he.symm.trans (cavlc_of_miscounted row hn)
    exact printable_malformed line (by simp [hwords])
  · exact (cavlc_follows row (by omega)).printable he

end Grammar

theorem printable_parse {layout : Layout} {line : Line} {e : TableError}
    (he : layout.parse line = .error e) : Printable e.message := by
  rw [Layout.parse_grammar] at he
  split at he
  · exact Grammar.fieldReader_keepToken.printable_readPair (map_eq_error_iff.1 he)
  · exact Grammar.printable_cabacInit (map_eq_error_iff.1 he)
  · exact Grammar.fieldReader_readValue.printable_readPair (map_eq_error_iff.1 he)
  · exact Grammar.printable_cavlc (map_eq_error_iff.1 he)

theorem FaultAt.printable {layout : Layout} {domain : Option Nat} {history : List (Entry × Nat)}
    {line : Line} {e : TableError} (h : FaultAt layout domain history line e) :
    Printable e.message := by
  cases h with
  | malformed parse => exact printable_parse parse
  | refused _ _ refused =>
    cases refused with
    | repeated => exact printable_message rfl nofun
    | outside => exact printable_message rfl nofun

/-- **What a reading reports can be printed**, whatever the raw lines hold. -/
theorem printable_collect {selection : Selection} {raw : List String} {e : TableError}
    (he : collect selection raw = .error e) : Printable e.message := by
  rcases collect_cases selection raw with ⟨-, -, h⟩ | ⟨-, _, _, -, h, -, -⟩ |
    ⟨before, text, after, line, fault, rfl, -, hf, h⟩
  · cases he.symm.trans h
  · cases he.symm.trans h
    exact printable_message rfl nofun
  · cases he.symm.trans (h after)
    exact hf.fault.printable

/-- **Messages are unambiguous and safe to print.** Two errors of the same message are the same
error, unless the system refused. What is reported of a table or of an answer holds no control
character of ASCII, whatever the lines and the answer hold. -/
theorem message_faithful :
    (∀ e e' : TableError, e.isIo = false → e'.isIo = false → e.message = e'.message → e = e') ∧
    (∀ selection raw e, collect selection raw = .error e →
      ∀ c ∈ e.message.toList, 0x20 ≤ c.toNat ∧ c.toNat ≠ 0x7F) ∧
    ∀ answer e, CavlcMode.ofChoice answer = .error e →
      ∀ c ∈ e.message.toList, 0x20 ≤ c.toNat ∧ c.toNat ≠ 0x7F := by
  refine ⟨fun e e' he _ h => TableError.eq_of_message_eq he h,
    fun selection raw e he => printable_collect he, fun answer e he => ?_⟩
  unfold CavlcMode.ofChoice at he
  dsimp only at he
  split_ifs at he
  cases he
  exact printable_message rfl nofun

/-- A line that holds what looks like the end of a message is quoted. -/
example : (TableError.malformedLine 1 "a: \"b" "c").message =
    "malformed line 1: c: \"a: \\\"b\"" := by
  decide +kernel

end EntropyTables
