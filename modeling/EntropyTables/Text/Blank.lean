/-!
# Blank characters, trimming and words

`isBlank` is the Unicode White_Space property. `trim` drops blanks from both ends of a text and
`words` cuts a text into its maximal runs of other characters.

Main statements: `trim_eq_nil_iff` (a text trims to nothing exactly when it is blank throughout),
`words_cons_blank` and `words_append_blank` (one word at a time).
-/
namespace EntropyTables.Text

/-- The ranges of the Unicode White_Space property, in ascending order. -/
def blankRanges : List (Nat × Nat) :=
  [(0x09, 0x0D), (0x20, 0x20), (0x85, 0x85), (0xA0, 0xA0), (0x1680, 0x1680), (0x2000, 0x200A),
   (0x2028, 0x2029), (0x202F, 0x202F), (0x205F, 0x205F), (0x3000, 0x3000)]

/-- The code point lies in one of the ranges, ends included. -/
def inRanges (ranges : List (Nat × Nat)) (n : Nat) : Bool :=
  ranges.any fun r => r.1 ≤ n && n ≤ r.2

theorem inRanges_of_mem {ranges : List (Nat × Nat)} {r : Nat × Nat} (h : r ∈ ranges) {n : Nat}
    (hl : r.1 ≤ n) (hr : n ≤ r.2) : inRanges ranges n = true :=
  List.any_eq_true.2 ⟨r, h, by simp [hl, hr]⟩

def isBlank (c : Char) : Bool := inRanges blankRanges c.toNat

/-! ## Trimming -/

def trimStart (cs : List Char) : List Char := cs.dropWhile isBlank

def trimEnd (cs : List Char) : List Char := (cs.reverse.dropWhile isBlank).reverse

def trim (cs : List Char) : List Char := trimEnd (trimStart cs)

theorem dropWhile_eq_nil {p : Char → Bool} {cs : List Char} :
    cs.dropWhile p = [] ↔ ∀ c ∈ cs, p c = true := by
  induction cs with
  | nil => simp
  | cons c cs ih => by_cases h : p c = true <;> simp [h, ih]

theorem head_dropWhile {p : Char → Bool} {cs rest : List Char} {c : Char}
    (h : cs.dropWhile p = c :: rest) : p c = false := by
  induction cs with
  | nil => simp at h
  | cons a cs ih =>
    by_cases ha : p a = true
    · exact ih (by simpa [ha] using h)
    · simp only [List.dropWhile_cons, ha] at h
      simp_all

/-- A text trims to nothing exactly when all its characters are blank. -/
theorem trim_eq_nil_iff {cs : List Char} : trim cs = [] ↔ ∀ c ∈ cs, isBlank c = true := by
  have step : trim cs = [] ↔ trimStart cs = [] := by
    constructor
    · intro h
      simp only [trim, trimEnd, List.reverse_eq_nil_iff, dropWhile_eq_nil, List.mem_reverse] at h
      cases hs : trimStart cs with
      | nil => rfl
      | cons a as =>
        have ha : isBlank a = true := h a (by simp [hs])
        have hb : isBlank a = false := head_dropWhile hs
        simp [hb] at ha
    · intro h; simp [trim, trimEnd, h]
  rw [step, trimStart, dropWhile_eq_nil]

/-! ## Words -/

/-- The words of a text whose current word, read backwards, is `carry`. -/
def wordsFrom (carry : List Char) : List Char → List (List Char)
  | [] => if carry.isEmpty then [] else [carry.reverse]
  | c :: cs =>
    if isBlank c then
      if carry.isEmpty then wordsFrom [] cs else carry.reverse :: wordsFrom [] cs
    else wordsFrom (c :: carry) cs

/-- The maximal runs of characters that are not blank, in order. -/
def words (cs : List Char) : List (List Char) := wordsFrom [] cs

@[simp] theorem words_nil : words [] = [] := rfl

/-- A leading blank adds no word. -/
@[simp] theorem words_cons_blank {c : Char} (h : isBlank c = true) (cs : List Char) :
    words (c :: cs) = words cs := by
  simp [words, wordsFrom, h]

theorem wordsFrom_append {w : List Char} (hw : ∀ c ∈ w, isBlank c = false) (carry cs : List Char) :
    wordsFrom carry (w ++ cs) = wordsFrom (w.reverse ++ carry) cs := by
  induction w generalizing carry with
  | nil => rfl
  | cons c w ih =>
    have hc : isBlank c = false := hw c (by simp)
    simp [wordsFrom, hc, ih (fun x hx => hw x (by simp [hx]))]

/-- A word that a blank ends is the first word. -/
theorem words_append_blank {w : List Char} (hw : ∀ c ∈ w, isBlank c = false) (hne : w ≠ [])
    {b : Char} (hb : isBlank b = true) (cs : List Char) :
    words (w ++ b :: cs) = w :: words cs := by
  simp [words, wordsFrom_append hw, wordsFrom, hb, hne]

/-- A text without blanks is its own only word. -/
theorem words_of_not_blank {w : List Char} (hw : ∀ c ∈ w, isBlank c = false) (hne : w ≠ []) :
    words w = [w] := by
  have h := wordsFrom_append hw [] []
  simp only [List.append_nil] at h
  simp [words, h, wordsFrom, hne]

/-! ## The same on strings -/

def trimmed (s : String) : String := String.ofList (trim s.toList)

def tokens (s : String) : List String := (words s.toList).map String.ofList

end EntropyTables.Text
