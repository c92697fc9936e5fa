/-!
# Signed 64-bit integers as decimal text

`readInt64?` takes an optional single sign and then one or more ASCII digits, and nothing else; a
number out of the signed 64-bit range is refused. `ofInt` writes the shortest such text, with a
sign only below zero.

Main statements: `readInt64?_ofInt` (what is written reads back), `decimal_inj` and
`isNumeral_of_readInt64?` (what a number may be read from).
-/
namespace EntropyTables.Text

def int64Min : Int := -9223372036854775808

def int64Max : Int := 9223372036854775807

def isInt64 (n : Int) : Bool := int64Min ≤ n && n ≤ int64Max

/-- The natural number that one or more ASCII digits spell. -/
def readNat? (cs : List Char) : Option Nat :=
  if !cs.isEmpty && cs.all Char.isDigit then some (Nat.ofDigitChars 10 cs 0) else none

/-- The signed number that an optional sign and digits spell, of any size. -/
def readInt? : List Char → Option Int
  | '-' :: cs => (readNat? cs).map fun n => -(n : Int)
  | '+' :: cs => (readNat? cs).map fun n => (n : Int)
  | cs => (readNat? cs).map fun n => (n : Int)

/-- The signed 64-bit number that the text spells, if it spells one. -/
def readInt64? (cs : List Char) : Option Int := (readInt? cs).filter isInt64

def ofNat (n : Nat) : List Char := Nat.toDigits 10 n

def ofInt : Int → List Char
  | .ofNat n => ofNat n
  | .negSucc n => '-' :: ofNat (n + 1)

theorem ofNat_ne_nil (n : Nat) : ofNat n ≠ [] := by
  simp [ofNat]

theorem isDigit_of_mem_ofNat {n : Nat} {c : Char} (h : c ∈ ofNat n) : c.isDigit = true :=
  Nat.isDigit_of_mem_toDigits (by decide) (by decide) h

theorem readNat?_ofNat (n : Nat) : readNat? (ofNat n) = some n := by
  have hall : (ofNat n).all Char.isDigit = true :=
    List.all_eq_true.2 fun _ h => isDigit_of_mem_ofNat h
  have hne : (ofNat n).isEmpty = false := by simp [ofNat_ne_nil]
  rw [readNat?, hall, hne]
  simp [ofNat, Nat.ofDigitChars_toDigits]

theorem readInt?_of_isDigit {cs : List Char} (h : ∀ c ∈ cs, c.isDigit = true) :
    readInt? cs = (readNat? cs).map fun n => (n : Int) := by
  unfold readInt?
  split
  · exact absurd (h '-' (by simp)) (by decide)
  · exact absurd (h '+' (by simp)) (by decide)
  · rfl

theorem readInt?_ofInt (n : Int) : readInt? (ofInt n) = some n := by
  cases n with
  | ofNat n =>
    rw [ofInt, readInt?_of_isDigit (fun _ h => isDigit_of_mem_ofNat h), readNat?_ofNat]; rfl
  | negSucc n =>
    simp only [ofInt, readInt?, readNat?_ofNat]; rfl

/-- A signed 64-bit number is read back from its text. -/
theorem readInt64?_ofInt {n : Int} (h : isInt64 n = true) : readInt64? (ofInt n) = some n := by
  simp [readInt64?, readInt?_ofInt, h]

def decimal (n : Int) : String := String.ofList (ofInt n)

/-! ## Numbers and numerals -/

theorem decimal_inj {m n : Int} : decimal m = decimal n ↔ m = n := by
  constructor
  · intro h
    have h := congrArg (fun s => readInt? s.toList) h
    simpa [decimal, readInt?_ofInt] using h
  · rintro rfl; rfl

theorem toNat_of_isDigit {c : Char} (h : c.isDigit = true) : 48 ≤ c.toNat ∧ c.toNat ≤ 57 := by
  simpa [Char.isDigit, UInt32.le_iff_toNat_le] using h

/-- The characters that a numeral may hold. -/
def IsNumeral (cs : List Char) : Prop := ∀ c ∈ cs, c = '-' ∨ c = '+' ∨ c.isDigit = true

theorem isNumeral_ofInt : ∀ n : Int, IsNumeral (ofInt n)
  | .ofNat _, _, h => .inr (.inr (isDigit_of_mem_ofNat h))
  | .negSucc _, c, h => by
    rcases List.mem_cons.1 h with rfl | h
    · exact .inl rfl
    · exact .inr (.inr (isDigit_of_mem_ofNat h))

theorem isDigit_of_readNat? {cs : List Char} (h : (readNat? cs).isSome = true) :
    cs ≠ [] ∧ ∀ c ∈ cs, c.isDigit = true := by
  unfold readNat? at h
  split at h
  · next hc =>
    simp only [Bool.and_eq_true, Bool.not_eq_true', List.all_eq_true] at hc
    exact ⟨by rintro rfl; simp at hc, hc.2⟩
  · cases h

/-- A signed number is spelled by digits, perhaps after a sign. -/
theorem readNat?_of_readInt? {cs : List Char} (h : (readInt? cs).isSome = true) :
    ∃ digits, (readNat? digits).isSome = true ∧
      (cs = digits ∨ cs = '-' :: digits ∨ cs = '+' :: digits) := by
  unfold readInt? at h
  split at h
  · next digits => exact ⟨digits, by cases hd : readNat? digits <;> simp_all, .inr (.inl rfl)⟩
  · next digits => exact ⟨digits, by cases hd : readNat? digits <;> simp_all, .inr (.inr rfl)⟩
  · exact ⟨cs, by cases hd : readNat? cs <;> simp_all, .inl rfl⟩

/-- What spells a signed 64-bit number is a numeral, and not a sign alone. -/
theorem isNumeral_of_readInt64? {cs : List Char} (h : (readInt64? cs).isSome = true) :
    IsNumeral cs ∧ cs ≠ ['-'] := by
  obtain ⟨n, h⟩ := Option.isSome_iff_exists.1 h
  obtain ⟨h, -⟩ := Option.filter_eq_some_iff.1 h
  obtain ⟨digits, hd, hcs⟩ := readNat?_of_readInt? (Option.isSome_iff_exists.2 ⟨n, h⟩)
  obtain ⟨hne, hall⟩ := isDigit_of_readNat? hd
  rcases hcs with rfl | rfl | rfl
  · refine ⟨fun c hc => .inr (.inr (hall c hc)), ?_⟩
    rintro rfl
    exact absurd (hall '-' (by simp)) (by decide)
  · refine ⟨fun c hc => ?_, fun he => hne (List.cons.inj he).2⟩
    rcases List.mem_cons.1 hc with rfl | hc
    · exact .inl rfl
    · exact .inr (.inr (hall c hc))
  · refine ⟨fun c hc => ?_, by rintro ⟨⟩⟩
    rcases List.mem_cons.1 hc with rfl | hc
    · exact .inr (.inl rfl)
    · exact .inr (.inr (hall c hc))

end EntropyTables.Text
