import Mathlib.Data.List.Chain
import EntropyTables.Error
import EntropyTables.Proofs.UniqueReading
/-!
# What stands between quotes

A character is written between quotes in one of three forms (`escapeForm`). The forms tell each
other apart by their first two characters, and a code point ends at its closing brace, so a quoted
text can be read one character at a time (`escape_append_inj`) and determines the text
(`quoted_inj`). A quote within it comes right after a backslash (`isChain_flatMap_escape`). So the
last quote of a text that follows a blank opens the quoted text at its end
(`eq_of_append_quoted`).

No control character of ASCII is written as it is (`printable_quoted`).
-/
namespace EntropyTables.Text

/-! ## Printable characters -/

def IsPrintable (c : Char) : Prop := 0x20 ≤ c.toNat ∧ c.toNat ≠ 0x7F

instance : DecidablePred IsPrintable := fun c =>
  inferInstanceAs (Decidable (0x20 ≤ c.toNat ∧ c.toNat ≠ 0x7F))

/-- The text can be printed: no character of it is a control character of ASCII. -/
def Printable (text : String) : Prop := ∀ c ∈ text.toList, IsPrintable c

instance : DecidablePred Printable := fun text =>
  decidable_of_iff (text.toList.all fun c => decide (IsPrintable c)) (by simp [Printable])

theorem isPrintable_of_all {cs : List Char} (h : cs.all (fun c => decide (IsPrintable c)) = true) :
    ∀ c ∈ cs, IsPrintable c :=
  fun c hc => of_decide_eq_true (List.all_eq_true.1 h c hc)

@[simp] theorem printable_append {a b : String} :
    Printable (a ++ b) ↔ Printable a ∧ Printable b := by
  simp only [Printable, String.toList_append, List.forall_mem_append]

@[simp] theorem printable_decimal (n : Int) : Printable (decimal n) := by
  intro c hc
  rw [decimal, String.toList_ofList] at hc
  rcases isNumeral_ofInt n c hc with rfl | rfl | hd
  · decide
  · decide
  · have hrange := toNat_of_isDigit hd
    unfold IsPrintable
    omega

theorem isPrintable_of_shape {c : Char} (h : isShapeless c = false) : IsPrintable c := by
  have hshape : inRanges unprintableRanges c.toNat = false := by
    rw [isShapeless, Bool.or_eq_false_iff, Bool.or_eq_false_iff] at h
    exact h.1.1
  have hout : ∀ r ∈ unprintableRanges, r.1 ≤ c.toNat → ¬ c.toNat ≤ r.2 := by
    intro r hr hlo hhi
    rw [inRanges_of_mem hr hlo hhi] at hshape
    cases hshape
  have hcontrol : ¬ c.toNat ≤ 0x1F := hout (0x0, 0x1F) (.head _) (Nat.zero_le _)
  have hdelete : 0x7F ≤ c.toNat → ¬ c.toNat ≤ 0xA0 := hout (0x7F, 0xA0) (.tail _ (.head _))
  unfold IsPrintable
  omega

/-! ## Code points -/

theorem toDigits_of_not_lt {n : Nat} (h : ¬ n < 16) :
    Nat.toDigits 16 n = Nat.toDigits 16 (n / 16) ++ [Nat.digitChar (n % 16)] :=
  Nat.toDigits_of_base_le (by decide) (Nat.le_of_not_lt h)

theorem exists_digit_of_mem_toDigits {c : Char} (n : Nat) (h : c ∈ Nat.toDigits 16 n) :
    ∃ d < 16, c = Nat.digitChar d := by
  induction n using Nat.strongRecOn with
  | ind n ih =>
    by_cases hn : n < 16
    · rw [Nat.toDigits_of_lt_base hn, List.mem_singleton] at h
      exact ⟨n, hn, h⟩
    · rw [toDigits_of_not_lt hn, List.mem_append, List.mem_singleton] at h
      rcases h with h | h
      · exact ih (n / 16) (by omega) h
      · exact ⟨n % 16, Nat.mod_lt _ (by omega), h⟩

/-- What holds of the sixteen digits holds of every character of a number in hexadecimal. -/
theorem forall_mem_toDigits {p : Char → Prop} (hp : ∀ d < 16, p (Nat.digitChar d)) (n : Nat) :
    ∀ c ∈ Nat.toDigits 16 n, p c := by
  intro c hc
  obtain ⟨d, hd, rfl⟩ := exists_digit_of_mem_toDigits n hc
  exact hp d hd

theorem toDigits_inj (m n : Nat) (h : Nat.toDigits 16 m = Nat.toDigits 16 n) : m = n := by
  have hdigit : ∀ d < 16, ∀ e < 16, Nat.digitChar d = Nat.digitChar e → d = e := by decide
  -- A number of one digit is told from the others by its length.
  have hmore : ∀ {k l : Nat}, k < 16 → ¬ l < 16 → Nat.toDigits 16 k ≠ Nat.toDigits 16 l := by
    intro k l hk hl he
    rw [Nat.toDigits_of_lt_base hk, toDigits_of_not_lt hl] at he
    have hlength := congrArg List.length he
    have hpos := Nat.length_toDigits_pos (b := 16) (n := l / 16)
    rw [List.length_append] at hlength
    simp only [List.length_singleton] at hlength
    omega
  induction m using Nat.strongRecOn generalizing n with
  | ind m ih =>
    by_cases hm : m < 16
    · by_cases hn : n < 16
      · rw [Nat.toDigits_of_lt_base hm, Nat.toDigits_of_lt_base hn] at h
        exact hdigit m hm n hn (List.cons.inj h).1
      · exact absurd h (hmore hm hn)
    · by_cases hn : n < 16
      · exact absurd h.symm (hmore hn hm)
      · rw [toDigits_of_not_lt hm, toDigits_of_not_lt hn] at h
        obtain ⟨hquotient, hlast⟩ := List.append_inj' h rfl
        have hdiv := ih (m / 16) (by omega) _ hquotient
        have hmod := hdigit _ (Nat.mod_lt m (by omega)) _ (Nat.mod_lt n (by omega))
          (List.cons.inj hlast).1
        omega

/-! ## The forms of a character -/

/-- The character that a letter stands for after a backslash. -/
def meant : Char → Char
  | '0' => '\x00'
  | 't' => '\t'
  | 'r' => '\r'
  | 'n' => '\n'
  | letter => letter

/-- The letters that stand for a character after a backslash. -/
def escapeLetters : List Char := ['0', 't', 'r', 'n', '\\', '"']

/-- What a character is written as between quotes. -/
inductive EscapeForm (c : Char) : List Char → Prop
  | letter {letter : Char} (mem : letter ∈ escapeLetters) (stands : meant letter = c) :
      EscapeForm c ['\\', letter]
  | codePoint : EscapeForm c (codePoint c)
  | itself (notBackslash : c ≠ '\\') (notQuote : c ≠ '"') (shape : isShapeless c = false) :
      EscapeForm c [c]

theorem escapeForm (c : Char) : EscapeForm c (escape c) := by
  unfold escape
  split_ifs with h₁ h₂ h₃ h₄ h₅ h₆ h₇
  · exact .letter (by decide) h₁.symm
  · exact .letter (by decide) h₂.symm
  · exact .letter (by decide) h₃.symm
  · exact .letter (by decide) h₄.symm
  · exact .letter (by decide) h₅.symm
  · exact .letter (by decide) h₆.symm
  · exact .codePoint
  · exact .itself h₅ h₆ (by simpa using h₇)

theorem codePoint_append (c : Char) (xs : List Char) :
    codePoint c ++ xs = '\\' :: 'u' :: '\x7b' :: (Nat.toDigits 16 c.toNat ++ '\x7d' :: xs) := by
  simp [codePoint]

theorem letter_ne_codePoint {letter c : Char} (h : letter ∈ escapeLetters) (xs ys : List Char) :
    ['\\', letter] ++ xs ≠ codePoint c ++ ys := by
  rw [codePoint_append]
  intro he
  obtain ⟨rfl, -⟩ := List.cons.inj (List.cons.inj he).2
  exact absurd h (by decide)

/-- A backslash starts no character that stands for itself. -/
theorem EscapeForm.backslash_ne {c d : Char} {as : List Char} (h : EscapeForm c as)
    (hd : d ≠ '\\') (xs ys : List Char) (he : as ++ xs = [d] ++ ys) : as = [c] := by
  cases h with
  | letter => exact absurd (List.cons.inj he).1.symm hd
  | codePoint =>
    rw [codePoint_append] at he
    exact absurd (List.cons.inj he).1.symm hd
  | itself => rfl

/-- **The first character between quotes** can be read before whatever follows it. -/
theorem escape_append_inj {c d : Char} {xs ys : List Char}
    (h : escape c ++ xs = escape d ++ ys) : c = d ∧ xs = ys := by
  have hc := escapeForm c
  have hd := escapeForm d
  generalize escape c = as at h hc
  generalize escape d = bs at h hd
  cases hd with
  | itself hbackslash =>
    rw [hc.backslash_ne hbackslash xs ys h] at h
    exact List.cons.inj h
  | @letter letter' hmem' hstands' =>
    cases hc with
    | letter hmem hstands =>
      obtain ⟨rfl, hrest⟩ := List.cons.inj (List.cons.inj h).2
      exact ⟨hstands.symm.trans hstands', hrest⟩
    | codePoint => exact absurd h.symm (letter_ne_codePoint hmem' ys xs)
    | itself hbackslash => exact absurd (List.cons.inj h).1 hbackslash
  | codePoint =>
    cases hc with
    | letter hmem => exact absurd h (letter_ne_codePoint hmem xs ys)
    | codePoint =>
      rw [codePoint_append, codePoint_append] at h
      have hdigits := (List.cons.inj (List.cons.inj (List.cons.inj h).2).2).2
      have hbrace : ∀ n : Nat, '\x7d' ∉ Nat.toDigits 16 n :=
        fun n hmem => forall_mem_toDigits (p := (· ≠ '\x7d')) (by decide) n _ hmem rfl
      obtain ⟨hsame, hrest⟩ := eq_of_append_cons (hbrace _) (hbrace _) hdigits
      exact ⟨Char.toNat_inj.1 (toDigits_inj _ _ hsame), hrest⟩
    | itself hbackslash =>
      rw [codePoint_append] at h
      exact absurd (List.cons.inj h).1 hbackslash

theorem flatMap_escape_inj : ∀ {cs ds : List Char},
    cs.flatMap escape = ds.flatMap escape → cs = ds
  | [], [], _ => rfl
  | [], d :: ds, h => absurd (List.append_eq_nil_iff.1 h.symm).1 (escape_ne_nil d)
  | c :: cs, [], h => absurd (List.append_eq_nil_iff.1 h).1 (escape_ne_nil c)
  | c :: cs, d :: ds, h => by
    rw [List.flatMap_cons, List.flatMap_cons] at h
    obtain ⟨rfl, hrest⟩ := escape_append_inj h
    rw [flatMap_escape_inj hrest]

/-- **A quoted text determines the text.** -/
theorem quoted_inj {s t : String} (h : quoted s = quoted t) : s = t := by
  have hquote : quote s.toList = quote t.toList := String.ofList_injective h
  have hbody := List.append_cancel_right (List.cons.inj hquote).2
  exact String.toList_inj.1 (flatMap_escape_inj hbody)

/-! ## Quotes within quotes -/

def MayPrecede (a b : Char) : Prop := b = '"' → a = '\\'

theorem isChain_of_not_mem {cs : List Char} (h : '"' ∉ cs) : cs.IsChain MayPrecede := by
  refine (List.pairwise_of_forall_mem_list fun a _ b hb hquote => ?_).isChain
  exact absurd (hquote ▸ hb) h

theorem quote_not_mem_codePoint (c : Char) : '"' ∉ codePoint c := by
  have hdigits : '"' ∉ Nat.toDigits 16 c.toNat :=
    fun h => forall_mem_toDigits (p := (· ≠ '"')) (by decide) _ _ h rfl
  simpa [codePoint] using hdigits

/-- What a character is written as does not start with a quote, and has one only after a
backslash. -/
theorem isChain_escape (c : Char) :
    (escape c).IsChain MayPrecede ∧ (escape c).head? ≠ some '"' := by
  have h := escapeForm c
  generalize escape c = cs at h
  cases h with
  | letter => exact ⟨by simp [MayPrecede], by simp⟩
  | codePoint =>
    refine ⟨isChain_of_not_mem (quote_not_mem_codePoint c), fun hhead => ?_⟩
    exact quote_not_mem_codePoint c (List.mem_of_mem_head? hhead)
  | itself _ hquote => exact ⟨.singleton c, by simpa using hquote⟩

/-- **Between quotes a quote follows a backslash.** -/
theorem isChain_flatMap_escape : ∀ cs : List Char,
    (cs.flatMap escape).IsChain MayPrecede ∧ (cs.flatMap escape).head? ≠ some '"'
  | [] => ⟨.nil, by simp⟩
  | c :: cs => by
    obtain ⟨hchain, hhead⟩ := isChain_escape c
    obtain ⟨hchains, hheads⟩ := isChain_flatMap_escape cs
    rw [List.flatMap_cons]
    refine ⟨List.isChain_append.2 ⟨hchain, hchains, fun a _ b hb hquote => ?_⟩, ?_⟩
    · exact absurd (hquote ▸ hb) hheads
    · rwa [List.head?_append_of_ne_nil _ (escape_ne_nil c)]

/-- No quote within a quoted text follows a blank. -/
theorem not_infix_flatMap_escape (cs : List Char) : ¬ [' ', '"'] <:+: cs.flatMap escape := by
  intro h
  have hchain := List.IsChain.infix (isChain_flatMap_escape cs).1 h
  exact absurd (List.isChain_pair.1 hchain rfl) (by decide)

/-- If two texts end in the same way, in a blank and a quoted text without its last quote, the first
is not the longer one. -/
theorem append_eq_nil_of_append_quote {xs cs ds : List Char}
    (h : ' ' :: '"' :: ds.flatMap escape = xs ++ ' ' :: '"' :: cs.flatMap escape) : xs = [] := by
  match xs, h with
  | [], _ => rfl
  | [x], h => exact absurd (List.cons.inj (List.cons.inj h).2).1 (by decide)
  | x :: y :: xs, h =>
    -- The second quoted text would be opened within the first.
    have hbody : ds.flatMap escape = xs ++ [' ', '"'] ++ cs.flatMap escape := by
      rw [List.append_assoc]
      exact (List.cons.inj (List.cons.inj h).2).2
    exact absurd ⟨xs, cs.flatMap escape, hbody.symm⟩ (not_infix_flatMap_escape ds)

/-- **A quoted text after a blank can be read from the end**, whatever stands before it, quotes and
backslashes included. -/
theorem eq_of_append_quoted {a b s t : String} (h : a ++ ": " ++ quoted s = b ++ ": " ++ quoted t) :
    a = b ∧ s = t := by
  have hframe : ∀ a s : String, (a ++ ": " ++ quoted s).toList =
      (a ++ ":").toList ++ (' ' :: '"' :: s.toList.flatMap escape) ++ ['"'] := by
    intro a s
    simp [quoted, quote]
  have hlist := congrArg String.toList h
  rw [hframe, hframe] at hlist
  have hopen := List.append_cancel_right hlist
  have hstart : (a ++ ":").toList = (b ++ ":").toList := by
    rcases List.append_eq_append_iff.1 hopen with ⟨xs, hxs, hrest⟩ | ⟨xs, hxs, hrest⟩
    · rw [hxs, append_eq_nil_of_append_quote hrest, List.append_nil]
    · rw [hxs, append_eq_nil_of_append_quote hrest, List.append_nil]
  obtain rfl : a = b := (String.append_left_inj _).1 (String.toList_inj.1 hstart)
  have hrest := List.append_cancel_left hopen
  exact ⟨rfl, String.toList_inj.1 (flatMap_escape_inj (List.cons.inj (List.cons.inj hrest).2).2)⟩

/-! ## Nothing between quotes controls a terminal -/

theorem isPrintable_of_mem_escape {c d : Char} (h : d ∈ escape c) : IsPrintable d := by
  have hc := escapeForm c
  generalize escape c = cs at h hc
  cases hc with
  | letter hmem =>
    have hletters : ∀ letter ∈ escapeLetters, IsPrintable letter := isPrintable_of_all (by decide)
    rcases List.mem_pair.1 h with rfl | rfl
    · decide
    · exact hletters _ hmem
  | codePoint =>
    have hdigits := forall_mem_toDigits (p := IsPrintable) (by decide) c.toNat
    have hstart : ∀ d ∈ ['\\', 'u', '\x7b'], IsPrintable d := isPrintable_of_all (by decide)
    have hend : ∀ d ∈ ['\x7d'], IsPrintable d := isPrintable_of_all (by decide)
    exact List.forall_mem_append.2 ⟨List.forall_mem_append.2 ⟨hstart, hdigits⟩, hend⟩ d h
  | itself _ _ hshape =>
    rw [List.mem_singleton.1 h]
    exact isPrintable_of_shape hshape

/-- **A quoted text can be printed.** -/
@[simp] theorem printable_quoted (s : String) : Printable (quoted s) := by
  have hbody : ∀ d ∈ s.toList.flatMap escape, IsPrintable d := by
    intro d hd
    obtain ⟨c, -, hc⟩ := List.mem_flatMap.1 hd
    exact isPrintable_of_mem_escape hc
  have hquote : ∀ d ∈ ['"'], IsPrintable d := isPrintable_of_all (by decide)
  rw [Printable, quoted, String.toList_ofList, quote]
  exact List.forall_mem_append.2 ⟨List.forall_mem_cons.2 ⟨by decide, hbody⟩, hquote⟩

end EntropyTables.Text
