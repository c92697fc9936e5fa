import EntropyTables.Proofs.Transcription
/-!
# The normal form of a line

What `normalize` leaves of a line has no blanks at its ends and no spelling of the minus sign but
`-`, and a text of this form is left as it is (`IsNormal.canonical_eq`). No replacement makes a
character that another spelling holds and none makes a blank, so a character other than `-` was
there before (`eq_cons_of_mend`, `getLast?_mend`). That is why the two replacements and the trimming
may be done in any order.

Main statement: `normalize_normal_form`.
-/
namespace EntropyTables

namespace Text

/-! ## The ends of a trimmed text -/

theorem head?_trimStart {cs : List Char} : ∀ c ∈ (trimStart cs).head?, isBlank c = false := by
  intro c hc
  obtain ⟨rest, hrest⟩ := List.head?_eq_some_iff.1 hc
  exact head_dropWhile hrest

theorem getLast?_trimEnd {cs : List Char} : ∀ c ∈ (trimEnd cs).getLast?, isBlank c = false := by
  intro c hc
  rw [trimEnd, List.getLast?_reverse] at hc
  exact head?_trimStart c hc

theorem trimStart_eq_self {cs : List Char} (h : ∀ c ∈ cs.head?, isBlank c = false) :
    trimStart cs = cs := by
  cases cs with
  | nil => rfl
  | cons c cs => exact List.dropWhile_cons_of_neg (by simp [h c rfl])

theorem trimEnd_eq_self {cs : List Char} (h : ∀ c ∈ cs.getLast?, isBlank c = false) :
    trimEnd cs = cs := by
  have hs : trimStart cs.reverse = cs.reverse := by
    refine trimStart_eq_self fun c hc => h c ?_
    rwa [List.head?_reverse] at hc
  unfold trimStart at hs
  rw [trimEnd, hs, List.reverse_reverse]

theorem trimEnd_prefix (cs : List Char) : trimEnd cs <+: cs := by
  have hs : cs.reverse.dropWhile isBlank <:+ cs.reverse := List.dropWhile_suffix _
  have hp := List.reverse_prefix.2 hs
  rwa [List.reverse_reverse] at hp

theorem trim_eq_self {cs : List Char} (hstart : ∀ c ∈ cs.head?, isBlank c = false)
    (hend : ∀ c ∈ cs.getLast?, isBlank c = false) : trim cs = cs := by
  rw [trim, trimStart_eq_self hstart, trimEnd_eq_self hend]

theorem head?_trim (cs : List Char) : ∀ c ∈ (trim cs).head?, isBlank c = false := by
  intro c hc
  obtain ⟨rest, hrest⟩ := List.head?_eq_some_iff.1 hc
  -- The first character that is left at the end was the first before.
  obtain ⟨tail, htail⟩ := trimEnd_prefix (trimStart cs)
  rw [trim] at hrest
  rw [hrest, List.cons_append] at htail
  exact head?_trimStart c (by rw [← htail]; rfl)

theorem getLast?_trim (cs : List Char) : ∀ c ∈ (trim cs).getLast?, isBlank c = false :=
  getLast?_trimEnd

theorem trim_infix (cs : List Char) : trim cs <:+: cs := by
  obtain ⟨lead, trail, -, -, h⟩ := exists_trim cs
  exact ⟨lead, trail, h.symm⟩

end Text

open Text (AllBlank isBlank trim)

namespace Line

/-! ## What is left of each replacement -/

theorem eq_cons_of_mendMinus {cs ds : List Char} {d : Char} (hd : d ≠ '-')
    (h : mendMinus cs = d :: ds) : ∃ es, cs = d :: es ∧ mendMinus es = ds := by
  cases cs with
  | nil => cases h
  | cons c cs =>
    rw [mendMinus, List.map_cons] at h
    obtain ⟨hc, hds⟩ := List.cons.inj h
    by_cases hm : c = '\u2212'
    · rw [if_pos hm] at hc
      exact absurd hc.symm hd
    · rw [if_neg hm] at hc
      exact ⟨cs, by rw [hc], hds⟩

theorem eq_cons_of_mendMisdecoded {cs ds : List Char} {d : Char} (hd : d ≠ '-')
    (h : mendMisdecoded cs = d :: ds) : ∃ es, cs = d :: es ∧ mendMisdecoded es = ds := by
  unfold mendMisdecoded at h
  split at h
  · exact absurd (List.cons.inj h).1.symm hd
  · next c cs _ =>
    obtain ⟨rfl, hds⟩ := List.cons.inj h
    exact ⟨cs, rfl, hds⟩
  · cases h

theorem eq_cons_of_mend {cs ds : List Char} {d : Char} (hd : d ≠ '-') (h : mend cs = d :: ds) :
    ∃ es, cs = d :: es ∧ mend es = ds := by
  obtain ⟨es, hes, hds⟩ := eq_cons_of_mendMinus hd h
  obtain ⟨fs, rfl, rfl⟩ := eq_cons_of_mendMisdecoded hd hes
  exact ⟨fs, rfl, hds⟩

theorem eq_nil_of_mendMisdecoded {cs : List Char} (h : mendMisdecoded cs = []) : cs = [] := by
  unfold mendMisdecoded at h
  split at h
  · cases h
  · cases h
  · rfl

theorem getLast?_mendMisdecoded (cs : List Char) :
    ∀ c ∈ (mendMisdecoded cs).getLast?, c = '-' ∨ c ∈ cs.getLast? := by
  fun_induction mendMisdecoded cs with
  | case1 cs ih =>
    intro c hc
    rw [List.getLast?_cons] at hc
    cases hl : (mendMisdecoded cs).getLast? with
    | none => exact .inl (by simpa [hl, eq_comm] using hc)
    | some d =>
      obtain rfl : d = c := by simpa [hl] using hc
      refine (ih d hl).imp_right fun hd => ?_
      simp [List.getLast?_cons, Option.mem_def.1 hd]
  | case2 d cs _ ih =>
    intro c hc
    rw [List.getLast?_cons] at hc ⊢
    cases hl : (mendMisdecoded cs).getLast? with
    | none =>
      obtain rfl : cs = [] := eq_nil_of_mendMisdecoded (List.getLast?_eq_none_iff.1 hl)
      exact .inr hc
    | some e =>
      obtain rfl : e = c := by simpa [hl] using hc
      refine (ih e hl).imp_right fun he => ?_
      simp [Option.mem_def.1 he]
  | case3 => exact fun c hc => .inr hc

theorem getLast?_mend (cs : List Char) : ∀ c ∈ (mend cs).getLast?, c = '-' ∨ c ∈ cs.getLast? := by
  intro c hc
  rw [mend, mendMinus, List.getLast?_map] at hc
  obtain ⟨d, hd, rfl⟩ := Option.map_eq_some_iff.1 hc
  by_cases hm : d = '\u2212'
  · exact .inl (if_pos hm)
  · rw [if_neg hm]
    exact getLast?_mendMisdecoded cs d hd

/-! ## Texts without other spellings -/

theorem minus_not_mem_mendMinus (cs : List Char) : '\u2212' ∉ mendMinus cs := by
  intro h
  obtain ⟨c, -, hc⟩ := List.mem_map.1 h
  by_cases hm : c = '\u2212'
  · rw [if_pos hm] at hc
    exact absurd hc (by decide)
  · rw [if_neg hm] at hc
    exact hm hc

/-- Putting `-` for a misdecoded minus sign joins no others. -/
theorem not_infix_mendMisdecoded (cs : List Char) : ¬ misdecodedMinus <:+: mendMisdecoded cs := by
  fun_induction mendMisdecoded cs with
  | case1 cs ih =>
    intro h
    rcases List.infix_cons_iff.1 h with ⟨rest, hp⟩ | h
    · exact absurd (List.cons.inj hp).1 (by decide)
    · exact ih h
  | case2 c cs hne ih =>
    intro h
    rcases List.infix_cons_iff.1 h with ⟨rest, hp⟩ | h
    · obtain ⟨hc, hp⟩ := List.cons.inj hp
      obtain ⟨ds, rfl, hds⟩ := eq_cons_of_mendMisdecoded (by decide) hp.symm
      obtain ⟨es, rfl, -⟩ := eq_cons_of_mendMisdecoded (by decide) hds
      exact hne es hc.symm rfl
    · exact ih h
  | case3 => simp [misdecodedMinus]

theorem mendMinus_eq_self {cs : List Char} (h : '\u2212' ∉ cs) : mendMinus cs = cs := by
  have hsame : ∀ c ∈ cs, (if c = '\u2212' then '-' else c) = c := by
    intro c hc
    refine if_neg ?_
    rintro rfl
    exact h hc
  rw [mendMinus, List.map_congr_left hsame, List.map_id']

theorem mendMisdecoded_eq_self {cs : List Char} (h : ¬ misdecodedMinus <:+: cs) :
    mendMisdecoded cs = cs := by
  fun_induction mendMisdecoded cs with
  | case1 cs ih => exact absurd ⟨[], cs, rfl⟩ h
  | case2 c cs _ ih => rw [ih fun hcs => h (List.infix_cons_iff.2 (.inr hcs))]
  | case3 => rfl

/-- A text that spells its minus signs as `-` stays as it is. -/
theorem mend_eq_self {cs : List Char} (hminus : '\u2212' ∉ cs)
    (hmisdecoded : ¬ misdecodedMinus <:+: cs) : mend cs = cs := by
  rw [mend, mendMisdecoded_eq_self hmisdecoded, mendMinus_eq_self hminus]

theorem mend_of_unspelled {cs : List Char} (h : ∀ c ∈ cs, c ≠ '\u2212' ∧ c ≠ '\u00e2') :
    mend cs = cs :=
  mend_eq_self (fun hm => (h _ hm).1 rfl) fun hm => (h '\u00e2' (hm.subset (by decide))).2 rfl

/-- A numeral has no spelling of the minus sign but its own. -/
theorem unspelled_of_isNumeral {cs : List Char} (h : Text.IsNumeral cs) :
    ∀ c ∈ cs, c ≠ '\u2212' ∧ c ≠ '\u00e2' := by
  intro c hc
  constructor
  · rintro rfl; exact absurd (h _ hc) (by decide)
  · rintro rfl; exact absurd (h _ hc) (by decide)

/-! ## The order of the steps -/

/-- **The two replacements** may be done in any order. -/
theorem mendMisdecoded_mendMinus (cs : List Char) :
    mendMisdecoded (mendMinus cs) = mendMinus (mendMisdecoded cs) := by
  fun_induction mendMisdecoded cs with
  | case1 cs ih =>
    show mendMisdecoded ('\u00e2' :: '\u02c6' :: '\u2019' :: mendMinus cs) = _
    rw [mendMisdecoded, ih]
    rfl
  | case2 c cs hne ih =>
    rw [mendMinus, mendMinus, List.map_cons, List.map_cons, ← mendMinus, ← mendMinus, ← ih]
    refine mendMisdecoded_cons fun rest hc hcs => ?_
    have hc' : c = '\u00e2' := by
      by_cases hm : c = '\u2212'
      · rw [if_pos hm] at hc
        exact absurd hc (by decide)
      · rwa [if_neg hm] at hc
    obtain ⟨ds, rfl, hds⟩ := eq_cons_of_mendMinus (by decide) hcs
    obtain ⟨es, rfl, -⟩ := eq_cons_of_mendMinus (by decide) hds
    exact hne es hc' rfl
  | case3 => rfl

/-- **Trimming** may be done before the replacements. -/
theorem mend_trim (cs : List Char) : mend (trim cs) = canonical cs := by
  have hminus : isBlank '-' = false := by decide
  have hends : trim (mend (trim cs)) = mend (trim cs) := by
    refine Text.trim_eq_self (fun c hc => ?_) fun c hc => ?_
    · by_cases hm : c = '-'
      · rwa [hm]
      · obtain ⟨rest, hrest⟩ := List.head?_eq_some_iff.1 hc
        obtain ⟨es, hes, -⟩ := eq_cons_of_mend hm hrest
        exact Text.head?_trim cs c (by rw [hes]; rfl)
    · rcases getLast?_mend _ c hc with rfl | hc
      · exact hminus
      · exact Text.getLast?_trim cs c hc
  obtain ⟨lead, trail, hl, ht, h⟩ := Text.exists_trim cs
  show _ = trim (mend cs)
  conv_rhs => rw [h, mend_surrounded hl ht, Text.trim_surrounded hl ht, hends]

/-! ## Normal forms -/

/-- A text that holds no noise of a transcription. -/
structure IsNormal (cs : List Char) : Prop where
  nonempty : cs ≠ []
  /-- No blanks stand at its ends. -/
  starts : ∀ c ∈ cs.head?, isBlank c = false
  ends : ∀ c ∈ cs.getLast?, isBlank c = false
  /-- Its minus signs are spelled in one way only. -/
  minus : '\u2212' ∉ cs
  misdecoded : ¬ misdecodedMinus <:+: cs

/-- **A text in normal form** stays as it is. -/
theorem IsNormal.canonical_eq {cs : List Char} (h : IsNormal cs) : canonical cs = cs := by
  show trim (mend cs) = cs
  rw [mend_eq_self h.minus h.misdecoded, Text.trim_eq_self h.starts h.ends]

/-- What is left of a line is in normal form. -/
theorem isNormal_canonical {cs : List Char} (h : canonical cs ≠ []) : IsNormal (canonical cs) where
  nonempty := h
  starts := Text.head?_trim _
  ends := Text.getLast?_trim _
  minus hm := minus_not_mem_mendMinus _ ((Text.trim_infix _).subset hm)
  misdecoded hm := by
    have hmend : misdecodedMinus <:+: mend cs := hm.trans (Text.trim_infix _)
    rw [mend, ← mendMisdecoded_mendMinus] at hmend
    exact not_infix_mendMisdecoded _ hmend

/-- Nothing is left exactly of a text that is blank throughout. -/
theorem canonical_eq_nil_iff {cs : List Char} : canonical cs = [] ↔ AllBlank cs := by
  rw [← mend_trim]
  constructor
  · intro h
    have hnil : mendMisdecoded (trim cs) = [] := List.map_eq_nil_iff.1 h
    exact Text.trim_eq_nil_iff.1 (eq_nil_of_mendMisdecoded hnil)
  · intro h
    rw [Text.trim_eq_nil_iff.2 h]
    rfl

def kept (cs : List Char) : Option String := if cs.isEmpty then none else some (String.ofList cs)

theorem normalize_eq (s : String) : normalize s = kept (canonical s.toList) := rfl

theorem kept_eq_none_iff {cs : List Char} : kept cs = none ↔ cs = [] := by
  simp [kept]

theorem kept_eq_some_iff {cs : List Char} {text : String} :
    kept cs = some text ↔ cs ≠ [] ∧ text.toList = cs := by
  unfold kept
  split
  · next h => simp_all
  · next h =>
    have hne : cs ≠ [] := by simpa using h
    rw [Option.some.injEq]
    exact ⟨fun ht => ⟨hne, by rw [← ht, String.toList_ofList]⟩,
      fun ht => by rw [← ht.2, String.ofList_toList]⟩

/-- The second text is the first with any of its `-` spelled in any other way. -/
inductive Respelled : List Char → List Char → Prop
  | nil : Respelled [] []
  | keep (c : Char) {cs cs' : List Char} (rest : Respelled cs cs') : Respelled (c :: cs) (c :: cs')
  | minus {spelling cs cs' : List Char} (h : spelling ∈ minusSpellings) (rest : Respelled cs cs') :
      Respelled ('-' :: cs) (spelling ++ cs')

/-- Spelling a text in another way changes nothing, whatever stands before it. -/
theorem Respelled.mend_eq {cs cs' : List Char} (h : Respelled cs cs') :
    ∀ pre, mend (pre ++ cs') = mend (pre ++ cs) := by
  induction h with
  | nil => exact fun _ => rfl
  | @keep c cs cs' _ ih =>
    intro pre
    simpa using ih (pre ++ [c])
  | @minus spelling cs cs' h _ ih =>
    intro pre
    calc mend (pre ++ (spelling ++ cs'))
      _ = mend pre ++ '-' :: mend cs' := by rw [← List.append_assoc, mend_spelling h]
      _ = mend pre ++ '-' :: mend cs := by rw [show mend cs' = mend cs from ih []]
      _ = mend (pre ++ ['-'] ++ cs) := (mend_spelling (by decide) pre cs).symm
      _ = mend (pre ++ '-' :: cs) := by rw [List.append_assoc]; rfl

/-- **The normal form of a line.** A line is dropped exactly when all of it is blank. What is left
of any other line is in normal form, and stays as it is when it is put in its normal form again. The
replacements may be done in either order, and the trimming before or after them. Other spellings of
the minus sign change nothing. -/
theorem normalize_normal_form (s : String) :
    (normalize s = none ↔ ∀ c ∈ s.toList, isBlank c = true) ∧
    (∀ text, normalize s = some text → IsNormal text.toList ∧ normalize text = some text) ∧
    (kept (trim (mendMisdecoded (mendMinus s.toList))) = normalize s ∧
      kept (mendMinus (mendMisdecoded (trim s.toList))) = normalize s ∧
      kept (mendMisdecoded (mendMinus (trim s.toList))) = normalize s) ∧
    ∀ s' : String, Respelled s.toList s'.toList → normalize s' = normalize s := by
  refine ⟨?_, fun text ht => ?_, ⟨?_, ?_, ?_⟩, fun s' hs => ?_⟩
  · rw [normalize_eq, kept_eq_none_iff]
    exact canonical_eq_nil_iff
  · obtain ⟨hne, htext⟩ := kept_eq_some_iff.1 ht
    have hnormal : IsNormal text.toList := htext ▸ isNormal_canonical hne
    refine ⟨hnormal, kept_eq_some_iff.2 ⟨?_, hnormal.canonical_eq.symm⟩⟩
    rw [hnormal.canonical_eq]
    exact hnormal.nonempty
  · rw [mendMisdecoded_mendMinus]
    rfl
  · exact congrArg kept (mend_trim s.toList)
  · rw [mendMisdecoded_mendMinus]
    exact congrArg kept (mend_trim s.toList)
  · have hmend : mend s'.toList = mend s.toList := hs.mend_eq []
    exact congrArg (fun cs => kept (trim cs)) hmend

/-- Both spellings are put right, also where characters of one stand before it. -/
example : normalize "\t\u00e2\u02c6\u00e2\u02c6\u20191 \u22122 " =
    some "\u00e2\u02c6-1 -2" := by decide

end Line

end EntropyTables
