import EntropyTables.Proofs.TextLines
/-!
# The generated text determines the table

A text has the lines of its entries, so it is enough to read one block back (`blockLines_inj`). A
line gives its parts back one after the other (`eq_of_append_cut`): a number ends at the first
character that no number holds, and a token ends at the next blank. What else a token holds does not
matter, even if it is a mark of the switch around it.

Main statement: `transform_determines`. The two CAVLC texts are left out: neither determines the
table by itself.
-/
namespace EntropyTables

/-! ## Cutting a text -/

theorem eq_of_append_cons {d : Char} {as as' bs bs' : List Char} (ha : d ∉ as) (ha' : d ∉ as')
    (h : as ++ d :: bs = as' ++ d :: bs') : as = as' ∧ bs = bs' := by
  have hpieces := congrArg (List.splitOn d) h
  rw [List.splitOn_append_cons_self_of_not_mem ha, List.splitOn_append_cons_self_of_not_mem ha']
    at hpieces
  obtain rfl : as = as' := (List.cons.inj hpieces).1
  exact ⟨rfl, by simpa using h⟩

/-- Two texts that go on after the same mark, where the first character of the mark does not stand
before it. -/
theorem eq_of_append_cut {mark a a' b b' : String} {d : Char} (hm : mark.toList.head? = some d)
    (ha : d ∉ a.toList) (ha' : d ∉ a'.toList) (h : a ++ mark ++ b = a' ++ mark ++ b') :
    a = a' ∧ b = b' := by
  obtain ⟨tail, hmark⟩ := List.head?_eq_some_iff.1 hm
  have hlist : a.toList ++ d :: (tail ++ b.toList) = a'.toList ++ d :: (tail ++ b'.toList) := by
    simpa [hmark] using congrArg String.toList h
  obtain ⟨hfirst, hrest⟩ := eq_of_append_cons ha ha' hlist
  exact ⟨String.toList_inj.1 hfirst, String.toList_inj.1 (List.append_cancel_left hrest)⟩

theorem intercalate_inj {sep : String} (hs : sep.toList.head? = some ',') :
    ∀ {parts parts' : List String}, parts.length = parts'.length →
      (∀ part ∈ parts, ',' ∉ part.toList) → (∀ part ∈ parts', ',' ∉ part.toList) →
      sep.intercalate parts = sep.intercalate parts' → parts = parts'
  | [], [], _, _, _, _ => rfl
  | [part], [part'], _, _, _, h => by
    rw [String.intercalate_singleton, String.intercalate_singleton] at h
    rw [h]
  | part :: next :: parts, part' :: next' :: parts', hn, hp, hp', h => by
    rw [String.intercalate_cons_cons, String.intercalate_cons_cons] at h
    obtain ⟨hpart, hp⟩ := List.forall_mem_cons.1 hp
    obtain ⟨hpart', hp'⟩ := List.forall_mem_cons.1 hp'
    obtain ⟨hfirst, h⟩ := eq_of_append_cut hs hpart hpart' h
    have hlen : (next :: parts).length = (next' :: parts').length := by simpa using hn
    rw [hfirst, intercalate_inj hs hlen hp hp' h]

theorem Text.not_mem_decimal {d : Char} (hd : ¬ (d = '-' ∨ d = '+' ∨ d.isDigit = true)) (n : Int) :
    d ∉ (Text.decimal n).toList := by
  intro h
  rw [Text.decimal, String.toList_ofList] at h
  exact hd (Text.isNumeral_ofInt n d h)

theorem Text.IsWord.not_mem {text : String} (h : Text.IsWord text) : ' ' ∉ text.toList := by
  intro hc
  have hblank : Text.isBlank ' ' = true := by decide
  rw [h.2 _ hc] at hblank
  cases hblank

namespace Render

/-! ## The parts of a line -/

theorem fieldList_inj {entry entry' : Entry} {count : Nat} (h : AreNumbers count entry.fields)
    (h' : AreNumbers count entry'.fields) (hl : fieldList entry = fieldList entry') :
    entry.fields = entry'.fields := by
  obtain ⟨values, hn, hv⟩ := h
  obtain ⟨values', hn', hv'⟩ := h'
  have hcomma : ∀ (values : List Int), ∀ part ∈ (values.map Field.int).map Field.toText,
      ',' ∉ part.toList := by
    intro values part hp
    rw [List.map_map] at hp
    obtain ⟨value, -, rfl⟩ := List.mem_map.1 hp
    exact Text.not_mem_decimal (by decide) value
  rw [fieldList, fieldList, hv, hv'] at hl
  have htexts := intercalate_inj (by decide) (by simp [hn, hn']) (hcomma _) (hcomma _) hl
  have hinj : Function.Injective (Field.toText ∘ Field.int) := fun a b => Text.decimal_inj.1
  rw [List.map_map, List.map_map, List.map_inj_right hinj] at htexts
  rw [hv, hv', htexts]

/-- **The assignment of a switch arm gives back its tokens**, whatever marks they hold. -/
theorem assignment_inj {pre a b c a' b' c' : String} (ha : Text.IsWord a) (hb : Text.IsWord b)
    (ha' : Text.IsWord a') (hb' : Text.IsWord b')
    (h : pre ++ a ++ " : " ++ b ++ ") : " ++ c ++ ";" =
      pre ++ a' ++ " : " ++ b' ++ ") : " ++ c' ++ ";") :
    a = a' ∧ b = b' ∧ c = c' := by
  have hframe : ∀ a b c : String, pre ++ a ++ " : " ++ b ++ ") : " ++ c ++ ";" =
      pre ++ (a ++ " : " ++ ((b ++ ")") ++ " : " ++ (c ++ ";"))) := by
    intro a b c
    rw [← String.toList_inj]
    simp
  rw [hframe, hframe, String.append_right_inj] at h
  have hclose : ∀ {b : String}, Text.IsWord b → ' ' ∉ (b ++ ")").toList := by
    intro b hb
    simp [hb.not_mem]
  obtain ⟨hfirst, h⟩ := eq_of_append_cut (by decide) ha.not_mem ha'.not_mem h
  obtain ⟨hsecond, hthird⟩ := eq_of_append_cut (by decide) (hclose hb) (hclose hb') h
  exact ⟨hfirst, (String.append_left_inj _).1 hsecond, (String.append_left_inj _).1 hthird⟩

/-- A row that starts with a number in a comment gives back the number and what follows it. -/
theorem commented_inj {pre mark rest rest' : String} {i i' : Int}
    (hm : mark.toList.head? = some '*')
    (h : pre ++ Text.decimal i ++ mark ++ rest = pre ++ Text.decimal i' ++ mark ++ rest') :
    i = i' ∧ rest = rest' := by
  have hframe : ∀ (i : Int) (rest : String), pre ++ Text.decimal i ++ mark ++ rest =
      pre ++ (Text.decimal i ++ mark ++ rest) := by
    intro i rest
    simp only [String.append_assoc]
  have hstar : ∀ i : Int, '*' ∉ (Text.decimal i).toList := Text.not_mem_decimal (by decide)
  rw [hframe, hframe, String.append_right_inj] at h
  obtain ⟨hi, hrest⟩ := eq_of_append_cut hm (hstar i) (hstar i') h
  exact ⟨Text.decimal_inj.1 hi, hrest⟩

end Render

/-! ## Blocks and tables -/

namespace Selection

open Render

/-- **A block gives back its entry.** -/
theorem blockLines_inj {selection : Selection} (hs : selection.table ≠ .cavlc)
    {entry entry' : Entry} (h : selection.HasForm entry.fields)
    (h' : selection.HasForm entry'.fields)
    (hl : selection.blockLines entry = selection.blockLines entry') : entry = entry' := by
  have hentry : entry.index = entry'.index → entry.fields = entry'.fields → entry = entry' := by
    intro hi hf
    cases entry
    cases entry'
    simp_all
  cases selection with
  | ctxIdxInc =>
    obtain ⟨a, b, c, ha, hb, -, hf⟩ := h
    obtain ⟨a', b', c', ha', hb', -, hf'⟩ := h'
    simp only [blockLines, fieldAt, hf, hf', List.cons.injEq] at hl
    obtain ⟨hcase, hassign, -⟩ := hl
    have hi : entry.index = entry'.index := by
      rw [String.append_left_inj, String.append_right_inj] at hcase
      exact Text.decimal_inj.1 hcase
    obtain ⟨rfl, rfl, rfl⟩ := assignment_inj ha hb ha' hb' hassign
    exact hentry hi (hf.trans hf'.symm)
  | cabacInit =>
    have hrow := List.head_eq_of_cons_eq hl
    rw [String.append_left_inj] at hrow
    obtain ⟨hi, hfields⟩ := commented_inj (by decide) hrow
    exact hentry hi (fieldList_inj h h' hfields)
  | rangeTabLps =>
    have hframe : ∀ pre number fields : String,
        pre ++ number ++ "*/ [" ++ number ++ "] = [" ++ fields =
          pre ++ number ++ "*/ [" ++ (number ++ "] = [" ++ fields) := by
      intro pre number fields
      simp only [String.append_assoc]
    have hrow := List.head_eq_of_cons_eq hl
    rw [String.append_left_inj, hframe, hframe] at hrow
    obtain ⟨hi, hrest⟩ := commented_inj (by decide) hrow
    rw [hi, String.append_right_inj] at hrest
    exact hentry hi (fieldList_inj h h' hrest)
  | cavlc mode => exact absurd rfl hs

/-- Entries that are written on the same lines are the same entries. -/
theorem WrittenInBlocks.unique {selection : Selection} (hs : selection.table ≠ .cavlc)
    {entries entries' : List Entry} {text : String} {lines lines' : List String}
    (h : selection.WrittenInBlocks entries text lines)
    (h' : selection.WrittenInBlocks entries' text lines')
    (hf : ∀ entry ∈ entries, selection.HasForm entry.fields)
    (hf' : ∀ entry ∈ entries', selection.HasForm entry.fields) : entries = entries' := by
  obtain rfl : lines = lines' := by
    have hinj : Function.Injective String.toList := fun a b => String.toList_inj.1
    have hsplit := h.split.symm.trans h'.split
    rwa [List.append_left_inj, List.map_inj_right hinj] at hsplit
  have hlen : entries.length = entries'.length := by
    have hpos : 0 < selection.blockHeight := by cases selection <;> simp [blockHeight]
    exact Nat.eq_of_mul_eq_mul_left hpos (h.count.symm.trans h'.count)
  refine List.ext_getElem hlen fun i hi hi' => ?_
  have hblock := (h.block i hi).symm.trans (h'.block i hi')
  exact blockLines_inj hs (hf _ (List.getElem_mem hi)) (hf' _ (List.getElem_mem hi')) hblock

end Selection

/-- **The generated text determines the table.** Two files of which one of the three tables with
indices is generated as the same text have the same collected entries, in the same order. -/
theorem transform_determines {selection : Selection} (hs : selection.table ≠ .cavlc)
    {raw raw' : List String} {text : String} (h : transform selection raw = .ok text)
    (h' : transform selection raw' = .ok text) :
    ∃ entries, collect selection raw = .ok entries ∧ collect selection raw' = .ok entries := by
  obtain ⟨entries, hes, hr⟩ := transform_eq_ok_iff.1 h
  obtain ⟨entries', hes', hr'⟩ := transform_eq_ok_iff.1 h'
  have hf : ∀ entry ∈ entries, selection.HasForm entry.fields := fun _ => hasForm_of_mem_collect hes
  have hf' : ∀ entry ∈ entries', selection.HasForm entry.fields :=
    fun _ => hasForm_of_mem_collect hes'
  have hw := Selection.writtenInBlocks_render hf
  have hw' := Selection.writtenInBlocks_render hf'
  rw [hr] at hw
  rw [hr'] at hw'
  obtain rfl := hw.unique hs hw' hf hf'
  exact ⟨entries, hes, hes'⟩

/-- Two files that differ in the order of their entries and in a blank line, with marks of the
switch in the tokens. -/
theorem transform_determines_marks :
    let raw := ["1 isFrame? ):case : 0 a ; break;"]
    let raw' := ["", "0\ta ; break;  1 isFrame? ):case :"]
    let text := Selection.ctxIdxInc.render
      [⟨0, ["a", ";", "break;"].map .text⟩, ⟨1, ["isFrame?", "):case", ":"].map .text⟩]
    Selection.ctxIdxInc.table ≠ .cavlc ∧
      transform .ctxIdxInc raw = .ok text ∧ transform .ctxIdxInc raw' = .ok text ∧
      ∃ entries, collect .ctxIdxInc raw = .ok entries ∧ collect .ctxIdxInc raw' = .ok entries := by
  intro raw raw' text
  have hs : Selection.ctxIdxInc.table ≠ .cavlc := by decide
  have h : transform .ctxIdxInc raw = .ok text := transform_eq_ok_iff.2 ⟨_,
    collect_eq_ok_of_gathered (by decide +kernel) (by decide +kernel) (.swap _ _ _) (by decide), rfl⟩
  have h' : transform .ctxIdxInc raw' = .ok text := transform_eq_ok_iff.2 ⟨_,
    collect_eq_ok_of_gathered (by decide +kernel) (by decide +kernel) (.refl _) (by decide), rfl⟩
  exact ⟨hs, h, h', transform_determines hs h h'⟩

end EntropyTables
