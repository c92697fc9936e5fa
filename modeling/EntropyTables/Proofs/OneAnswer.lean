import EntropyTables.Prompt
import Mathlib.Data.List.TakeDrop
import Mathlib.Data.List.TakeWhile
/-!
# One question, one answer

The question for the form of the CAVLC table takes the first line of the input and nothing after it
(`splitLine_eq_iff`). The line alone decides what is chosen (`answered_chosen`), whether it is text
or not. A console that refuses to show the question loses no input.

Main statement: `ask_one_answer`.
-/
namespace EntropyTables

namespace Terminal

variable {input line rest : List UInt8}

/-- The line stands first in the input, which goes on with the rest. It goes through the first line
feed of the input, or it is all of the input if there is none. -/
structure FirstLine (input line rest : List UInt8) : Prop where
  split : input = line ++ rest
  ended : (∃ body, 10 ∉ body ∧ line = body ++ [10]) ∨ 10 ∉ line ∧ rest = []

theorem ne_feed_of_not_mem (h : 10 ∉ line) : ∀ byte ∈ line, (byte != 10) = true := by
  intro byte hb
  have hne : byte ≠ 10 := fun he => h (he ▸ hb)
  simp [hne]

theorem splitLine_feed {body : List UInt8} (h : 10 ∉ body) (rest : List UInt8) :
    splitLine (body ++ 10 :: rest) = (body ++ [10], rest) := by
  have hbody := ne_feed_of_not_mem h
  unfold splitLine
  rw [List.span_eq_takeWhile_dropWhile, List.takeWhile_append_of_pos hbody,
    List.dropWhile_append_of_pos hbody]
  simp

theorem splitLine_no_feed (h : 10 ∉ line) : splitLine line = (line, []) := by
  have hline := ne_feed_of_not_mem h
  unfold splitLine
  rw [List.span_eq_takeWhile_dropWhile, List.takeWhile_eq_self_iff.2 hline,
    List.dropWhile_eq_nil_iff.2 hline]

/-- **What is taken of the input is its first line.** -/
theorem splitLine_eq_iff : splitLine input = (line, rest) ↔ FirstLine input line rest := by
  constructor
  · intro h
    by_cases hfeed : 10 ∈ input
    · obtain ⟨body, after, rfl, hbody⟩ := List.eq_append_cons_of_mem hfeed
      rw [splitLine_feed hbody] at h
      obtain ⟨rfl, rfl⟩ := Prod.mk.inj h
      exact ⟨by simp, .inl ⟨body, hbody, rfl⟩⟩
    · rw [splitLine_no_feed hfeed] at h
      obtain ⟨rfl, rfl⟩ := Prod.mk.inj h
      exact ⟨by simp, .inr ⟨hfeed, rfl⟩⟩
  · rintro ⟨rfl, ⟨body, hbody, rfl⟩ | ⟨hline, rfl⟩⟩
    · rw [List.append_assoc]
      exact splitLine_feed hbody rest
    · rw [List.append_nil]
      exact splitLine_no_feed hline

end Terminal

open Terminal (FirstLine)

/-! ## What an answer chooses -/

/-- The choice that is left of an answer without the blanks around it decides. -/
theorem CavlcMode.ofChoice_eq_lut_iff {answer : String} :
    ofChoice answer = .ok .lut ↔ Text.trimmed answer = "1" := by
  unfold ofChoice
  by_cases h₁ : Text.trimmed answer = "1"
  · simp [h₁]
  · by_cases h₂ : Text.trimmed answer = "2" <;> simp [h₁, h₂]

theorem CavlcMode.ofChoice_eq_sizes_iff {answer : String} :
    ofChoice answer = .ok .sizes ↔ Text.trimmed answer = "2" := by
  unfold ofChoice
  by_cases h₁ : Text.trimmed answer = "1"
  · simp [h₁]
  · by_cases h₂ : Text.trimmed answer = "2" <;> simp [h₁, h₂]

theorem CavlcMode.ofChoice_of_ne {answer : String} (h₁ : Text.trimmed answer ≠ "1")
    (h₂ : Text.trimmed answer ≠ "2") :
    ofChoice answer = .error (.invalidChoice (Text.trimmed answer)) := by
  simp [ofChoice, h₁, h₂]

namespace Prompt

/-- The bytes are the UTF-8 form of the text. -/
def Encodes (line : List UInt8) (text : String) : Prop := text.toUTF8.data.toList = line

instance (line : List UInt8) (text : String) : Decidable (Encodes line text) :=
  inferInstanceAs (Decidable (text.toUTF8.data.toList = line))

/-- The result is what the bytes of an answer say: the form that its text chooses, or the fault of
the answer. -/
structure Answered (line : List UInt8) (result : Except TableError CavlcMode) : Prop where
  notUtf8 : (∀ text, ¬ Encodes line text) → result = .error (failed .notUtf8)
  lut : ∀ text, Encodes line text → (result = .ok .lut ↔ Text.trimmed text = "1")
  sizes : ∀ text, Encodes line text → (result = .ok .sizes ↔ Text.trimmed text = "2")
  other : ∀ text, Encodes line text → Text.trimmed text ≠ "1" → Text.trimmed text ≠ "2" →
    result = .error (.invalidChoice (Text.trimmed text))

variable {line : List UInt8}

theorem Encodes.toUTF8_eq {text : String} (h : Encodes line text) :
    text.toUTF8 = ⟨line.toArray⟩ := by
  rw [← h]

theorem encodes_of_fromUTF8? {text : String}
    (h : String.fromUTF8? ⟨line.toArray⟩ = some text) : Encodes line text := by
  unfold String.fromUTF8? at h
  split at h
  · obtain rfl := Option.some.inj h
    rfl
  · cases h

theorem chosen_of_encodes {text : String} (h : Encodes line text) :
    chosen ⟨line.toArray⟩ = CavlcMode.ofChoice text := by
  unfold chosen
  rw [← h.toUTF8_eq, fromUTF8?_toUTF8]

theorem chosen_of_not_encodes (h : ∀ text, ¬ Encodes line text) :
    chosen ⟨line.toArray⟩ = .error (failed .notUtf8) := by
  unfold chosen
  cases htext : String.fromUTF8? ⟨line.toArray⟩ with
  | none => rfl
  | some text => exact absurd (encodes_of_fromUTF8? htext) (h text)

/-- **The bytes of an answer decide.** -/
theorem answered_chosen (line : List UInt8) : Answered line (chosen ⟨line.toArray⟩) where
  notUtf8 := chosen_of_not_encodes
  lut text h := by rw [chosen_of_encodes h, CavlcMode.ofChoice_eq_lut_iff]
  sizes text h := by rw [chosen_of_encodes h, CavlcMode.ofChoice_eq_sizes_iff]
  other text h h₁ h₂ := by rw [chosen_of_encodes h, CavlcMode.ofChoice_of_ne h₁ h₂]

/-! ## Asking -/

def askOn (t : Terminal) : Except TableError CavlcMode × Terminal :=
  (ask : StateM Terminal (Except TableError CavlcMode)) t

section

variable {t : Terminal} {fault : Fault}

/-- A console that refuses to show the question is left as it was. -/
theorem askOn_write_fault (h : t.writeFault = some fault) :
    askOn t = (.error (failed fault), t) := by
  obtain ⟨input, shown, writeFault, flushFault⟩ := t
  cases h
  rfl

/-- A console that refuses to pass the question on keeps its input. -/
theorem askOn_flush_fault (hw : t.writeFault = none) (hf : t.flushFault = some fault) :
    askOn t = (.error (failed fault), { t with shown := t.shown ++ question }) := by
  obtain ⟨input, shown, writeFault, flushFault⟩ := t
  cases hw
  cases hf
  rfl

/-- A console without a fault shows the question and gives up its first line. -/
theorem askOn_answer (hw : t.writeFault = none) (hf : t.flushFault = none) :
    askOn t = (chosen ⟨(Terminal.splitLine t.input).1.toArray⟩,
      { t with shown := t.shown ++ question, input := (Terminal.splitLine t.input).2 }) := by
  obtain ⟨input, shown, writeFault, flushFault⟩ := t
  cases hw
  cases hf
  rfl

/-- The result depends on the first line of the input alone. -/
theorem askOn_same_line {input : List UInt8}
    (h : (Terminal.splitLine input).1 = (Terminal.splitLine t.input).1) :
    (askOn { t with input }).1 = (askOn t).1 := by
  obtain ⟨input', shown, writeFault, flushFault⟩ := t
  cases writeFault with
  | some fault => rw [askOn_write_fault rfl, askOn_write_fault rfl]
  | none =>
    cases flushFault with
    | some fault => rw [askOn_flush_fault rfl rfl, askOn_flush_fault rfl rfl]
    | none => rw [askOn_answer rfl rfl, askOn_answer rfl rfl, h]

end

/-- **Asking takes exactly one answer.** If the console refuses to show the question or to pass it
on, the refusal is reported and all input is left. Otherwise the question is shown and nothing else,
the first line is taken and nothing after it, and that line alone decides. Inputs with the same first
line are answered alike. -/
theorem ask_one_answer (t : Terminal) :
    (∀ fault, t.writeFault.or t.flushFault = some fault →
      (askOn t).1 = .error (failed fault) ∧ (askOn t).2.input = t.input) ∧
    (t.writeFault.or t.flushFault = none →
      (askOn t).2.shown = t.shown ++ question ∧
        ∃ line, FirstLine t.input line (askOn t).2.input ∧ Answered line (askOn t).1) ∧
    ∀ input line rest rest', FirstLine t.input line rest → FirstLine input line rest' →
      (askOn { t with input }).1 = (askOn t).1 := by
  refine ⟨fun fault h => ?_, fun h => ?_, fun input line rest rest' h h' => ?_⟩
  · rcases Option.or_eq_some_iff.1 h with hw | ⟨hw, hf⟩
    · rw [askOn_write_fault hw]
      exact ⟨rfl, rfl⟩
    · rw [askOn_flush_fault hw hf]
      exact ⟨rfl, rfl⟩
  · obtain ⟨hw, hf⟩ := Option.or_eq_none_iff.1 h
    rw [askOn_answer hw hf]
    exact ⟨rfl, _, Terminal.splitLine_eq_iff.1 rfl, answered_chosen _⟩
  · refine askOn_same_line ?_
    rw [Terminal.splitLine_eq_iff.2 h, Terminal.splitLine_eq_iff.2 h']

/-- The answer ends at its line feed, before bytes that are no text. -/
theorem ask_one_answer_untouched :
    let t : Terminal := .ofInput [50, 13, 10, 255]
    let refusing : Terminal := { t with flushFault := some .timedOut }
    (askOn t).1 = .ok .sizes ∧ (askOn t).2.shown = question ∧ (askOn t).2.input = [255] ∧
      (askOn refusing).1 = .error (failed .timedOut) ∧ (askOn refusing).2.input = t.input := by
  intro t refusing
  obtain ⟨hshown, line, hline, hanswer⟩ := (ask_one_answer t).2.1 rfl
  obtain ⟨rfl, hrest⟩ := Prod.mk.inj (Terminal.splitLine_eq_iff.2 hline)
  have hchoice : Text.trimmed "2\r\n" = "2" := by decide
  refine ⟨(hanswer.sizes "2\r\n" (by decide)).2 hchoice, ?_, hrest.symm, ?_⟩
  · rw [hshown]
    rfl
  · exact (ask_one_answer refusing).1 .timedOut rfl

end Prompt

end EntropyTables
