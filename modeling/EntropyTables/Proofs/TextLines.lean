import EntropyTables.Proofs.CavlcForms
import EntropyTables.Proofs.EntryForms
import EntropyTables.Proofs.OrderIndependence
/-!
# The lines of a generated text

Each entry is written as a block of lines: four lines of a switch, or one row. No token and no
number holds a newline (`oneLine_of_mem_blockLines`), so the newlines of a text are those that the
renderer writes, and its lines are the lines of the blocks, one block after the other
(`writtenInBlocks_render`).

Main statement: `transform_blocks`.
-/
namespace EntropyTables

/-! ## Lines and their text -/

/-- The text is part of one line. -/
def Text.OneLine (text : String) : Prop := '\n' ∉ text.toList

instance : DecidablePred Text.OneLine :=
  fun text => inferInstanceAs (Decidable ('\n' ∉ text.toList))

theorem Text.oneLine_append {a b : String} : OneLine (a ++ b) ↔ OneLine a ∧ OneLine b := by
  simp [OneLine]

namespace Text.OneLine

theorem of_not_blank {text : String} (h : ∀ c ∈ text.toList, isBlank c = false) :
    OneLine text := by
  intro hn
  have hb : isBlank '\n' = true := by decide
  rw [h _ hn] at hb
  cases hb

theorem of_isCell {text : String} (h : Render.IsCell text) : OneLine text :=
  of_not_blank fun c hc => (h c hc).2

theorem decimal (n : Int) : OneLine (Text.decimal n) := of_isCell (Render.isCell_decimal n)

theorem intercalate {sep : String} (hs : OneLine sep) : ∀ {parts : List String},
    (∀ part ∈ parts, OneLine part) → OneLine (sep.intercalate parts)
  | [], _ => by simp [OneLine]
  | [part], h => by
    rw [String.intercalate_singleton]
    exact h part (by simp)
  | part :: next :: parts, h => by
    obtain ⟨hp, h⟩ := List.forall_mem_cons.1 h
    rw [String.intercalate_cons_cons]
    exact oneLine_append.2 ⟨oneLine_append.2 ⟨hp, hs⟩, intercalate hs h⟩

end Text.OneLine

open Text (OneLine oneLine_append)

namespace Render

/-- The text of lines, each with a newline after it. -/
def ofLines (lines : List String) : String := String.join (lines.map (· ++ "\n"))

theorem ofLines_append (as bs : List String) : ofLines (as ++ bs) = ofLines as ++ ofLines bs := by
  simp [ofLines, String.join_append]

theorem ofLines_flatMap {f : Entry → List String} : ∀ entries : List Entry,
    ofLines (entries.flatMap f) = String.join (entries.map fun entry => ofLines (f entry))
  | [] => rfl
  | entry :: rest => by
    rw [List.flatMap_cons, ofLines_append, ofLines_flatMap rest, List.map_cons, String.join_cons]

/-- **A text of lines splits into the lines**, with nothing after the last newline. -/
theorem splitOn_ofLines : ∀ {lines : List String}, (∀ line ∈ lines, OneLine line) →
    (ofLines lines).toList.splitOn '\n' = lines.map String.toList ++ [[]]
  | [], _ => by decide
  | line :: lines, h => by
    obtain ⟨hl, h⟩ := List.forall_mem_cons.1 h
    have htext : (ofLines (line :: lines)).toList =
        line.toList ++ '\n' :: (ofLines lines).toList := by
      simp [ofLines]
    rw [htext, List.splitOn_append_cons_self_of_not_mem hl, splitOn_ofLines h]
    rfl

theorem getLast?_ofLines {lines : List String} (h : lines ≠ []) :
    (ofLines lines).toList.getLast? = some '\n' := by
  obtain ⟨init, last, rfl⟩ := (List.eq_nil_or_concat' lines).resolve_left h
  rw [ofLines_append]
  simp [ofLines]

end Render

/-! ## Blocks of one height -/

theorem length_flatMap_of_height {α β : Type} {f : α → List β} {height : Nat} :
    ∀ {as : List α}, (∀ a ∈ as, (f a).length = height) →
      (as.flatMap f).length = height * as.length
  | [], _ => rfl
  | a :: as, h => by
    obtain ⟨ha, h⟩ := List.forall_mem_cons.1 h
    rw [List.flatMap_cons, List.length_append, ha, length_flatMap_of_height h, List.length_cons,
      Nat.mul_succ, Nat.add_comm]

/-- A block stands below the blocks before it. -/
theorem take_drop_flatMap {α β : Type} {f : α → List β} {height : Nat} :
    ∀ {as : List α}, (∀ a ∈ as, (f a).length = height) → ∀ i (hi : i < as.length),
      ((as.flatMap f).drop (height * i)).take height = f as[i]
  | a :: as, h, 0, _ => by
    obtain ⟨ha, -⟩ := List.forall_mem_cons.1 h
    simp [← ha]
  | a :: as, h, i + 1, hi => by
    obtain ⟨ha, h⟩ := List.forall_mem_cons.1 h
    have hdrop : height * (i + 1) = (f a).length + height * i := by
      rw [ha, Nat.mul_succ, Nat.add_comm]
    rw [List.flatMap_cons, hdrop, List.drop_length_add_append,
      take_drop_flatMap h i (by simpa using hi)]
    rfl

/-! ## The lines of an entry -/

namespace Selection

open Render

def blockLines : Selection → Entry → List String
  | .ctxIdxInc, entry =>
    [caseIndent ++ "case " ++ Text.decimal entry.index ++ ":",
      bodyIndent ++ "ctxIdxInc = (mode == 1) ? (isFrame ? " ++ fieldAt entry 0 ++ " : "
        ++ fieldAt entry 1 ++ ") : " ++ fieldAt entry 2 ++ ";",
      bodyIndent ++ "break;",
      ""]
  | .cabacInit, entry =>
    [bodyIndent ++ "/*" ++ Text.decimal entry.index ++ "*/ " ++ fieldList entry ++ ","]
  | .rangeTabLps, entry =>
    [bodyIndent ++ "/*" ++ Text.decimal entry.index ++ "*/ [" ++ Text.decimal entry.index ++ "] = ["
      ++ fieldList entry ++ "],"]
  | .cavlc .lut, entry =>
    [bodyIndent ++ ",\t".intercalate (codewordCells (entry.fields.map Field.toText)) ++ ","]
  | .cavlc .sizes, entry =>
    [bodyIndent ++ ",\t".intercalate (widthCells (entry.fields.map Field.toText)) ++ ","]

def blockHeight : Selection → Nat
  | .ctxIdxInc => 4
  | _ => 1

theorem length_blockLines (selection : Selection) (entry : Entry) :
    (selection.blockLines entry).length = selection.blockHeight := by
  cases selection with
  | cavlc mode => cases mode <;> rfl
  | _ => rfl

def block : Selection → Entry → String
  | .ctxIdxInc => switchCase
  | .cabacInit => cabacInitRow
  | .rangeTabLps => rangeTabLpsRow
  | .cavlc .lut => bitLiteralRow
  | .cavlc .sizes => widthRow

theorem block_eq (selection : Selection) (entry : Entry) :
    selection.block entry = ofLines (selection.blockLines entry) := by
  cases selection with
  | ctxIdxInc => simp [block, switchCase, blockLines, ofLines, String.append_assoc]
  | cabacInit => simp [block, cabacInitRow, blockLines, ofLines, String.append_assoc]
  | rangeTabLps => simp [block, rangeTabLpsRow, blockLines, ofLines, String.append_assoc]
  | cavlc mode =>
    cases mode with
    | lut =>
      simp [block, bitLiteralRow, cellRow, blockLines, codewordCells, ofLines, String.append_assoc]
    | sizes =>
      simp [block, widthRow, cellRow, blockLines, widthCells, ofLines, String.append_assoc,
        Function.comp_def]

theorem render_eq (selection : Selection) (entries : List Entry) :
    selection.render entries = blocks selection.block entries := by
  cases selection with
  | cavlc mode => cases mode <;> rfl
  | _ => rfl

theorem render_singleton (selection : Selection) (entry : Entry) :
    selection.render [entry] = selection.block entry := by
  rw [render_eq]
  simp [blocks]

/-- **The rendered lines** are the lines of the entries, one block after the other. -/
theorem render_eq_ofLines (selection : Selection) (entries : List Entry) :
    selection.render entries = ofLines (entries.flatMap selection.blockLines) := by
  rw [render_eq, ofLines_flatMap, blocks, funext (block_eq selection)]

/-! ## No newline comes from the source -/

theorem oneLine_fieldList {entry : Entry} {count : Nat} (h : AreNumbers count entry.fields) :
    OneLine (fieldList entry) := by
  obtain ⟨values, -, hv⟩ := h
  refine OneLine.intercalate (by simp [OneLine]) ?_
  rw [hv, List.map_map]
  intro part hp
  obtain ⟨value, -, rfl⟩ := List.mem_map.1 hp
  exact .decimal value

/-- **No token and no number adds a line.** -/
theorem oneLine_of_mem_blockLines {selection : Selection} {entry : Entry}
    (h : selection.HasForm entry.fields) : ∀ line ∈ selection.blockLines entry, OneLine line := by
  have hbody : OneLine bodyIndent := by decide
  have hnumber := OneLine.decimal entry.index
  cases selection with
  | ctxIdxInc =>
    obtain ⟨a, b, c, ha, hb, hc, hf⟩ := h
    have ha : OneLine (fieldAt entry 0) := by rw [fieldAt, hf]; exact .of_not_blank ha.2
    have hb : OneLine (fieldAt entry 1) := by rw [fieldAt, hf]; exact .of_not_blank hb.2
    have hc : OneLine (fieldAt entry 2) := by rw [fieldAt, hf]; exact .of_not_blank hc.2
    simp only [blockLines, List.forall_mem_cons, oneLine_append, hbody, hnumber, ha, hb, hc]
    decide
  | cabacInit =>
    simp only [blockLines, List.forall_mem_cons, oneLine_append, hbody, hnumber,
      oneLine_fieldList h]
    decide
  | rangeTabLps =>
    simp only [blockLines, List.forall_mem_cons, oneLine_append, hbody, hnumber,
      oneLine_fieldList h]
    decide
  | cavlc mode =>
    obtain ⟨cells, hrow, hf⟩ := h
    have hcells : entry.fields.map Field.toText = cells := by
      rw [hf, List.map_map]
      exact List.map_id cells
    obtain ⟨⟨-, hc⟩, -, hw⟩ := (rowForms_of_isCavlcRow hrow).readable
    have hsep : OneLine ",\t" := by decide
    cases mode with
    | lut =>
      have hline := OneLine.intercalate hsep fun cell h => .of_isCell (hc cell h)
      simp only [blockLines, List.forall_mem_cons, oneLine_append, hbody, hcells, hline]
      decide
    | sizes =>
      have hline := OneLine.intercalate hsep fun cell h => .of_isCell (hw cell h)
      simp only [blockLines, List.forall_mem_cons, oneLine_append, hbody, hcells, hline]
      decide

/-- The text has one block of lines for each entry, in order. -/
structure WrittenInBlocks (selection : Selection) (entries : List Entry) (text : String)
    (lines : List String) : Prop where
  /-- Cut at its newlines, the text is its lines, with nothing after the last newline. -/
  split : text.toList.splitOn '\n' = lines.map String.toList ++ [[]]
  /-- Without entries there is no text, and any other text ends in a newline. -/
  ending : if entries = [] then text = "" else text.toList.getLast? = some '\n'
  /-- All blocks are of one height. -/
  count : lines.length = selection.blockHeight * entries.length
  /-- The block at each place is that of the entry at the place. -/
  block : ∀ i (h : i < entries.length),
    (lines.drop (selection.blockHeight * i)).take selection.blockHeight =
      selection.blockLines entries[i]
  /-- A block is what its entry is rendered as alone. -/
  alone : ∀ entry ∈ entries, selection.render [entry] = ofLines (selection.blockLines entry)

/-- **Rendered entries** have their lines and no others. -/
theorem writtenInBlocks_render {selection : Selection} {entries : List Entry}
    (h : ∀ entry ∈ entries, selection.HasForm entry.fields) :
    selection.WrittenInBlocks entries (selection.render entries)
      (entries.flatMap selection.blockLines) := by
  have hheight : ∀ entry ∈ entries, (selection.blockLines entry).length = selection.blockHeight :=
    fun entry _ => selection.length_blockLines entry
  refine ⟨?_, ?_, length_flatMap_of_height hheight, take_drop_flatMap hheight, ?_⟩
  · rw [render_eq_ofLines]
    refine splitOn_ofLines fun line hl => ?_
    obtain ⟨entry, he, hl⟩ := List.mem_flatMap.1 hl
    exact oneLine_of_mem_blockLines (h entry he) line hl
  · rw [render_eq_ofLines]
    by_cases hne : entries = []
    · rw [if_pos hne, hne]
      rfl
    · rw [if_neg hne]
      refine getLast?_ofLines fun hnil => hne (List.length_eq_zero_iff.1 ?_)
      have hcount := length_flatMap_of_height hheight
      have hpos : selection.blockHeight ≠ 0 := by cases selection <;> simp [blockHeight]
      rw [hnil, List.length_nil] at hcount
      exact (Nat.mul_eq_zero.1 hcount.symm).resolve_left hpos
  · intro entry _
    rw [render_singleton, block_eq]

end Selection

/-- **One block for each entry, in ascending order.** Whatever characters the raw lines hold, the
lines of the generated text are those of the collected entries: no token adds a line, removes one or
shifts a block. -/
theorem transform_blocks {selection : Selection} {raw : List String} {text : String}
    (h : transform selection raw = .ok text) :
    ∃ entries lines, collect selection raw = .ok entries ∧
      entries.Pairwise (fun a b => a.index < b.index) ∧
      selection.WrittenInBlocks entries text lines := by
  obtain ⟨entries, hes, rfl⟩ := transform_eq_ok_iff.1 h
  obtain ⟨hcomplete, hsorted⟩ := collect_eq_ok_iff.1 hes
  refine ⟨entries, _, hes, ?_, Selection.writtenInBlocks_render fun entry he => ?_⟩
  · rw [hsorted]
    exact sortEntries_ascending hcomplete.distinct
  · exact hasForm_of_mem_collect hes he

/-- A raw line with a newline, a line separator and a record separator in it. Only the last of the
three is part of a token. -/
theorem transform_blocks_separators :
    let raw := ["1 :\x1e) case\n;\u20280 a b c"]
    let text := Render.ofLines
      ["    case 0:",
        "        ctxIdxInc = (mode == 1) ? (isFrame ? a : b) : c;",
        "        break;",
        "",
        "    case 1:",
        "        ctxIdxInc = (mode == 1) ? (isFrame ? :\x1e) : case) : ;;",
        "        break;",
        ""]
    transform .ctxIdxInc raw = .ok text ∧
      ∃ entries lines, collect .ctxIdxInc raw = .ok entries ∧
        entries.Pairwise (fun a b => a.index < b.index) ∧
        Selection.ctxIdxInc.WrittenInBlocks entries text lines := by
  intro raw text
  have hes : collect .ctxIdxInc raw =
      .ok [⟨0, ["a", "b", "c"].map .text⟩, ⟨1, [":\x1e)", "case", ";"].map .text⟩] :=
    collect_eq_ok_of_gathered (by decide +kernel) (by decide +kernel) (.swap _ _ _) (by decide)
  have h : transform .ctxIdxInc raw = .ok text :=
    transform_eq_ok_iff.2 ⟨_, hes, by decide +kernel⟩
  exact ⟨h, transform_blocks h⟩

end EntropyTables
