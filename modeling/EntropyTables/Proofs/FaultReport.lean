import Mathlib.Order.Bounds.Defs
import EntropyTables.Proofs.Gathering
/-!
# What the error of a file reports

Main statement: `collect_error`. An error that cites a line is about the first line at fault: all
lines before it are clean, and none after it matters. A line that its grammar refuses is malformed,
whatever its entries would be; otherwise the first entry of the line that cannot be added is
reported, as out of range before it is reported as repeated. A missing index is reported when no
line is at fault.
-/
namespace EntropyTables

def TableError.citedLine : TableError → Option Nat
  | .malformedLine n _ _ => some n
  | .duplicateIndex _ n _ => some n
  | .indexOutOfRange _ n _ => some n
  | _ => none

/-- Line `number` of the file reads as entries one of which has the index. -/
def Selection.Declares (selection : Selection) (raw : List String) (index : Int) (number : Nat) :
    Prop :=
  ∃ r ∈ selection.readings raw, r.1.number = number ∧ index ∈ r.2.map Entry.index

/-- The entry is the first of its line that cannot be added, and the error says why. -/
structure FirstRefused (selection : Selection) (raw : List String) (n : Nat) (before : List Entry)
    (entry : Entry) (e : TableError) : Prop where
  admissible : Admissible selection.domainSize (selection.parsed (raw.take (n - 1)) ++ before)
  reported :
    (∃ size : Nat, selection.domainSize = some size ∧ ¬ (0 ≤ entry.index ∧ entry.index < size) ∧
      e = .indexOutOfRange entry.index n size) ∨
    ((∀ size : Nat, selection.domainSize = some size → 0 ≤ entry.index ∧ entry.index < size) ∧
      entry.index ∈ (selection.parsed (raw.take (n - 1)) ++ before).map Entry.index ∧
      ∃ first, IsLeast {m | selection.Declares raw entry.index m} first ∧
        e = .duplicateIndex entry.index n first)

/-! ## The line of a repeated index -/

theorem readings_append_cons {selection : Selection} {before : List String} {text : String}
    {line : Line} {entries : List Entry} {layout' : Layout} (hnum : line.number = before.length + 1)
    (htext : Line.normalize text = some line.text)
    (hp : ((Layout.fresh selection).after (Line.ofRaw before)).parse line = .ok (entries, layout'))
    (after : List String) : selection.readings (before ++ text :: after) = selection.readings before ++
      (line, entries) :: layout'.readings (Line.ofRawFrom (line.number + 1) after) := by
  rw [Selection.readings, Line.ofRaw_append_cons hnum htext, Layout.readings_append,
    Layout.readings_of_ok hp]
  rfl

/-- A history has each index once, so with one line only. -/
theorem Admissible.line_unique {domain : Option Nat} {history : List (Entry × Nat)}
    (h : Admissible domain (entriesOf history)) {a b : Entry} {m n : Nat}
    (ha : (a, m) ∈ history) (hb : (b, n) ∈ history) (hi : a.index = b.index) : m = n := by
  have hn : (history.map fun c => c.1.index).Nodup := by
    have := h.1
    rwa [entriesOf, List.map_map] at this
  exact congrArg Prod.snd (List.inj_on_of_nodup_map hn ha hb hi)

/-- **The first line of a repeated index** is the least line that declares it: the history has the
index once, and every other line that declares it comes later. -/
theorem isLeast_declares {selection : Selection} {before : List String} {text : String}
    {line : Line} {pre rest : List Entry} {entry earlier : Entry} {layout' : Layout} {first : Nat}
    (hnum : line.number = before.length + 1) (htext : Line.normalize text = some line.text)
    (hp : ((Layout.fresh selection).after (Line.ofRaw before)).parse line =
      .ok (pre ++ entry :: rest, layout'))
    (ha : Admissible selection.domainSize (selection.parsed before ++ pre))
    (hmem : (earlier, first) ∈ calls (selection.readings before) ++ pre.map (·, line.number))
    (hsame : earlier.index = entry.index) (after : List String) :
    IsLeast {m | selection.Declares (before ++ text :: after) entry.index m} first := by
  have hr := readings_append_cons hnum htext hp after
  have hle : first ≤ line.number := by
    rcases List.mem_append.1 hmem with h | h
    · obtain ⟨r, hr, rfl, -⟩ := mem_calls_iff.1 h
      have := Line.number_of_mem_ofRawFrom (Layout.mem_of_mem_readings hr)
      omega
    · obtain ⟨_, -, h⟩ := List.mem_map.1 h
      cases h
      exact Nat.le_refl _
  constructor
  · show selection.Declares _ _ _
    unfold Selection.Declares
    rw [hr]
    rcases List.mem_append.1 hmem with h | h
    · obtain ⟨r, hr, hn, he⟩ := mem_calls_iff.1 h
      exact ⟨r, by simp [hr], hn, List.mem_map.2 ⟨earlier, he, hsame⟩⟩
    · obtain ⟨_, he, h⟩ := List.mem_map.1 h
      cases h
      exact ⟨(line, pre ++ entry :: rest), by simp, rfl,
        List.mem_map.2 ⟨earlier, List.mem_append_left _ he, hsame⟩⟩
  · rintro m ⟨r, hr', rfl, hi⟩
    rw [hr, List.mem_append, List.mem_cons] at hr'
    rcases hr' with h | rfl | h
    · obtain ⟨other, ho, hoi⟩ := List.mem_map.1 hi
      have ha' : Admissible selection.domainSize
          (entriesOf (calls (selection.readings before) ++ pre.map (·, line.number))) := by
        rw [entriesOf_calls_append]
        exact ha
      have hcall : (other, r.1.number) ∈
          calls (selection.readings before) ++ pre.map (·, line.number) :=
        List.mem_append_left _ (mem_calls_iff.2 ⟨r, h, rfl, ho⟩)
      exact Nat.le_of_eq (ha'.line_unique hmem hcall (hsame.trans hoi.symm))
    · exact hle
    · have := Line.number_of_mem_ofRawFrom (Layout.mem_of_mem_readings h)
      omega

/-! ## The report -/

/-- The error at a line says why the line, or its first entry that cannot be added, is refused. -/
theorem FirstFault.report {selection : Selection} {before : List String} {text : String}
    {line : Line} {e : TableError} (h : FirstFault selection before line e)
    (htext : Line.normalize text = some line.text) (after : List String) :
    (¬ selection.Accepts line ∧ (Layout.fresh selection).parse line = .error e ∧
      ∃ reason, e = .malformedLine line.number line.text reason) ∨
    (selection.Accepts line ∧ ∃ pre entry rest,
      (line, pre ++ entry :: rest) ∈ selection.readings (before ++ text :: after) ∧
      FirstRefused selection (before ++ text :: after) line.number pre entry e) := by
  have hnum := h.number_eq
  have hsel := selection_after_fresh selection (Line.ofRaw before)
  have htake : (before ++ text :: after).take (line.number - 1) = before := by simp [hnum]
  cases h.fault with
  | malformed hp =>
    refine .inl ⟨?_, ?_, parse_blames _ line e hp⟩
    · have hn := (Layout.not_accepts_iff _ line).2 ⟨e, hp⟩
      rwa [hsel] at hn
    · rw [Layout.parse_eq, hsel] at hp
      exact map_eq_error_iff.1 hp
  | @refused pre rest entry layout' _ hp ha hr =>
    rw [entriesOf_calls] at ha
    refine .inr ⟨?_, pre, entry, rest, ?_, by rw [htake]; exact ha, ?_⟩
    · have hacc := Layout.accepts_of_parse hp
      rwa [hsel] at hacc
    · rw [readings_append_cons hnum htext hp after]
      simp
    · rw [htake]
      cases hr with
      | outside hsize hout =>
        refine .inl ⟨_, hsize, fun hin => ?_, rfl⟩
        rw [inDomain_iff.2 fun size hs => by rw [hsize] at hs; cases hs; exact hin] at hout
        cases hout
      | @repeated earlier first mem same =>
        have hi : earlier ∈ selection.parsed before ++ pre := by
          have := List.mem_map_of_mem (f := Prod.fst) mem
          rwa [← entriesOf, entriesOf_calls_append] at this
        refine .inr ⟨?_, List.mem_map.2 ⟨earlier, hi, same⟩, first, ?_, rfl⟩
        · rw [← same]
          exact inDomain_iff.1 (ha.2 earlier hi)
        · exact isLeast_declares hnum htext hp ha mem same after

theorem FirstRefused.citedLine {selection : Selection} {raw : List String} {n : Nat}
    {before : List Entry} {entry : Entry} {e : TableError}
    (h : FirstRefused selection raw n before entry e) :
    e.citedLine = some n ∧ ∀ m line reason, e ≠ .malformedLine m line reason := by
  obtain ⟨_, _, _, rfl⟩ | ⟨_, _, _, _, rfl⟩ := h.reported
  · exact ⟨rfl, nofun⟩
  · exact ⟨rfl, nofun⟩

theorem FirstFault.citedLine {selection : Selection} {before : List String} {text : String}
    {line : Line} {e : TableError} (h : FirstFault selection before line e)
    (htext : Line.normalize text = some line.text) : e.citedLine = some line.number := by
  rcases h.report htext [] with ⟨-, -, _, rfl⟩ | ⟨-, _, _, _, -, hr⟩
  · rfl
  · exact hr.citedLine.1

/-- The error cites line `n` of the file, which holds the text and is the first at fault. -/
structure CitesFirstFault (selection : Selection) (raw : List String) (n : Nat) (text : String)
    (e : TableError) : Prop where
  pos : 1 ≤ n
  le : n ≤ raw.length
  /-- The line is not blank. -/
  kept : raw[n - 1]?.bind Line.normalize = some text
  /-- No line before it is at fault. -/
  clean : selection.Clean (raw.take (n - 1))
  malformed_iff : (∃ line reason, e = .malformedLine n line reason) ↔ ¬ selection.Accepts ⟨n, text⟩
  /-- If its grammar refuses the line, the error is that of the grammar. -/
  malformed : ¬ selection.Accepts ⟨n, text⟩ → (Layout.fresh selection).parse ⟨n, text⟩ = .error e ∧
    ∃ reason, e = .malformedLine n text reason
  /-- Otherwise the error is about its first entry that cannot be added. -/
  refused : selection.Accepts ⟨n, text⟩ → ∃ before entry after,
    (⟨n, text⟩, before ++ entry :: after) ∈ selection.readings raw ∧
      FirstRefused selection raw n before entry e
  /-- No line after it matters. -/
  final : ∀ tail, collect selection (raw.take n ++ tail) = .error e

/-- The error of the first line at fault cites it as such. -/
theorem FirstFault.cites {selection : Selection} {before : List String} {text : String} {line : Line}
    {e : TableError} (hf : FirstFault selection before line e)
    (ht : Line.normalize text = some line.text)
    (h : ∀ tail, collect selection (before ++ text :: tail) = .error e) (after : List String) :
    CitesFirstFault selection (before ++ text :: after) line.number line.text e := by
  have hnum := hf.number_eq
  have hline : (⟨line.number, line.text⟩ : Line) = line := rfl
  have htake : (before ++ text :: after).take line.number = before ++ [text] := by
    simp [hnum, List.take_append, List.take_of_length_le]
  refine ⟨by omega, by simp [hnum], by simp [hnum, ht], by simpa [hnum] using hf.clean, ?_, ?_, ?_,
    fun tail => ?_⟩
  · rw [hline]
    rcases hf.report ht after with ⟨hn, -, reason, he⟩ | ⟨ha, _, _, _, -, hr⟩
    · exact iff_of_true ⟨_, reason, he⟩ hn
    · refine iff_of_false ?_ (not_not.2 ha)
      rintro ⟨l, reason, he⟩
      exact hr.citedLine.2 _ _ _ he
  · rw [hline]
    rcases hf.report ht after with ⟨-, hp, he⟩ | ⟨ha, -⟩
    · exact fun _ => ⟨hp, he⟩
    · exact fun hn => absurd ha hn
  · rw [hline]
    rcases hf.report ht after with ⟨hn, -⟩ | ⟨-, hr⟩
    · exact fun ha => absurd ha hn
    · exact fun _ => hr
  · rw [htake, List.append_assoc]
    exact h tail

/-- **The first fault.** Every error either cites a line or names a missing index.

An error that cites line `n` is about a line of the file that is not blank. The lines before it are
clean; the error is that of the grammar exactly when the grammar refuses the line, and otherwise
reports its first entry that cannot be added. Whatever follows line `n`, the error is the same.

A missing index is reported exactly when no line is at fault and the index is the smallest of the
domain that is absent. -/
theorem collect_error (selection : Selection) (raw : List String) :
    (∀ e, collect selection raw = .error e →
      (∃ n, e.citedLine = some n) ∨ ∃ index, e = .missingIndex index) ∧
    (∀ e n, collect selection raw = .error e → e.citedLine = some n →
      ∃ text, CitesFirstFault selection raw n text e) ∧
    (∀ index, collect selection raw = .error (.missingIndex index) ↔
      selection.Clean raw ∧ (∃ size : Nat, selection.domainSize = some size ∧ index < size) ∧
        LeastAbsent ((selection.parsed raw).map Entry.index) index) := by
  rcases collect_cases selection raw with ⟨hclean, hcov, h⟩ |
    ⟨hclean, size, absent, hsize, h, hlt, habs⟩ | ⟨before, text, after, line, e, rfl, ht, hf, h⟩
  · rw [h]
    refine ⟨nofun, nofun, fun index => ⟨nofun, ?_⟩⟩
    rintro ⟨-, ⟨size, hsize, hlt⟩, habs⟩
    exact absurd (hcov size hsize index habs.nonneg hlt) habs.absent
  · rw [h]
    refine ⟨?_, ?_, fun index => ⟨?_, ?_⟩⟩
    · rintro _ ⟨⟩; exact .inr ⟨absent, rfl⟩
    · rintro _ n ⟨⟩ ⟨⟩
    · rintro ⟨⟩; exact ⟨hclean, ⟨size, hsize, hlt⟩, habs⟩
    · rintro ⟨-, -, habs'⟩; rw [habs.unique habs']
  · have hcite := hf.citedLine ht
    rw [h after]
    refine ⟨?_, ?_, fun index => ⟨?_, ?_⟩⟩
    · rintro _ ⟨⟩; exact .inl ⟨_, hcite⟩
    · rintro _ n ⟨⟩ hn
      rw [hcite] at hn
      cases hn
      exact ⟨line.text, hf.cites ht h after⟩
    · rintro ⟨⟩; cases hcite
    · rintro ⟨hclean, -⟩; exact absurd hclean (hf.not_clean ht)

end EntropyTables
