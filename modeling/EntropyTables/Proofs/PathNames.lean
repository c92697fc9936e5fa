import Mathlib.Data.List.Basic
import EntropyTables.Files.Output
/-!
# The names in a path

A path is followed by its names, which are its parts but the empty ones. What is asked of the paths
around a file and of its sibling is a matter of their texts: the sibling has a name of its own
(`sibling_names`), and whatever leads the way to the directory of a path also leads the way to its
sibling (`leads_sibling`).
-/
namespace EntropyTables

theorem not_mem_of_mem_splitOn {c : Char} : ∀ {cs piece : List Char}, piece ∈ cs.splitOn c → c ∉ piece
  | [], piece, h => by simp_all
  | d :: cs, piece, h => by
    rw [List.splitOn_cons_eq_if_modifyHead] at h
    split at h
    · rcases List.mem_cons.1 h with rfl | h
      · exact List.not_mem_nil
      · exact not_mem_of_mem_splitOn h
    · next hd =>
      cases hs : cs.splitOn c with
      | nil => exact absurd hs (List.splitOn_ne_nil _ _)
      | cons first rest =>
        rw [hs, List.modifyHead_cons] at h
        rcases List.mem_cons.1 h with rfl | h
        · have hf : c ∉ first := not_mem_of_mem_splitOn (hs ▸ List.mem_cons_self)
          have hne : d ≠ c := by simpa using hd
          simp [hf, Ne.symm hne]
        · exact not_mem_of_mem_splitOn (hs ▸ List.mem_cons_of_mem _ h)

namespace Path

/-! ## Names -/

/-- The parts of the path that are not empty, innermost first. -/
def names (p : Path) : List String := p.partsInward.filter fun part => part ≠ ""

def IsPart (part : String) : Prop := '/' ∉ part.toList

theorem isPart_of_mem_partsInward {p : Path} {part : String} (h : part ∈ p.partsInward) :
    IsPart part := by
  obtain ⟨piece, hp, rfl⟩ := List.mem_map.1 (List.mem_reverse.1 h)
  rw [IsPart, String.toList_ofList]
  exact not_mem_of_mem_splitOn hp

theorem partsInward_append (a b : String) :
    partsInward ⟨a ++ "/" ++ b⟩ = partsInward ⟨b⟩ ++ partsInward ⟨a⟩ := by
  have htext : (a ++ "/" ++ b).toList = a.toList ++ '/' :: b.toList := by simp
  simp only [partsInward]
  rw [htext, List.splitOn_append_cons_self, List.map_append, List.reverse_append]

theorem names_append (a b : String) : names ⟨a ++ "/" ++ b⟩ = names ⟨b⟩ ++ names ⟨a⟩ := by
  simp only [names]
  rw [partsInward_append, List.filter_append]

theorem names_empty : names ⟨""⟩ = [] := rfl

theorem names_part {part : String} (h : IsPart part) (hne : part ≠ "") : names ⟨part⟩ = [part] := by
  rw [names, partsInward, List.splitOn_eq_singleton h]
  simp [hne]

theorem ofParts_partsInward (absolute : Bool) (p : Path) : ofParts absolute p.partsInward = p := by
  have hne : p.partsInward ≠ [] := by
    simp [partsInward, List.splitOn_ne_nil]
  have htext : (String.intercalate "/" p.partsInward.reverse).toList = p.text.toList := by
    rw [String.toList_intercalate, partsInward, List.reverse_reverse, List.map_map]
    simp [Function.comp_def]
  obtain ⟨text⟩ := p
  simp only [ofParts, List.isEmpty_iff, hne, if_false, Path.mk.injEq]
  exact String.toList_inj.1 htext

/-! ## Paths around a path -/

theorem exists_text_of_isAbsolute {p : Path} (h : p.isAbsolute = true) :
    ∃ rest, p.text = "/" ++ rest := by
  rw [isAbsolute, beq_iff_eq, List.head?_eq_some_iff] at h
  obtain ⟨cs, hcs⟩ := h
  exact ⟨String.ofList cs, String.toList_inj.1 (by rw [hcs]; simp)⟩

/-- The first path leads the way to the second: the second goes on where the first ends. -/
def Leads (q s : Path) : Prop :=
  q.text ≠ "" ∧ ((∃ rest, s.text = q.text ++ "/" ++ rest) ∨ (q = ⟨"/"⟩ ∧ ∃ rest, s.text = "/" ++ rest))

theorem Leads.names_eq {q s : Path} (h : Leads q s) : ∃ more, s.names = more ++ q.names := by
  obtain ⟨-, ⟨rest, hr⟩ | ⟨rfl, -⟩⟩ := h
  · obtain ⟨text⟩ := s
    subst hr
    exact ⟨_, names_append _ _⟩
  · exact ⟨s.names, (List.append_nil _).symm⟩

theorem head?_append {a : String} (hne : a ≠ "") (b : String) :
    (a ++ b).toList.head? = a.toList.head? := by
  have hl : a.toList ≠ [] := by simpa using hne
  rw [String.toList_append, List.head?_append_of_ne_nil _ hl]

theorem Leads.text_ne_empty {q s : Path} (h : Leads q s) : s.text ≠ "" := by
  intro he
  obtain ⟨hne, ⟨rest, hr⟩ | ⟨-, rest, hr⟩⟩ := h
  · rw [he, eq_comm, String.append_eq_empty_iff, String.append_eq_empty_iff] at hr
    exact hne hr.1.1
  · rw [he, eq_comm, String.append_eq_empty_iff] at hr
    exact absurd hr.1 (by decide)

theorem Leads.isAbsolute_eq {q s : Path} (h : Leads q s) : s.isAbsolute = q.isAbsolute := by
  obtain ⟨hne, ⟨rest, hr⟩ | ⟨rfl, rest, hr⟩⟩ := h
  · rw [isAbsolute, hr, String.append_assoc, head?_append hne]
    rfl
  · rw [isAbsolute, hr, head?_append (by decide)]
    rfl

theorem Leads.append {q r s : Path} (h : Leads q r) {more : String} (hs : s.text = r.text ++ more) :
    Leads q s := by
  obtain ⟨hne, ⟨rest, hr⟩ | ⟨hq, rest, hr⟩⟩ := h
  · exact ⟨hne, .inl ⟨rest ++ more, by rw [hs, hr, String.append_assoc]⟩⟩
  · exact ⟨hne, .inr ⟨hq, rest ++ more, by rw [hs, hr, String.append_assoc]⟩⟩

theorem Leads.trans {q r s : Path} (h : Leads q r) (h' : Leads r s) : Leads q s := by
  obtain ⟨hne, h'⟩ := h'
  rcases h' with ⟨rest, hr⟩ | ⟨rfl, h'⟩
  · exact h.append (hr.trans String.append_assoc)
  · -- Nothing leads to the root but the root itself.
    obtain ⟨hq, ⟨rest, hr⟩ | ⟨rfl, -⟩⟩ := h
    · have hlen := congrArg String.length hr
      simp only [String.length_append] at hlen
      refine absurd (String.length_eq_zero_iff.1 ?_) hq
      have : "/".length = 1 := rfl
      omega
    · exact ⟨hne, .inr ⟨rfl, h'⟩⟩

/-! ## The parts of a path and the paths around it -/

theorem text_ofParts_append (absolute : Bool) {parts inner : List String} (hp : parts ≠ [])
    (hi : inner ≠ []) : (ofParts absolute (inner ++ parts)).text =
      (ofParts absolute parts).text ++ "/" ++ String.intercalate "/" inner.reverse := by
  have hr : parts.reverse ≠ [] := by simpa using hp
  have hr' : inner.reverse ≠ [] := by simpa using hi
  simp [ofParts, hp, hi, String.intercalate_append_of_ne_nil hr hr']

theorem text_ofParts_cons (absolute : Bool) (part : String) (outer : List String) :
    ∃ before, (ofParts absolute (part :: outer)).text = before ++ part := by
  by_cases ho : outer = []
  · subst ho
    exact ⟨"", by simp [ofParts]⟩
  · have h := text_ofParts_append absolute ho (List.cons_ne_nil part [])
    rw [List.reverse_singleton, String.intercalate_singleton] at h
    exact ⟨_, h⟩

theorem text_ofParts_ne_empty (absolute : Bool) {part : String} (h : part ≠ "")
    (outer : List String) : (ofParts absolute (part :: outer)).text ≠ "" := by
  obtain ⟨before, hb⟩ := text_ofParts_cons absolute part outer
  intro he
  rw [hb] at he
  exact h (String.append_eq_empty_iff.1 he).2

theorem dropNameless_cases (parts : List String) : ∃ inner, parts = inner ++ dropNameless parts ∧
    ∀ part outer, dropNameless parts = part :: outer → part ≠ "" := by
  induction parts with
  | nil => exact ⟨[], rfl, nofun⟩
  | cons part outer ih =>
    unfold dropNameless
    split
    · obtain ⟨inner, hi, hh⟩ := ih
      exact ⟨part :: inner, by rw [List.cons_append, ← hi], hh⟩
    · next h =>
      refine ⟨[], rfl, ?_⟩
      rintro _ _ ⟨⟩ rfl
      exact h (.inl rfl)

theorem mem_chain {absolute : Bool} {q : Path} : ∀ {parts : List String}, q ∈ chain absolute parts →
    (∃ inner part outer, parts = inner ++ part :: outer ∧ part ≠ "" ∧
      q = ofParts absolute (part :: outer)) ∨ (absolute = true ∧ q = ⟨"/"⟩)
  | [], h => by
    unfold chain at h
    split at h
    · next ha => exact .inr ⟨ha, by simpa [ofParts, ha] using h⟩
    · cases h
  | part :: outer, h => by
    have later : q ∈ chain absolute outer → _ := mem_chain
    unfold chain at h
    split at h
    · rcases later h with ⟨inner, part', outer', rfl, h'⟩ | h'
      · exact .inl ⟨part :: inner, part', outer', rfl, h'⟩
      · exact .inr h'
    · next hn =>
      rcases List.mem_cons.1 h with rfl | h
      · exact .inl ⟨[], part, outer, rfl, fun he => hn (.inl he), rfl⟩
      · rcases later h with ⟨inner, part', outer', rfl, h'⟩ | h'
        · exact .inl ⟨part :: inner, part', outer', rfl, h'⟩
        · exact .inr h'

theorem leads_of_mem_ancestors {p q : Path} (h : q ∈ p.ancestors) :
    q.text ≠ "" ∧ (q = p ∨ Leads q p) := by
  rcases mem_chain h with ⟨inner, part, outer, hp, hne, rfl⟩ | ⟨ha, rfl⟩
  · have hq := text_ofParts_ne_empty p.isAbsolute hne outer
    refine ⟨hq, ?_⟩
    have hparts := ofParts_partsInward p.isAbsolute p
    by_cases hi : inner = []
    · left
      rw [← hparts, hp, hi]
      rfl
    · right
      have hr := text_ofParts_append p.isAbsolute (List.cons_ne_nil part outer) hi
      rw [← hp, hparts] at hr
      exact ⟨hq, .inl ⟨_, hr⟩⟩
  · exact ⟨by decide, .inr ⟨by decide, .inr ⟨rfl, exists_text_of_isAbsolute ha⟩⟩⟩

/-- The path without its last component is around the path, unless it is empty. -/
theorem parent?_cases {p parent : Path} (h : p.parent? = some parent) :
    parent.text = "" ∨ parent = ⟨"/"⟩ ∧ Leads parent p ∨
      ∃ before part, Leads parent p ∧ parent.text = before ++ part ∧ IsPart part ∧ part ≠ "" := by
  obtain ⟨inner, hi, -⟩ := dropNameless_cases p.partsInward
  unfold parent? at h
  cases hd : dropNameless p.partsInward with
  | nil => rw [hd] at h; cases h
  | cons last outer =>
    rw [hd] at h hi
    obtain rfl := Option.some.inj h
    obtain ⟨between, hb, hne⟩ := dropNameless_cases outer
    cases hp : dropNameless outer with
    | nil =>
      by_cases ha : p.isAbsolute = true
      · refine .inr (.inl ⟨by simp [ofParts, ha], ?_⟩)
        exact ⟨by simp [ofParts, ha], .inr ⟨by simp [ofParts, ha], exists_text_of_isAbsolute ha⟩⟩
      · exact .inl (by simp [ofParts, ha])
    | cons part around =>
      have hpart := hne part around hp
      rw [hp] at hb
      have hsplit : p.partsInward = inner ++ last :: between ++ part :: around := by
        rw [hi, hb]
        simp
      have hr := text_ofParts_append p.isAbsolute (List.cons_ne_nil part around)
        (List.append_ne_nil_of_right_ne_nil inner (List.cons_ne_nil last between))
      rw [← hsplit, ofParts_partsInward] at hr
      obtain ⟨before, hbefore⟩ := text_ofParts_cons p.isAbsolute part around
      refine .inr (.inr ⟨before, part, ⟨?_, .inl ⟨_, hr⟩⟩, hbefore, ?_, hpart⟩)
      · exact text_ofParts_ne_empty p.isAbsolute hpart around
      · exact isPart_of_mem_partsInward (by rw [hsplit]; simp)

/-! ## The sibling of a path -/

theorem join_cases {name : String} (hn : IsPart name) (base : Path) :
    (base.text = "" ∧ base.join ⟨name⟩ = ⟨name⟩) ∨
    (∃ a, base.text = a ++ "/" ∧ base.join ⟨name⟩ = ⟨a ++ "/" ++ name⟩) ∨
    (base.text ≠ "" ∧ base.join ⟨name⟩ = ⟨base.text ++ "/" ++ name⟩) := by
  have hrel : isAbsolute ⟨name⟩ = false := by
    cases ha : isAbsolute ⟨name⟩ with
    | false => rfl
    | true =>
      obtain ⟨rest, rfl⟩ := exists_text_of_isAbsolute ha
      exact absurd (by simp) hn
  unfold join
  rw [hrel]
  by_cases he : base.text = ""
  · exact .inl ⟨he, by simp [he]⟩
  · by_cases hs : base.text.toList.getLast? = some '/'
    · obtain ⟨a, ha⟩ := List.getLast?_eq_some_iff.1 hs
      have hbase : base.text = String.ofList a ++ "/" := String.toList_inj.1 (by rw [ha]; simp)
      exact .inr (.inl ⟨_, hbase, by simp [hbase]⟩)
    · exact .inr (.inr ⟨he, by simp [he, hs]⟩)

theorem names_join {name : String} (hn : IsPart name) (hne : name ≠ "") (base : Path) :
    (base.join ⟨name⟩).names = name :: base.names := by
  obtain ⟨text⟩ := base
  rcases join_cases hn ⟨text⟩ with ⟨rfl, hj⟩ | ⟨a, rfl, hj⟩ | ⟨-, hj⟩
  · rw [hj, names_part hn hne, names_empty]
  · have ha := names_append a ""
    rw [String.append_empty, names_empty, List.nil_append] at ha
    rw [hj, names_append, names_part hn hne, ha]
    rfl
  · rw [hj, names_append, names_part hn hne]
    rfl

theorem text_join {name : String} (hn : IsPart name) (base : Path) :
    ∃ more, (base.join ⟨name⟩).text = base.text ++ more := by
  rcases join_cases hn base with ⟨he, hj⟩ | ⟨a, ha, hj⟩ | ⟨-, hj⟩
  · exact ⟨name, by rw [hj, he, String.empty_append]⟩
  · exact ⟨name, by rw [hj, ha]⟩
  · exact ⟨"/" ++ name, by rw [hj, ← String.append_assoc]⟩

theorem getLast?_append_part {part : String} (hne : part ≠ "") (before : String) :
    (before ++ part).toList.getLast? = part.toList.getLast? := by
  have hl : part.toList ≠ [] := by simpa using hne
  rw [String.toList_append, List.getLast?_append_of_ne_nil _ hl]

theorem getLast?_ne_slash {part : String} (hp : IsPart part) :
    part.toList.getLast? ≠ some '/' :=
  fun h => hp (List.mem_of_getLast? h)

/-- A path that its parent leads to is in its parent. -/
theorem leads_join_parent {p parent : Path} (h : p.parent? = some parent) (hne : parent.text ≠ "")
    {name : String} (hn : IsPart name) : Leads parent (parent.join ⟨name⟩) := by
  rcases join_cases hn parent with ⟨he, -⟩ | ⟨a, ha, hj⟩ | ⟨-, hj⟩
  · exact absurd he hne
  · rcases parent?_cases h with he | ⟨rfl, -⟩ | ⟨before, part, -, hb, hp, hpne⟩
    · exact absurd he hne
    · exact ⟨hne, .inr ⟨rfl, name, by rw [hj, ← ha]⟩⟩
    · refine absurd ?_ (getLast?_ne_slash hp)
      rw [← getLast?_append_part hpne before, ← hb, ha]
      simp
  · exact ⟨hne, .inl ⟨name, by rw [hj]⟩⟩

theorem fileName?_eq_some {p : Path} {name : String} {outer : List String}
    (h : p.names = name :: outer) (hdot : name ≠ ".") (hdots : name ≠ "..") :
    p.fileName? = some name := by
  have key : ∀ parts : List String, (parts.filter fun part => part ≠ "") = name :: outer →
      ∃ rest, dropNameless parts = name :: rest := by
    intro parts
    induction parts with
    | nil => simp
    | cons part parts ih =>
      intro hf
      by_cases hp : part = ""
      · subst hp
        obtain ⟨rest, hr⟩ := ih (by simpa using hf)
        exact ⟨rest, by simpa [dropNameless] using hr⟩
      · obtain ⟨rfl, -⟩ := List.cons.inj (by simpa [hp] using hf)
        exact ⟨parts, by simp [dropNameless, hp, hdot]⟩
  obtain ⟨rest, hr⟩ := key p.partsInward h
  simp [fileName?, hr, hdot, hdots]

theorem isPart_of_fileName? {p : Path} {name : String} (h : p.fileName? = some name) :
    IsPart name := by
  obtain ⟨inner, hi, -⟩ := dropNameless_cases p.partsInward
  unfold fileName? at h
  split at h
  · cases h
  · next part outer hd =>
    split at h
    · cases h
    · obtain rfl := Option.some.inj h
      exact isPart_of_mem_partsInward (by rw [hi, hd]; simp)

end Path

namespace Output

def siblingName (p : Path) : String := p.fileName?.getD "output" ++ ".tmp"

theorem siblingName_ne_empty (p : Path) : siblingName p ≠ "" := by
  intro h
  exact absurd (String.append_eq_empty_iff.1 h).2 (by decide)

theorem isPart_siblingName (p : Path) : Path.IsPart (siblingName p) := by
  have hpart : Path.IsPart (p.fileName?.getD "output") := by
    cases h : p.fileName? with
    | none => show '/' ∉ "output".toList; decide
    | some name => exact Path.isPart_of_fileName? h
  show '/' ∉ (_ ++ ".tmp").toList
  rw [String.toList_append, List.mem_append, not_or]
  exact ⟨hpart, by decide⟩

/-- The sibling stands in a directory that the parent of the path leads to. -/
theorem sibling_cases (p : Path) : ∃ base, sibling p = base.join ⟨siblingName p⟩ ∧
    ∀ parent, p.parent? = some parent → parent.text ≠ "" →
      (parent = base ∨ Path.Leads parent base) ∧ Path.Leads parent (sibling p) := by
  have hn := isPart_siblingName p
  unfold sibling Path.withFileName
  split
  · next parent _ hp =>
    refine ⟨parent, rfl, ?_⟩
    intro _ h hne
    obtain rfl := Option.some.inj (hp.symm.trans h)
    exact ⟨.inl rfl, Path.leads_join_parent h hne hn⟩
  · refine ⟨p, rfl, fun parent h hne => ?_⟩
    have hl : Path.Leads parent p := by
      rcases Path.parent?_cases h with he | ⟨-, hl⟩ | ⟨_, _, hl, -⟩
      · exact absurd he hne
      · exact hl
      · exact hl
    obtain ⟨more, hm⟩ := Path.text_join hn p
    exact ⟨.inr hl, hl.append hm⟩

/-- **The name of the sibling** is the last name of its path. -/
theorem sibling_names (p : Path) : ∃ outer, (sibling p).names = siblingName p :: outer := by
  obtain ⟨base, hb, -⟩ := sibling_cases p
  exact ⟨base.names, by rw [hb, Path.names_join (isPart_siblingName p) (siblingName_ne_empty p)]⟩

/-- **What is around the parent of a path leads to its sibling.** -/
theorem leads_sibling {p parent q : Path} (hp : p.parent? = some parent) (hq : q ∈ parent.ancestors) :
    Path.Leads q (sibling p) ∧ ∃ more, (sibling p).names = siblingName p :: (more ++ q.names) := by
  obtain ⟨hne, hq⟩ := Path.leads_of_mem_ancestors hq
  have hparent : parent.text ≠ "" := by
    rcases hq with rfl | hl
    · exact hne
    · exact hl.text_ne_empty
  obtain ⟨base, hb, hl⟩ := sibling_cases p
  obtain ⟨hbase, hs⟩ := hl parent hp hparent
  have hlead : q = base ∨ Path.Leads q base := by
    rcases hq with rfl | hq
    · exact hbase
    · rcases hbase with rfl | hbase
      · exact .inr hq
      · exact .inr (hq.trans hbase)
  constructor
  · rcases hq with rfl | hq
    · exact hs
    · exact hq.trans hs
  · have hnames := Path.names_join (isPart_siblingName p) (siblingName_ne_empty p) base
    rw [← hb] at hnames
    rcases hlead with rfl | hlead
    · exact ⟨[], hnames⟩
    · obtain ⟨more, hm⟩ := hlead.names_eq
      exact ⟨more, by rw [hnames, hm]⟩

end Output

end EntropyTables
