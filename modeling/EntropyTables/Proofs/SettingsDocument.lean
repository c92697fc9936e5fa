import EntropyTables.Config
import Mathlib
/-!
# Documents that hold settings

A document holds settings if its tree has them under their keys and nothing else (`HeldBy`). The
keys may come in any order, and a table that sets nothing may be empty or left out. Such a document
is read back as the settings it holds (`ofValue?_of_heldBy`), and no key that is not declared can be
added to it at any level (`ofValue?_of_addsKey`). Each table finds its two paths from its own
section and the root alone.

Main statement: `document_round_trip`.
-/
namespace EntropyTables

open Toml (Value)

/-! ## Tables of a document -/

namespace Toml.Value

/-- The keys that have a value, with their values. -/
def present (slots : List (String × Option Value)) : List (String × Value) :=
  slots.filterMap fun slot => slot.2.map (slot.1, ·)

/-- The tree is a table of the keys that have a value, in any order. -/
def Holds (slots : List (String × Option Value)) (tree : Value) : Prop :=
  ∃ members, tree = .table members ∧ members.Perm (present slots)

/-- The second tree is the first with one more key in the table that lies under the keys `around`,
outermost first. -/
inductive AddsKey (key : String) : (around : List String) → Value → Value → Prop
  | here (before after : List (String × Value)) (value : Value) :
      AddsKey key [] (.table (before ++ after)) (.table (before ++ (key, value) :: after))
  | inside (before after : List (String × Value)) {name : String} {around : List String}
      {inner inner' : Value} (adds : AddsKey key around inner inner') :
      AddsKey key (name :: around) (.table (before ++ (name, inner) :: after))
        (.table (before ++ (name, inner') :: after))

section

variable {slots : List (String × Option Value)} {members before after : List (String × Value)}
  {key : String} {value : Value} {setting : Option Value}

theorem mem_present : (key, value) ∈ present slots ↔ (key, some value) ∈ slots := by
  simp only [present, List.mem_filterMap, Option.map_eq_some_iff, Prod.mk.injEq]
  constructor
  · rintro ⟨⟨_, _⟩, hslot, _, rfl, rfl, rfl⟩
    exact hslot
  · intro hslot
    exact ⟨_, hslot, value, rfl, rfl, rfl⟩

theorem keys_present_sublist : ∀ slots : List (String × Option Value),
    ((present slots).map Prod.fst).Sublist (slots.map Prod.fst)
  | [] => .slnil
  | (key, none) :: slots => (keys_present_sublist slots).cons key
  | (key, some _) :: slots => (keys_present_sublist slots).cons_cons key

theorem mem_iff_of_perm (hp : members.Perm (present slots)) :
    (key, value) ∈ members ↔ (key, some value) ∈ slots :=
  hp.mem_iff.trans mem_present

/-- The keys of the members in a table come once. -/
theorem nodup_keys (hp : members.Perm (present slots)) (hn : (slots.map Prod.fst).Nodup) :
    (members.map Prod.fst).Nodup :=
  (hp.map Prod.fst).nodup_iff.2 (hn.sublist (keys_present_sublist slots))

/-- A key that comes once has the value that it comes with. -/
theorem lookup_of_nodup (hn : ((before ++ (key, value) :: after).map Prod.fst).Nodup) :
    (before ++ (key, value) :: after).lookup key = some value := by
  rw [List.map_append, List.map_cons] at hn
  refine List.lookup_eq_some_iff.2 ⟨before, after, rfl, fun member hmember => ?_⟩
  have hne : member.1 ≠ key := by
    rintro rfl
    exact (List.nodup_append.1 hn).2.2 _ (List.mem_map_of_mem hmember) _ List.mem_cons_self rfl
  simpa using hne.symm

/-- What a table in any order says of a key. -/
theorem lookup_of_perm (hp : members.Perm (present slots)) (hn : (slots.map Prod.fst).Nodup)
    (hslot : (key, setting) ∈ slots) : members.lookup key = setting := by
  cases setting with
  | some value =>
    obtain ⟨before, after, rfl⟩ := List.append_of_mem ((mem_iff_of_perm hp).2 hslot)
    exact lookup_of_nodup (nodup_keys hp hn)
  | none =>
    refine List.lookup_eq_none_iff.2 fun member hmember => ?_
    have hne : member.1 ≠ key := by
      rintro rfl
      -- Its slot would have a value and none.
      have hsame := List.inj_on_of_nodup_map hn ((mem_iff_of_perm hp).1 hmember) hslot rfl
      cases hsame
    simpa using hne.symm

/-- A key whose value is changed is one of the table, and it has the value that it is changed to. -/
theorem lookup_changed (hp : (before ++ (key, value) :: after).Perm (present slots))
    (hn : (slots.map Prod.fst).Nodup) :
    (key, some value) ∈ slots ∧
      ∀ value', (before ++ (key, value') :: after).lookup key = some value' := by
  refine ⟨(mem_iff_of_perm hp).1 (by simp), fun value' => lookup_of_nodup ?_⟩
  have hkeys := nodup_keys hp hn
  rw [List.map_append, List.map_cons] at hkeys ⊢
  exact hkeys

/-- A table is a group of settings if its keys are declared. -/
theorem group?_eq_some_iff {keys : List String} {found : List (String × Value)} :
    (Value.table members).group? keys = some found ↔
      (∀ member ∈ members, member.1 ∈ keys) ∧ found = members := by
  have hgroup : (Value.table members).group? keys =
    if members.all fun member => keys.contains member.1 then some members else none := rfl
  rw [hgroup, Option.ite_none_right_eq_some, List.all_eq_true, Option.some.injEq,
    eq_comm (a := members)]
  simp only [List.contains_iff_mem]

theorem group?_of_perm (hp : members.Perm (present slots)) :
    (Value.table members).group? (slots.map Prod.fst) = some members :=
  group?_eq_some_iff.2 ⟨fun _ hmember =>
    List.mem_map_of_mem (f := Prod.fst) ((mem_iff_of_perm hp).1 hmember), rfl⟩

end

end Toml.Value

open Toml.Value (AddsKey Holds group?_eq_some_iff group?_of_perm lookup_changed lookup_of_perm present)

/-! ## What holds settings -/

def Path.toValue (p : Path) : Value := .string p.text

def CavlcMode.toValue (mode : CavlcMode) : Value := .string mode.name

/-- The keys of the section of a table, with what they are set to. -/
def TableSettings.slots (s : TableSettings) : List (String × Option Value) :=
  [("input", s.input.map Path.toValue), ("output", s.output.map Path.toValue),
    ("mode", s.mode.map CavlcMode.toValue)]

namespace Settings

/-- The tree holds exactly the settings: the root, and under `tables` a section for each table, by
its name. A table of the tree that holds nothing may be left out. -/
inductive HeldBy (s : Settings) (tree : Value) : Prop
  | intro (tables : Option Value) (sections : Table → Option Value)
      (top : tree.Holds [("root", s.root.map Path.toValue), ("tables", tables)])
      (middle : (tables.getD (.table [])).Holds
        (Table.all.map fun table => (table.name, sections table)))
      (each : ∀ table, ((sections table).getD (.table [])).Holds (s.forTable table).slots)

theorem exists_heldBy (s : Settings) : ∃ tree, s.HeldBy tree := by
  let sections (table : Table) : Option Value := some (.table (present (s.forTable table).slots))
  let tables : Value := .table (present (Table.all.map fun table => (table.name, sections table)))
  exact ⟨.table (present [("root", s.root.map Path.toValue), ("tables", some tables)]),
    .intro (some tables) sections ⟨_, rfl, .refl _⟩ ⟨_, rfl, .refl _⟩ fun _ => ⟨_, rfl, .refl _⟩⟩

/-- The keys that are declared in the table under the keys `around`, outermost first. -/
def declaredKeys (around : List String) : List String :=
  match around with
  | [] => ["root", "tables"]
  | ["tables"] => Table.all.map Table.name
  | ["tables", _] => ["input", "output", "mode"]
  | _ => []

end Settings

/-! ## Reading settings back -/

theorem settingOf_of_lookup {decode : Value → Option α} {encode : α → Value}
    (hdecode : ∀ a, decode (encode a) = some a) {members : List (String × Value)} {key : String}
    {setting : Option α} (h : members.lookup key = setting.map encode) :
    settingOf decode members key = some setting := by
  unfold settingOf
  cases setting with
  | none =>
    rw [Option.map_none] at h
    rw [h]
  | some a =>
    rw [Option.map_some] at h
    rw [h]
    simp [hdecode]

theorem Path.ofValue?_toValue (p : Path) : ofValue? p.toValue = some p := rfl

theorem CavlcMode.ofValue?_toValue (mode : CavlcMode) : ofValue? mode.toValue = some mode := by
  cases mode <;> decide

namespace TableSettings

theorem nodup_keys (s : TableSettings) : (s.slots.map Prod.fst).Nodup := by
  show ["input", "output", "mode"].Nodup
  decide

theorem ofValue?_of_holds {s : TableSettings} {tree : Value} (h : tree.Holds s.slots) :
    ofValue? tree = some s := by
  obtain ⟨members, rfl, hp⟩ := h
  have hgroup : (Value.table members).group? ["input", "output", "mode"] = some members :=
    group?_of_perm hp
  have hlookup : ∀ slot ∈ s.slots, members.lookup slot.1 = slot.2 :=
    fun _ hslot => lookup_of_perm hp s.nodup_keys hslot
  simp only [slots, List.forall_mem_cons] at hlookup
  obtain ⟨hinput, houtput, hmode, -⟩ := hlookup
  simp [ofValue?, hgroup, settingOf_of_lookup Path.ofValue?_toValue hinput,
    settingOf_of_lookup Path.ofValue?_toValue houtput,
    settingOf_of_lookup CavlcMode.ofValue?_toValue hmode]

theorem eq_unset_of_holds {s : TableSettings} (h : (Value.table []).Holds s.slots) : s = unset := by
  have hread : ofValue? (.table []) = some s := ofValue?_of_holds h
  have hempty : ofValue? (.table []) = some unset := rfl
  rw [hempty] at hread
  exact (Option.some.inj hread).symm

end TableSettings

namespace Settings

def sectionOf? (members : List (String × Value)) (table : Table) : Option TableSettings :=
  (settingOf TableSettings.ofValue? members table.name).map (·.getD .unset)

theorem ofTables?_eq_some_iff {root : Option Path} {tables : Value} {s : Settings} :
    ofTables? root tables = some s ↔ ∃ members,
      tables.group? (Table.all.map Table.name) = some members ∧ s.root = root ∧
        ∀ table, sectionOf? members table = some (s.forTable table) := by
  constructor
  · intro h
    simp only [ofTables?, Option.bind_eq_bind, Option.bind_eq_some_iff] at h
    obtain ⟨members, hgroup, _, hctxIdxInc, _, hcabacInit, _, hrangeTabLps, _, hcavlc, hs⟩ := h
    obtain rfl := Option.some.inj hs
    refine ⟨members, hgroup, rfl, fun table => ?_⟩
    cases table with
    | ctxIdxInc => exact hctxIdxInc
    | cabacInit => exact hcabacInit
    | rangeTabLps => exact hrangeTabLps
    | cavlc => exact hcavlc
  · rintro ⟨members, hgroup, rfl, hsection⟩
    simp only [sectionOf?] at hsection
    simp [ofTables?, hgroup, hsection, forTable]

theorem ofValue?_eq_some_iff {tree : Value} {s : Settings} :
    ofValue? tree = some s ↔ ∃ members root, tree.group? ["root", "tables"] = some members ∧
      settingOf Path.ofValue? members "root" = some root ∧
        ofTables? root ((members.lookup "tables").getD (.table [])) = some s := by
  simp [ofValue?, Option.bind_eq_some_iff]

theorem nodup_names (sections : Table → Option Value) :
    ((Table.all.map fun table => (table.name, sections table)).map Prod.fst).Nodup := by
  rw [List.map_map]
  show (Table.all.map Table.name).Nodup
  decide

theorem mem_sections (sections : Table → Option Value) (table : Table) :
    (table.name, sections table) ∈ Table.all.map fun table => (table.name, sections table) :=
  List.mem_map.2 ⟨table, by cases table <;> decide, rfl⟩

theorem ofTables?_of_holds {s : Settings} {tables : Value} {sections : Table → Option Value}
    (middle : tables.Holds (Table.all.map fun table => (table.name, sections table)))
    (each : ∀ table, ((sections table).getD (.table [])).Holds (s.forTable table).slots) :
    ofTables? s.root tables = some s := by
  obtain ⟨members, rfl, hp⟩ := middle
  refine ofTables?_eq_some_iff.2 ⟨members, ?_, rfl, fun table => ?_⟩
  · have hgroup := group?_of_perm hp
    rwa [List.map_map] at hgroup
  · have hlookup := lookup_of_perm hp (nodup_names sections) (mem_sections sections table)
    have hread := each table
    unfold sectionOf? settingOf
    rw [hlookup]
    cases hsection : sections table with
    | none =>
      rw [hsection] at hread
      rw [TableSettings.eq_unset_of_holds hread]
      rfl
    | some tree =>
      rw [hsection] at hread
      have hsaid : TableSettings.ofValue? tree = some (s.forTable table) :=
        TableSettings.ofValue?_of_holds hread
      simp [hsaid]

theorem nodup_topKeys (root tables : Option Value) :
    ([("root", root), ("tables", tables)].map Prod.fst).Nodup := by
  show ["root", "tables"].Nodup
  decide

/-- **A document that holds settings is read back as these settings.** -/
theorem ofValue?_of_heldBy {s : Settings} {tree : Value} (h : s.HeldBy tree) :
    ofValue? tree = some s := by
  obtain ⟨tables, sections, ⟨members, rfl, hp⟩, middle, each⟩ := h
  have hn := nodup_topKeys (s.root.map Path.toValue) tables
  have hroot := lookup_of_perm hp hn List.mem_cons_self
  have htables := lookup_of_perm hp hn (List.mem_cons_of_mem _ List.mem_cons_self)
  refine ofValue?_eq_some_iff.2 ⟨members, s.root, group?_of_perm hp,
    settingOf_of_lookup Path.ofValue?_toValue hroot, ?_⟩
  rw [htables]
  exact ofTables?_of_holds middle each

/-! ## Keys that are not declared -/

/-- Nothing can be added to what a section is made of. -/
theorem not_addsKey_of_mem_slots {s : TableSettings} {key name : String} {around : List String}
    {inner inner' : Value} (hslot : (name, some inner) ∈ s.slots) :
    ¬ AddsKey key around inner inner' := by
  have hstring : ∃ text, inner = .string text := by
    simp only [TableSettings.slots, List.mem_cons, List.not_mem_nil, or_false, Prod.mk.injEq] at hslot
    rcases hslot with ⟨-, h⟩ | ⟨-, h⟩ | ⟨-, h⟩
    · obtain ⟨p, -, rfl⟩ := Option.map_eq_some_iff.1 h.symm
      exact ⟨_, rfl⟩
    · obtain ⟨p, -, rfl⟩ := Option.map_eq_some_iff.1 h.symm
      exact ⟨_, rfl⟩
    · obtain ⟨mode, -, rfl⟩ := Option.map_eq_some_iff.1 h.symm
      exact ⟨_, rfl⟩
  obtain ⟨text, rfl⟩ := hstring
  exact nofun

variable {key : String} {around : List String} {tree tree' : Value}

theorem section_of_addsKey {s : TableSettings} (held : tree.Holds s.slots)
    (h : AddsKey key around tree tree') {name : String}
    (hkey : key ∉ declaredKeys ("tables" :: name :: around)) :
    TableSettings.ofValue? tree' = none := by
  refine Option.eq_none_iff_forall_ne_some.2 fun s' hs' => ?_
  simp only [TableSettings.ofValue?, Option.bind_eq_bind, Option.bind_eq_some_iff] at hs'
  obtain ⟨found, hgroup, -⟩ := hs'
  obtain ⟨members, rfl, hp⟩ := held
  cases h with
  | here before after value => exact hkey ((group?_eq_some_iff.1 hgroup).1 (key, value) (by simp))
  | inside before after adds => exact not_addsKey_of_mem_slots (lookup_changed hp s.nodup_keys).1 adds

/-- A table of sections with a stray key, its own or one of a section, is refused. -/
theorem ofTables?_of_addsKey {s : Settings} {sections : Table → Option Value}
    (middle : tree.Holds (Table.all.map fun table => (table.name, sections table)))
    (each : ∀ table, ((sections table).getD (.table [])).Holds (s.forTable table).slots)
    (h : AddsKey key around tree tree') (hkey : key ∉ declaredKeys ("tables" :: around))
    (root : Option Path) : ofTables? root tree' = none := by
  refine Option.eq_none_iff_forall_ne_some.2 fun s' hs' => ?_
  obtain ⟨found, hgroup, -, hsection⟩ := ofTables?_eq_some_iff.1 hs'
  obtain ⟨members, rfl, hp⟩ := middle
  cases h with
  | here before after value => exact hkey ((group?_eq_some_iff.1 hgroup).1 (key, value) (by simp))
  | inside before after adds =>
    obtain ⟨-, rfl⟩ := group?_eq_some_iff.1 hgroup
    obtain ⟨hslot, hlookup⟩ := lookup_changed hp (nodup_names sections)
    obtain ⟨table, -, hname⟩ := List.mem_map.1 hslot
    obtain ⟨rfl, hinner⟩ := Prod.mk.inj hname
    have hheld := each table
    rw [hinner] at hheld
    have hnone := section_of_addsKey hheld adds hkey
    have hfound := hsection table
    simp [sectionOf?, settingOf, hlookup, hnone] at hfound

/-- **A key that is not declared spoils a document that holds settings**, at any level. -/
theorem ofValue?_of_addsKey {s : Settings} (held : s.HeldBy tree) (h : AddsKey key around tree tree')
    (hkey : key ∉ declaredKeys around) : ofValue? tree' = none := by
  obtain ⟨tables, sections, ⟨members, rfl, hp⟩, middle, each⟩ := held
  refine Option.eq_none_iff_forall_ne_some.2 fun s' hs' => ?_
  obtain ⟨found, root, hgroup, -, htables⟩ := ofValue?_eq_some_iff.1 hs'
  cases h with
  | here before after value => exact hkey ((group?_eq_some_iff.1 hgroup).1 (key, value) (by simp))
  | inside before after adds =>
    obtain ⟨-, rfl⟩ := group?_eq_some_iff.1 hgroup
    obtain ⟨hslot, hlookup⟩ := lookup_changed hp (nodup_topKeys _ _)
    rcases List.mem_cons.1 hslot with hroot | hslot
    · -- The root is a path, so nothing can be added to it.
      obtain ⟨-, hinner⟩ := Prod.mk.inj hroot
      obtain ⟨p, -, rfl⟩ := Option.map_eq_some_iff.1 hinner.symm
      cases adds
    · obtain ⟨rfl, hinner⟩ := Prod.mk.inj (List.mem_singleton.1 hslot)
      rw [← hinner] at middle
      rw [hlookup, Option.getD_some, ofTables?_of_addsKey middle each adds hkey root] at htables
      cases htables

/-! ## Paths -/

/-- Where a path that was written leads: an absolute one stands as it is, any other is seen from the
root if there is one. -/
structure Located (root : Option Path) (written found : Path) : Prop where
  absolute : written.isAbsolute = true → found = written
  relative : ∀ base, root = some base → written.isAbsolute = false → found = base.join written
  rootless : root = none → found = written

theorem located_resolve (s : Settings) (written : Path) :
    Located s.root written (s.resolve written) := by
  unfold resolve
  refine ⟨fun habsolute => ?_, fun base hbase _ => ?_, fun hnone => ?_⟩
  · cases s.root with
    | none => rfl
    | some base => simp [Path.join, habsolute]
  · rw [hbase]
  · rw [hnone]

theorem paths_congr {s s' : Settings} {table : Table} (hroot : s'.root = s.root)
    (hsection : s'.forTable table = s.forTable table) :
    s'.inputFor table = s.inputFor table ∧ s'.outputFor table = s.outputFor table := by
  unfold inputFor outputFor resolve
  rw [hroot, hsection]
  exact ⟨rfl, rfl⟩

/-- **Settings and documents.** Settings are held by a tree, and every document with such a tree is
read as these settings. If a key that is not declared is added to the tree, at whatever level, the
document is malformed. The paths of a table depend on the root and its own section alone: what is set
there, or else what holds by default, stands as it was written if it is absolute or there is no root,
and is seen from the root otherwise. -/
theorem document_round_trip (s : Settings) :
    (∃ tree, s.HeldBy tree) ∧
    (∀ p text tree, Toml.read? text = some tree → s.HeldBy tree → ofText p text = .ok s) ∧
    (∀ p text tree tree' key around, s.HeldBy tree → AddsKey key around tree tree' →
      key ∉ declaredKeys around → Toml.read? text = some tree' →
        ofText p text = .error (.malformed p)) ∧
    (∀ (s' : Settings) table, s'.root = s.root → s'.forTable table = s.forTable table →
      s'.inputFor table = s.inputFor table ∧ s'.outputFor table = s.outputFor table) ∧
    ∀ table,
      Located s.root ((s.forTable table).input.getD ⟨table.defaultInput⟩) (s.inputFor table) ∧
      Located s.root ((s.forTable table).output.getD ⟨table.defaultOutput⟩) (s.outputFor table) := by
  refine ⟨s.exists_heldBy, ?_, ?_, fun s' table => paths_congr, fun table => ?_⟩
  · intro p text tree hread held
    simp [ofText, hread, ofValue?_of_heldBy held]
  · intro p text tree tree' key around held adds hkey hread
    simp [ofText, hread, ofValue?_of_addsKey held adds hkey]
  · exact ⟨located_resolve s _, located_resolve s _⟩

/-- The keys of a section come in another order, and then a key that is declared elsewhere comes
between them. -/
theorem document_round_trip_section :
    let s : Settings := ⟨some ⟨"r"⟩, .unset, .unset, .unset, ⟨some ⟨"\u03b1"⟩, some ⟨"/o"⟩, none⟩⟩
    ofText ⟨"p"⟩ "root=\"r\"\n[tables.cavlc]\noutput=\"/o\"\ninput=\"\u03b1\"\n" = .ok s ∧
      ofText ⟨"p"⟩ "root=\"r\"\n[tables.cavlc]\noutput=\"/o\"\nroot=\"x\"\ninput=\"\u03b1\"\n" =
        .error (.malformed ⟨"p"⟩) ∧
      s.inputFor .cavlc = ⟨"r/\u03b1"⟩ ∧ s.outputFor .cavlc = ⟨"/o"⟩ := by
  intro s
  let tree (members : List (String × Value)) : Value :=
    .table [("root", .string "r"), ("tables", .table [("cavlc", .table members)])]
  let output : List (String × Value) := [("output", .string "/o")]
  let input : List (String × Value) := [("input", .string "\u03b1")]
  have hread : Toml.read? "root=\"r\"\n[tables.cavlc]\noutput=\"/o\"\ninput=\"\u03b1\"\n" =
      some (tree (output ++ input)) := by
    cbv
  have hread' :
      Toml.read? "root=\"r\"\n[tables.cavlc]\noutput=\"/o\"\nroot=\"x\"\ninput=\"\u03b1\"\n" =
        some (tree (output ++ ("root", .string "x") :: input)) := by
    cbv
  have held : s.HeldBy (tree (output ++ input)) := by
    refine .intro (some (.table [("cavlc", .table (output ++ input))])) (fun table =>
      if table = .cavlc then some (.table (output ++ input)) else none) ⟨_, rfl, .refl _⟩
      ⟨_, rfl, by simp [present, Table.all, Table.name]⟩ fun table => ?_
    cases table with
    | cavlc => exact ⟨_, rfl, .swap _ _ []⟩
    | ctxIdxInc | cabacInit | rangeTabLps => exact ⟨_, rfl, .refl _⟩
  have adds : AddsKey "root" ["tables", "cavlc"] (tree (output ++ input))
      (tree (output ++ ("root", .string "x") :: input)) :=
    .inside [("root", .string "r")] [] (.inside [] [] (.here output input (.string "x")))
  obtain ⟨-, hround, hstray, -, hpaths⟩ := document_round_trip s
  obtain ⟨hinput, houtput⟩ := hpaths .cavlc
  refine ⟨hround _ _ _ hread held, hstray _ _ _ _ _ _ held adds (by decide) hread', ?_, ?_⟩
  · rw [hinput.relative ⟨"r"⟩ rfl (by decide)]
    decide
  · exact houtput.absolute (by decide)

end Settings

end EntropyTables
