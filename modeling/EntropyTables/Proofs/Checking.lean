import Mathlib.Data.List.Nodup
import EntropyTables.Validator
/-!
# The validator and what it accepted

A validator is described by its **history**: the accepted entries, each with its line, in the order
in which they came (`Validator.Tracks`). Every observation either adds to the history or is refused
for a reason that the history shows (`Tracks.observe`), and `finish` is right about the domain as
long as the size of the domain is a signed 64-bit number (`Tracks.finish`).
-/
namespace EntropyTables

abbrev entriesOf (history : List (Entry × Nat)) : List Entry := history.map Prod.fst

theorem inDomain_iff {domain : Option Nat} {index : Int} :
    Validator.inDomain domain index = true ↔
      ∀ size : Nat, domain = some size → 0 ≤ index ∧ index < size := by
  cases domain <;> simp [Validator.inDomain]

/-- No index occurs twice, and all lie in the domain. -/
def Admissible (domain : Option Nat) (entries : List Entry) : Prop :=
  (entries.map Entry.index).Nodup ∧
    ∀ entry ∈ entries, Validator.inDomain domain entry.index = true

theorem Admissible.nil (domain : Option Nat) : Admissible domain [] := by simp [Admissible]

theorem admissible_concat_iff {domain : Option Nat} {entries : List Entry} {entry : Entry} :
    Admissible domain (entries ++ [entry]) ↔
      Admissible domain entries ∧ entry.index ∉ entries.map Entry.index ∧
        Validator.inDomain domain entry.index = true := by
  unfold Admissible
  rw [List.map_append, List.map_singleton, ← List.concat_eq_append, List.nodup_concat,
    List.forall_mem_append, List.forall_mem_singleton]
  tauto

theorem Admissible.of_append {domain : Option Nat} {as bs : List Entry}
    (h : Admissible domain (as ++ bs)) : Admissible domain as := by
  obtain ⟨hn, hd⟩ := h
  rw [List.map_append] at hn
  exact ⟨hn.of_append_left, fun entry he => hd entry (List.mem_append_left _ he)⟩

/-- The indices of the entries fill the domain. -/
def Covers (domain : Option Nat) (entries : List Entry) : Prop :=
  ∀ size : Nat, domain = some size → ∀ i : Int, 0 ≤ i → i < size → i ∈ entries.map Entry.index

/-- The smallest number from zero on that is not among the indices. -/
structure LeastAbsent (indices : List Int) (index : Int) : Prop where
  nonneg : 0 ≤ index
  absent : index ∉ indices
  below : ∀ i, 0 ≤ i → i < index → i ∈ indices

theorem LeastAbsent.unique {indices : List Int} {i j : Int} (hi : LeastAbsent indices i)
    (hj : LeastAbsent indices j) : i = j := by
  rcases Int.lt_trichotomy i j with h | h | h
  · exact absurd (hj.below i hi.nonneg h) hi.absent
  · exact h
  · exact absurd (hi.below j hj.nonneg h) hj.absent

/-- Why an entry is refused after a history: its index came before, or lies outside the domain. -/
inductive Refused (domain : Option Nat) (history : List (Entry × Nat)) (entry : Entry) (line : Nat) :
    TableError → Prop where
  | repeated {earlier : Entry} {first : Nat} (mem : (earlier, first) ∈ history)
      (same : earlier.index = entry.index) :
      Refused domain history entry line (.duplicateIndex entry.index line first)
  | outside {size : Nat} (isSome : domain = some size)
      (out : Validator.inDomain domain entry.index = false) :
      Refused domain history entry line (.indexOutOfRange entry.index line size)

theorem Refused.not_admissible {domain : Option Nat} {history : List (Entry × Nat)} {entry : Entry}
    {line : Nat} {e : TableError} (h : Refused domain history entry line e) :
    ¬ Admissible domain (entriesOf history ++ [entry]) := by
  rw [admissible_concat_iff]
  rintro ⟨-, hn, hd⟩
  cases h with
  | repeated mem same =>
    exact hn (same ▸ List.mem_map_of_mem (List.mem_map_of_mem (f := Prod.fst) mem))
  | outside _ out => rw [hd] at out; cases out

namespace Validator

/-- The validator has accepted exactly the history. -/
structure Tracks (v : Validator) (domain : Option Nat) (history : List (Entry × Nat)) : Prop where
  domain_eq : v.domain = domain
  entries_eq : v.entries.toList = entriesOf history
  seen : ∀ index line, v.firstSeen[index]? = some line ↔
    ∃ entry, (entry, line) ∈ history ∧ entry.index = index
  admissible : Admissible domain (entriesOf history)

theorem new_tracks (domain : Option Nat) : (new domain).Tracks domain [] :=
  ⟨rfl, rfl, by simp [new], .nil domain⟩

theorem Tracks.getElem?_eq_none_iff {v : Validator} {domain : Option Nat}
    {history : List (Entry × Nat)} (h : v.Tracks domain history) {index : Int} :
    v.firstSeen[index]? = none ↔ index ∉ (entriesOf history).map Entry.index := by
  rw [Option.eq_none_iff_forall_ne_some]
  constructor
  · intro hn hmem
    obtain ⟨_, he, rfl⟩ := List.mem_map.1 hmem
    obtain ⟨⟨entry, line⟩, mem, rfl⟩ := List.mem_map.1 he
    exact hn line ((h.seen _ _).2 ⟨entry, mem, rfl⟩)
  · intro hn line hs
    obtain ⟨entry, mem, rfl⟩ := (h.seen _ _).1 hs
    exact hn (List.mem_map_of_mem (List.mem_map_of_mem (f := Prod.fst) mem))

/-- Recording an entry that may be added puts it at the end of the history. -/
theorem Tracks.record {v : Validator} {domain : Option Nat} {history : List (Entry × Nat)}
    (h : v.Tracks domain history) {entry : Entry} (line : Nat)
    (ha : Admissible domain (entriesOf history ++ [entry])) :
    Tracks ⟨domain, v.firstSeen.insert entry.index line, v.entries.push entry⟩ domain
      (history ++ [(entry, line)]) := by
  refine ⟨rfl, by simp [entriesOf, h.entries_eq], fun index l => ?_, ?_⟩
  · have fresh := (admissible_concat_iff.1 ha).2.1
    simp only [Std.TreeMap.getElem?_insert, Int.compare_eq_eq, List.mem_append, List.mem_singleton,
      Prod.mk.injEq]
    split
    · next hi =>
      subst hi
      constructor
      · rintro ⟨⟩; exact ⟨entry, .inr ⟨rfl, rfl⟩, rfl⟩
      · rintro ⟨earlier, hmem | ⟨rfl, rfl⟩, hi⟩
        · exact absurd (List.mem_map.2 ⟨earlier, List.mem_map.2 ⟨_, hmem, rfl⟩, hi⟩) fresh
        · rfl
    · next hi =>
      rw [h.seen]
      constructor
      · rintro ⟨earlier, hmem, rfl⟩; exact ⟨earlier, .inl hmem, rfl⟩
      · rintro ⟨earlier, hmem | ⟨rfl, rfl⟩, rfl⟩
        · exact ⟨earlier, hmem, rfl⟩
        · exact absurd rfl hi
  · rw [entriesOf, List.map_append]
    exact ha

/-- **One observation**: the entry is accepted and joins the history, or it is refused. -/
theorem Tracks.observe {v : Validator} {domain : Option Nat} {history : List (Entry × Nat)}
    (h : v.Tracks domain history) (entry : Entry) (line : Nat) :
    (∃ v', v.observe entry line = .ok v' ∧ v'.Tracks domain (history ++ [(entry, line)])) ∨
      ∃ e, v.observe entry line = .error e ∧ Refused domain history entry line e := by
  unfold Validator.observe Validator.step
  cases hs : v.firstSeen[entry.index]? with
  | some first =>
    obtain ⟨earlier, mem, same⟩ := (h.seen _ _).1 hs
    exact .inr ⟨_, rfl, .repeated mem same⟩
  | none =>
    simp only [h.domain_eq]
    cases hd : inDomain domain entry.index with
    | true =>
      have fresh := h.getElem?_eq_none_iff.1 hs
      exact .inl ⟨_, rfl, h.record line (admissible_concat_iff.2 ⟨h.admissible, fresh, hd⟩)⟩
    | false =>
      cases domain with
      | none => simp [inDomain] at hd
      | some size => exact .inr ⟨_, rfl, .outside rfl hd⟩

/-! ## Completeness -/

/-- **The walk over ascending indices** stops at the first number from `expected` on that is absent:
with an error if greater indices follow it, otherwise as the number after the last. -/
theorem walk_spec : ∀ {indices : List Int} {expected : Int}, indices.Pairwise (· < ·) →
    (∀ i ∈ indices, expected ≤ i) →
    ∃ stop, expected ≤ stop ∧ stop ∉ indices ∧ (∀ i, expected ≤ i → i < stop → i ∈ indices) ∧
      ((walk expected indices = .ok stop ∧ ∀ i ∈ indices, i < stop) ∨
        (walk expected indices = .error stop ∧ ∃ i ∈ indices, stop < i))
  | [], expected, _, _ =>
    ⟨expected, Int.le_refl _, by simp, fun _ _ _ => by omega, .inl ⟨rfl, by simp⟩⟩
  | index :: rest, expected, hs, hge => by
    obtain ⟨hlt, hs'⟩ := List.pairwise_cons.1 hs
    by_cases heq : index = expected
    · subst heq
      obtain ⟨stop, hle, hnot, hall, hw⟩ :=
        @walk_spec rest (index + 1) hs' fun i hi => hlt i hi
      refine ⟨stop, by omega, by simp [hnot]; omega, fun i h₁ h₂ => ?_, ?_⟩
      · by_cases hi : i = index
        · simp [hi]
        · exact List.mem_cons_of_mem _ (hall i (by omega) h₂)
      · rw [walk, if_pos rfl]
        rcases hw with ⟨hw, hb⟩ | ⟨hw, i, hi, hb⟩
        · exact .inl ⟨hw, by simpa using ⟨by omega, hb⟩⟩
        · exact .inr ⟨hw, i, List.mem_cons_of_mem _ hi, hb⟩
    · have hgt : expected < index := by have := hge index (by simp); omega
      refine ⟨expected, Int.le_refl _, ?_, fun i h₁ h₂ => by omega, .inr ⟨?_, index, by simp, hgt⟩⟩
      · simp only [List.mem_cons, not_or]
        exact ⟨by omega, fun hmem => by have := hlt _ hmem; omega⟩
      · rw [walk, if_neg heq]

theorem signed64_eq {size : Nat} (h : size ≤ Text.int64Max) : signed64 size = size := by
  unfold signed64
  have h : (size : Int) ≤ 9223372036854775807 := h
  have hs : (UInt64.size : Int) = 18446744073709551616 := rfl
  rw [Int.bmod_eq_of_le] <;> omega

/-- **The completeness check** over ascending indices inside a domain names the smallest absent
index, and no index exactly when none is absent. -/
theorem missing?_spec {size : Nat} (hsize : size ≤ Text.int64Max) {indices : List Int}
    (hs : indices.Pairwise (· < ·)) (hin : ∀ i ∈ indices, 0 ≤ i ∧ i < size) :
    (missing? size indices = none ∧ ∀ i : Int, 0 ≤ i → i < size → i ∈ indices) ∨
      ∃ index, missing? size indices = some index ∧ index < size ∧ LeastAbsent indices index := by
  obtain ⟨stop, hle, hnot, hall, hw⟩ := @walk_spec indices 0 hs fun i hi => (hin i hi).1
  have least : LeastAbsent indices stop := ⟨hle, hnot, hall⟩
  unfold missing?
  rw [signed64_eq hsize]
  rcases hw with ⟨hw, hb⟩ | ⟨hw, i, hi, hb⟩
  · simp only [hw]
    by_cases hlt : stop < size
    · exact .inr ⟨stop, by simp [hlt], hlt, least⟩
    · exact .inl ⟨by simp [hlt], fun i h₁ h₂ => hall i h₁ (by omega)⟩
  · have := hin i hi
    exact .inr ⟨stop, by simp [hw], by omega, least⟩

theorem keys_pairwise (v : Validator) : v.firstSeen.keys.Pairwise (· < ·) :=
  Std.TreeMap.ordered_keys.imp fun h => Int.compare_eq_lt.1 h

theorem Tracks.mem_keys_iff {v : Validator} {domain : Option Nat} {history : List (Entry × Nat)}
    (h : v.Tracks domain history) {index : Int} :
    index ∈ v.firstSeen.keys ↔ index ∈ (entriesOf history).map Entry.index := by
  rw [Std.TreeMap.mem_keys, Std.TreeMap.mem_iff_isSome_getElem?, ← not_iff_not,
    Bool.not_eq_true, Option.isSome_eq_false_iff, Option.isNone_iff_eq_none,
    h.getElem?_eq_none_iff]

theorem Tracks.keys_inside {v : Validator} {domain : Option Nat} {history : List (Entry × Nat)}
    (h : v.Tracks domain history) {size : Nat} (hsize : domain = some size) :
    ∀ i ∈ v.firstSeen.keys, 0 ≤ i ∧ i < size := by
  intro i hi
  obtain ⟨entry, he, rfl⟩ := List.mem_map.1 (h.mem_keys_iff.1 hi)
  exact inDomain_iff.1 (h.admissible.2 entry he) size hsize

/-- **Completeness at the end**: the accepted entries are handed back in their order if they cover
the domain; otherwise the smallest absent index is reported. -/
theorem Tracks.finish {v : Validator} {domain : Option Nat} {history : List (Entry × Nat)}
    (h : v.Tracks domain history) (hsize : ∀ size : Nat, domain = some size → size ≤ Text.int64Max) :
    (v.finish = .ok (entriesOf history) ∧ Covers domain (entriesOf history)) ∨
      ∃ size index, domain = some size ∧ v.finish = .error (.missingIndex index) ∧ index < size ∧
        LeastAbsent ((entriesOf history).map Entry.index) index := by
  unfold Validator.finish
  rw [h.domain_eq, h.entries_eq]
  cases domain with
  | none => exact .inl ⟨rfl, by simp [Covers]⟩
  | some size =>
    rcases missing?_spec (hsize size rfl) v.keys_pairwise (h.keys_inside rfl) with
      ⟨hm, hall⟩ | ⟨index, hm, hlt, ha⟩
    · refine .inl ⟨by simp [hm], ?_⟩
      rintro _ ⟨⟩ i h₁ h₂
      exact h.mem_keys_iff.1 (hall i h₁ h₂)
    · exact .inr ⟨size, index, rfl, by simp [hm], hlt, ha.nonneg,
        fun hmem => ha.absent (h.mem_keys_iff.2 hmem),
        fun i h₁ h₂ => h.mem_keys_iff.1 (ha.below i h₁ h₂)⟩

end Validator

end EntropyTables
