import EntropyTables.Proofs.Gathering
/-!
# When a table is collected, and what is collected

Main statement: `collect_ok` says exactly when the lines of a file give a table and which entries
the table has. Sorting is settled first: entries of distinct indices have one ascending order
(`eq_sortEntries`), and entries whose ascending indices fill `0..n` stand in the places of their
indices (`index_eq_of_ascending`).
-/
namespace EntropyTables

/-! ## Sorting -/

theorem sortEntries_perm (entries : List Entry) : (sortEntries entries).Perm entries :=
  List.mergeSort_perm entries _

theorem sortEntries_pairwise (entries : List Entry) :
    (sortEntries entries).Pairwise fun a b => a.index ≤ b.index := by
  have h : (sortEntries entries).Pairwise fun a b => decide (a.index ≤ b.index) = true :=
    List.pairwise_mergeSort (by intro a b c; simp only [decide_eq_true_eq]; omega)
      (by intro a b; simp only [Bool.or_eq_true, decide_eq_true_eq]; omega) entries
  exact h.imp of_decide_eq_true

theorem sortEntries_ascending {entries : List Entry} (h : (entries.map Entry.index).Nodup) :
    (sortEntries entries).Pairwise fun a b => a.index < b.index := by
  have hn : ((sortEntries entries).map Entry.index).Nodup :=
    ((sortEntries_perm entries).map _).nodup_iff.2 h
  exact (sortEntries_pairwise entries).imp₂ (fun _ _ hle hne => by omega) (List.pairwise_map.1 hn)

/-- A strictly ascending order of entries is the only one. -/
theorem eq_of_ascending {as bs : List Entry} (hp : as.Perm bs)
    (ha : as.Pairwise fun a b => a.index < b.index)
    (hb : bs.Pairwise fun a b => a.index < b.index) : as = bs :=
  hp.eq_of_pairwise (fun _ _ _ _ h₁ h₂ => by omega) ha hb

theorem nodup_of_ascending {entries : List Entry}
    (h : entries.Pairwise fun a b => a.index < b.index) : (entries.map Entry.index).Nodup :=
  List.pairwise_map.2 (h.imp fun hlt => by omega)

/-- **The ascending order of entries** is what sorting gives. -/
theorem eq_sortEntries {es entries : List Entry} (hp : es.Perm entries)
    (hs : es.Pairwise fun a b => a.index < b.index) : es = sortEntries entries := by
  have hn : (entries.map Entry.index).Nodup := (hp.map _).nodup_iff.1 (nodup_of_ascending hs)
  exact eq_of_ascending (hp.trans (sortEntries_perm entries).symm) hs (sortEntries_ascending hn)

/-- Ascending numbers that are exactly those of `0..n` are `0`, `1` and so on up to `n - 1`. -/
theorem eq_range_of_ascending {is : List Int} {n : Nat} (hs : is.Pairwise (· < ·))
    (hm : ∀ i, i ∈ is ↔ 0 ≤ i ∧ i < n) : is = (List.range n).map Int.ofNat := by
  have hr : ((List.range n).map Int.ofNat).Pairwise (· < ·) :=
    List.pairwise_map.2 (List.pairwise_lt_range.imp Int.ofNat_lt.2)
  have hp : is.Perm ((List.range n).map Int.ofNat) := by
    refine (List.perm_ext_iff_of_nodup (hs.imp Int.ne_of_lt) (hr.imp Int.ne_of_lt)).2 fun i => ?_
    rw [hm, List.mem_map]
    constructor
    · rintro ⟨h₀, hn⟩; exact ⟨i.toNat, List.mem_range.2 (by omega), Int.toNat_of_nonneg h₀⟩
    · rintro ⟨k, hk, rfl⟩; exact ⟨Int.natCast_nonneg k, Int.ofNat_lt.2 (List.mem_range.1 hk)⟩
  exact hp.eq_of_pairwise (fun _ _ _ _ h₁ h₂ => by omega) hs hr

/-- **Counting**: ascending entries whose indices are exactly `0..n` are `n` entries, and each has
its place as its index. -/
theorem index_eq_of_ascending {es : List Entry} {n : Nat}
    (hs : es.Pairwise fun a b => a.index < b.index)
    (hm : ∀ i, i ∈ es.map Entry.index ↔ 0 ≤ i ∧ i < n) :
    es.length = n ∧ ∀ x (h : x < es.length), es[x].index = x := by
  have hr := eq_range_of_ascending (List.pairwise_map.2 hs) hm
  refine ⟨by simpa using congrArg List.length hr, fun x hx => ?_⟩
  have := List.getElem_of_eq hr (i := x) (by simpa using hx)
  simpa using this

theorem collect_eq_ok_of_gathered {selection : Selection} {raw : List String}
    {es entries : List Entry} (hf : (Collection.ofRaw selection raw).fault = none)
    (hv : (Collection.ofRaw selection raw).validator.finish = .ok entries) (hp : es.Perm entries)
    (hs : es.Pairwise fun a b => a.index < b.index) : collect selection raw = .ok es := by
  rw [collect, Collection.entries, hf, hv, eq_sortEntries hp hs]
  rfl

/-! ## The collected table -/

/-- What a file must hold for its table to be collected: every line that is kept is accepted, no
index comes twice, and the indices of CABAC initialization are exactly `0..1024`. -/
structure Selection.Complete (selection : Selection) (raw : List String) : Prop where
  accepted : ∀ line ∈ Line.ofRaw raw, selection.Accepts line
  distinct : ((selection.parsed raw).map Entry.index).Nodup
  full : selection = .cabacInit →
    ∀ i : Int, i ∈ (selection.parsed raw).map Entry.index ↔ 0 ≤ i ∧ i < 1024

theorem complete_iff {selection : Selection} {raw : List String} :
    selection.Complete raw ↔
      selection.Clean raw ∧ Covers selection.domainSize (selection.parsed raw) := by
  constructor
  · rintro ⟨hacc, hdis, hfull⟩
    refine ⟨⟨hacc, hdis, fun entry he => ?_⟩, fun size hsize i h₀ hn => ?_⟩
    · cases selection with
      | cabacInit =>
        have := (hfull rfl _).1 (List.mem_map_of_mem he)
        simpa [Selection.domainSize, Selection.table, Table.domainSize, Validator.inDomain] using this
      | _ => rfl
    · cases selection with
      | cabacInit => cases hsize; exact (hfull rfl i).2 ⟨h₀, hn⟩
      | _ => cases hsize
  · rintro ⟨⟨hacc, hdis, hin⟩, hcov⟩
    refine ⟨hacc, hdis, ?_⟩
    rintro rfl i
    refine ⟨fun hi => ?_, fun hi => hcov 1024 rfl i hi.1 hi.2⟩
    obtain ⟨entry, he, rfl⟩ := List.mem_map.1 hi
    simpa [Selection.domainSize, Selection.table, Table.domainSize, Validator.inDomain] using
      hin entry he

/-- A collected table is the sorted reading of a complete file. -/
theorem collect_eq_ok_iff {selection : Selection} {raw : List String} {es : List Entry} :
    collect selection raw = .ok es ↔
      selection.Complete raw ∧ es = sortEntries (selection.parsed raw) := by
  rw [complete_iff]
  rcases collect_cases selection raw with ⟨hclean, hcov, h⟩ |
    ⟨hclean, size, index, hsize, h, hlt, habs⟩ | ⟨before, text, after, line, e, rfl, ht, hf, h⟩
  · rw [h, Except.ok.injEq, eq_comm]
    simp [hclean, hcov]
  · rw [h]
    refine ⟨nofun, ?_⟩
    rintro ⟨⟨-, hcov⟩, -⟩
    exact absurd (hcov size hsize index habs.nonneg hlt) habs.absent
  · rw [h]
    refine ⟨nofun, ?_⟩
    rintro ⟨⟨hclean, -⟩, -⟩
    exact absurd hclean (hf.not_clean ht)

theorem fits_of_mem_parsed {selection : Selection} {raw : List String} {entry : Entry}
    (h : entry ∈ selection.parsed raw) : selection.table.Fits entry := by
  obtain ⟨r, hr, he⟩ := List.mem_flatMap.1 h
  exact Layout.fits_of_mem_readings hr entry he

/-- **The collected table.** It exists exactly when the file is complete; it is then the strictly
ascending order of the entries that the lines read as, every entry as wide as the table says, and
the entry at each place of CABAC initialization has the place as its index. -/
theorem collect_ok (selection : Selection) (raw : List String) :
    ((∃ es, collect selection raw = .ok es) ↔ selection.Complete raw) ∧
    ∀ es, collect selection raw = .ok es ↔
      selection.Complete raw ∧ es.Perm (selection.parsed raw) ∧
      es.Pairwise (fun a b => a.index < b.index) ∧
      (∀ entry ∈ es, selection.table.Fits entry) ∧
      (selection = .cabacInit → es.length = 1024 ∧ ∀ x (h : x < es.length), es[x].index = x) := by
  refine ⟨⟨fun ⟨es, h⟩ => (collect_eq_ok_iff.1 h).1, fun h => ⟨_, collect_eq_ok_iff.2 ⟨h, rfl⟩⟩⟩,
    fun es => ?_⟩
  rw [collect_eq_ok_iff]
  constructor
  · rintro ⟨hc, rfl⟩
    have hp := sortEntries_perm (selection.parsed raw)
    have hs := sortEntries_ascending hc.distinct
    refine ⟨hc, hp, hs, fun entry he => fits_of_mem_parsed (hp.mem_iff.1 he), fun hsel => ?_⟩
    exact index_eq_of_ascending hs fun i => ((hp.map Entry.index).mem_iff).trans (hc.full hsel i)
  · rintro ⟨hc, hp, hs, -, -⟩
    exact ⟨hc, eq_sortEntries hp hs⟩

end EntropyTables
