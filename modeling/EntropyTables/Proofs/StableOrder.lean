import EntropyTables.Proofs.Collecting
/-!
# Entries of one index keep their order

Indices may come more than once in a list of entries, so ascending order alone does not say which
list sorting gives. It is also stable: the entries of each index stand in the order in which they
came. Two ascending lists with the same entries at every index are the same list
(`eq_of_withIndex_eq`), which leaves no choice to sorting.

Main statement: `sortEntries_stable`.
-/
namespace EntropyTables

/-- The entries of an index, in the order in which they come. -/
def withIndex (index : Int) (entries : List Entry) : List Entry :=
  entries.filter fun entry => entry.index = index

/-- The second list holds the entries of the first in ascending order of index, and the entries of
one index in the order in which they come in the first. -/
structure StableOrder (entries es : List Entry) : Prop where
  perm : es.Perm entries
  ascending : es.Pairwise fun a b => a.index ≤ b.index
  stable : ∀ index, withIndex index es = withIndex index entries

/-! ## The entries of an index -/

section

variable {index : Int} {entry : Entry} {entries : List Entry}

theorem mem_withIndex : entry ∈ withIndex index entries ↔ entry ∈ entries ∧ entry.index = index := by
  simp [withIndex]

theorem withIndex_cons_self (entry : Entry) (entries : List Entry) :
    withIndex entry.index (entry :: entries) = entry :: withIndex entry.index entries := by
  simp [withIndex]

theorem withIndex_cons_of_ne (h : entry.index ≠ index) :
    withIndex index (entry :: entries) = withIndex index entries := by
  simp [withIndex, h]

theorem withIndex_withIndex : withIndex index (withIndex index entries) = withIndex index entries := by
  simp [withIndex]

theorem mem_iff_of_withIndex_eq {es es' : List Entry}
    (h : ∀ index, withIndex index es = withIndex index es') : entry ∈ es ↔ entry ∈ es' := by
  have hmem : entry ∈ withIndex entry.index es ↔ entry ∈ withIndex entry.index es' := by rw [h]
  simpa [mem_withIndex] using hmem

theorem withIndex_pairwise (index : Int) (entries : List Entry) :
    (withIndex index entries).Pairwise fun a b => decide (a.index ≤ b.index) = true := by
  refine List.pairwise_of_forall_mem_list fun a ha b hb => ?_
  have hia : a.index = index := (mem_withIndex.1 ha).2
  have hib : b.index = index := (mem_withIndex.1 hb).2
  simp [hia, hib]

end

/-! ## Sorting -/

/-- **Sorting is stable.** -/
theorem withIndex_sortEntries (index : Int) (entries : List Entry) :
    withIndex index (sortEntries entries) = withIndex index entries := by
  have hsub : (withIndex index entries).Sublist (sortEntries entries) :=
    List.sublist_mergeSort (by intro a b c; simp only [decide_eq_true_eq]; omega)
      (by intro a b; simp only [Bool.or_eq_true, decide_eq_true_eq]; omega)
      (withIndex_pairwise index entries) List.filter_sublist
  have hsame : (withIndex index entries).Sublist (withIndex index (sortEntries entries)) := by
    have h := hsub.filter fun entry => entry.index = index
    exact withIndex_withIndex ▸ h
  have hlength : (withIndex index (sortEntries entries)).length = (withIndex index entries).length :=
    ((sortEntries_perm entries).filter _).length_eq
  exact (hsame.eq_of_length hlength.symm).symm

theorem stableOrder_sortEntries (entries : List Entry) :
    StableOrder entries (sortEntries entries) where
  perm := sortEntries_perm entries
  ascending := sortEntries_pairwise entries
  stable index := withIndex_sortEntries index entries

/-! ## The only such order -/

theorem head_le_of_mem {a b : Entry} {bs : List Entry}
    (hs : (b :: bs).Pairwise fun a b => a.index ≤ b.index) (ha : a ∈ b :: bs) :
    b.index ≤ a.index := by
  rcases List.mem_cons.1 ha with rfl | ha
  · exact Int.le_refl _
  · exact (List.pairwise_cons.1 hs).1 a ha

/-- **An ascending list is known by its entries of each index**, in their order. -/
theorem eq_of_withIndex_eq {es es' : List Entry} (hs : es.Pairwise fun a b => a.index ≤ b.index)
    (hs' : es'.Pairwise fun a b => a.index ≤ b.index)
    (h : ∀ index, withIndex index es = withIndex index es') : es = es' := by
  induction es generalizing es' with
  | nil =>
    cases es' with
    | nil => rfl
    | cons b bs => exact absurd ((mem_iff_of_withIndex_eq h).2 List.mem_cons_self) List.not_mem_nil
  | cons a as ih =>
    cases es' with
    | nil => exact absurd ((mem_iff_of_withIndex_eq h).1 List.mem_cons_self) List.not_mem_nil
    | cons b bs =>
      have hle : b.index ≤ a.index :=
        head_le_of_mem hs' ((mem_iff_of_withIndex_eq h).1 List.mem_cons_self)
      have hge : a.index ≤ b.index :=
        head_le_of_mem hs ((mem_iff_of_withIndex_eq h).2 List.mem_cons_self)
      have hindex : a.index = b.index := by omega
      -- Both lists begin with the first entry of the least index.
      have hfirst := h a.index
      rw [withIndex_cons_self, hindex, withIndex_cons_self] at hfirst
      obtain ⟨rfl, hrest⟩ := List.cons.inj hfirst
      refine congrArg (a :: ·) (ih hs.of_cons hs'.of_cons fun index => ?_)
      by_cases hi : a.index = index
      · rw [← hi]
        exact hrest
      · have hskip := h index
        rw [withIndex_cons_of_ne hi, withIndex_cons_of_ne hi] at hskip
        exact hskip

/-- **What sorting gives.** It is the stable ascending order of the entries and the only one.
Sorting it again changes nothing, and the order in which entries of distinct indices come does not
matter. -/
theorem sortEntries_stable (entries : List Entry) :
    StableOrder entries (sortEntries entries) ∧
    (∀ es, StableOrder entries es → es = sortEntries entries) ∧
    sortEntries (sortEntries entries) = sortEntries entries ∧
    ∀ entries' : List Entry, entries'.Perm entries → (entries'.map Entry.index).Nodup →
      sortEntries entries' = sortEntries entries := by
  have hunique : ∀ {entries es : List Entry}, StableOrder entries es → es = sortEntries entries := by
    intro entries es h
    have hsorted := stableOrder_sortEntries entries
    refine eq_of_withIndex_eq h.ascending hsorted.ascending fun index => ?_
    rw [h.stable, hsorted.stable]
  have hsorted := stableOrder_sortEntries entries
  refine ⟨hsorted, fun es => hunique, ?_, fun entries' hp hn => ?_⟩
  · exact (hunique ⟨.refl _, hsorted.ascending, fun _ => rfl⟩).symm
  · exact eq_sortEntries ((sortEntries_perm entries').trans hp) (sortEntries_ascending hn)

/-- Two entries of one index stay as they came, after an entry of the least index. -/
theorem sortEntries_stable_ties :
    let least : Entry := ⟨-9223372036854775808, []⟩
    let first : Entry := ⟨9223372036854775807, [.int 1]⟩
    let second : Entry := ⟨9223372036854775807, [.int 0]⟩
    StableOrder [first, least, second] [least, first, second] ∧
      [least, first, second] = sortEntries [first, least, second] ∧
      sortEntries [second, least] = sortEntries [least, second] := by
  intro least first second
  have hstable : StableOrder [first, least, second] [least, first, second] := by
    refine ⟨.swap first least [second], by decide, fun index => ?_⟩
    by_cases hi : least.index = index
    · subst hi
      decide
    · by_cases hg : first.index = index
      · subst hg
        decide
      · simp only [withIndex_cons_of_ne hi, withIndex_cons_of_ne hg]
  exact ⟨hstable, (sortEntries_stable _).2.1 _ hstable,
    (sortEntries_stable [least, second]).2.2.2 _ (.swap least second []) (by decide)⟩

end EntropyTables
