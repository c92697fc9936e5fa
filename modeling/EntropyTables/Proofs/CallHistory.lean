import EntropyTables.Proofs.Checking
/-!
# Observations that go on after errors

A caller can go on observing entries after one was refused. A refused call hands back the validator
as it was (`step_refused`), so the calls that were accepted are its history (`Tracks.callAll`): each
further call and the check at the end are told by them alone.

Main statements: `observe_history`, for any domain that is a signed 64-bit number, and
`finish_sound_iff` (the check at the end is sound for no greater domain: its size is then taken for
a negative number, which every count reaches).
-/
namespace EntropyTables.Validator

/-- The validator after calls, whether they are accepted or not. -/
def callAll (v : Validator) : List (Entry × Nat) → Validator
  | [] => v
  | (entry, line) :: rest => (v.step entry line).1.callAll rest

/-- The calls that are accepted, in the order in which they are made. -/
def accepted (v : Validator) : List (Entry × Nat) → List (Entry × Nat)
  | [] => []
  | (entry, line) :: rest =>
    match v.step entry line with
    | (v', none) => (entry, line) :: v'.accepted rest
    | (v', some _) => v'.accepted rest

def acceptedIndices (domain : Option Nat) (calls : List (Entry × Nat)) : List Int :=
  (entriesOf ((new domain).accepted calls)).map Entry.index

theorem callAll_append : ∀ (calls more : List (Entry × Nat)) (v : Validator),
    v.callAll (calls ++ more) = (v.callAll calls).callAll more
  | [], _, _ => rfl
  | (entry, line) :: rest, more, v => callAll_append rest more (v.step entry line).1

/-- **The accepted calls join the history**, and the others change nothing. -/
theorem Tracks.callAll {domain : Option Nat} : ∀ (calls : List (Entry × Nat)) {v : Validator}
    {history : List (Entry × Nat)}, v.Tracks domain history →
      (v.callAll calls).Tracks domain (history ++ v.accepted calls)
  | [], v, history, h => by simpa [Validator.callAll, accepted] using h
  | (entry, line) :: rest, v, history, h => by
    unfold Validator.callAll accepted
    rcases h.observe entry line with ⟨v', ho, h'⟩ | ⟨e, ho, -⟩
    · rw [step_of_observe_ok ho]
      simpa using h'.callAll rest
    · rw [step_of_observe_error ho]
      exact h.callAll rest

theorem callAll_tracks (domain : Option Nat) (calls : List (Entry × Nat)) :
    ((new domain).callAll calls).Tracks domain ((new domain).accepted calls) := by
  simpa using (new_tracks domain).callAll calls

/-! ## One call after a history -/

section

variable {v : Validator} {domain : Option Nat} {history : List (Entry × Nat)}

/-- An index outside the domain is reported as such, even if it is repeated. -/
theorem Tracks.observe_outside (h : v.Tracks domain history) {entry : Entry} (line : Nat)
    {size : Nat} (hsize : domain = some size) (hout : inDomain domain entry.index = false) :
    v.observe entry line = .error (.indexOutOfRange entry.index line size) := by
  -- What was accepted lies in the domain, so the index is none of it.
  have hnew : v.firstSeen[entry.index]? = none := by
    rw [h.getElem?_eq_none_iff]
    intro hmem
    obtain ⟨earlier, he, hi⟩ := List.mem_map.1 hmem
    have hin := h.admissible.2 earlier he
    rw [hi, hout] at hin
    cases hin
  have hnot : ¬ inDomain (some size) entry.index = true := by simp [← hsize, hout]
  simp only [Validator.observe, step, hnew, h.domain_eq, hsize, if_neg hnot, Option.getD_some]

theorem Tracks.observe_repeated (h : v.Tracks domain history) {entry earlier : Entry} (line : Nat)
    {first : Nat} (hmem : (earlier, first) ∈ history) (hi : earlier.index = entry.index) :
    v.observe entry line = .error (.duplicateIndex entry.index line first) := by
  have hseen : v.firstSeen[entry.index]? = some first := (h.seen _ _).2 ⟨earlier, hmem, hi⟩
  simp only [Validator.observe, step, hseen]

theorem Tracks.isOk_observe_iff (h : v.Tracks domain history) (entry : Entry) (line : Nat) :
    (v.observe entry line).isOk = true ↔
      entry.index ∉ (entriesOf history).map Entry.index ∧ inDomain domain entry.index = true := by
  rcases h.observe entry line with ⟨v', ho, h'⟩ | ⟨e, ho, hr⟩
  · have hadd : Admissible domain (entriesOf history ++ [entry]) := by
      simpa [entriesOf] using h'.admissible
    rw [ho]
    exact ⟨fun _ => (admissible_concat_iff.1 hadd).2, fun _ => rfl⟩
  · rw [ho]
    refine ⟨nofun, fun hin => absurd (admissible_concat_iff.2 ⟨h.admissible, hin⟩) ?_⟩
    exact hr.not_admissible

/-! ## The check at the end -/

/-- The counter of the check does not leave the domain, wherever in the indices it stands. -/
theorem Tracks.walk_le (h : v.Tracks domain history) {size : Nat} (hsize : domain = some size)
    {indices : List Int} (hkeys : indices <+: v.firstSeen.keys) {next : Int}
    (hwalk : walk 0 indices = .ok next) : 0 ≤ next ∧ next ≤ size := by
  have hin : ∀ i ∈ indices, 0 ≤ i ∧ i < size :=
    fun i hi => h.keys_inside hsize i (hkeys.subset hi)
  obtain ⟨stop, hle, -, hall, hw⟩ := @walk_spec indices 0
    (v.keys_pairwise.sublist hkeys.sublist) fun i hi => (hin i hi).1
  obtain rfl : stop = next := by
    rcases hw with ⟨hw, -⟩ | ⟨hw, -⟩
    · exact Except.ok.inj (hw.symm.trans hwalk)
    · cases hw.symm.trans hwalk
  refine ⟨hle, Int.not_lt.1 fun hlt => ?_⟩
  -- A greater counter would have passed the size itself.
  have := hin size (hall size (by omega) hlt)
  omega

theorem signed64_neg {size : Nat} (h : Text.int64Max < size) (h' : size < UInt64.size) :
    signed64 size < 0 := by
  unfold signed64
  have h : (9223372036854775807 : Int) < size := h
  have h' : size < 18446744073709551616 := h'
  have hs : (UInt64.size : Int) = 18446744073709551616 := rfl
  rw [← Int.sub_bmod_right, Int.bmod_eq_of_le] <;> omega

/-- The check passes for indices that run on from zero without a gap, up to the size of the domain
as far as a signed number can tell it. -/
theorem missing?_eq_none_iff {size : Nat} (hword : size < UInt64.size) {indices : List Int}
    (hs : indices.Pairwise (· < ·)) (hin : ∀ i ∈ indices, 0 ≤ i ∧ i < size) :
    missing? size indices = none ↔
      ∃ n : Nat, (∀ i : Int, i ∈ indices ↔ 0 ≤ i ∧ i < n) ∧ (size ≤ Text.int64Max → n = size) := by
  obtain ⟨stop, hle, hnot, hall, hw⟩ := @walk_spec indices 0 hs fun i hi => (hin i hi).1
  unfold missing?
  rcases hw with ⟨hw, hb⟩ | ⟨hw, i, hi, hb⟩
  · have hmem : ∀ i : Int, i ∈ indices ↔ 0 ≤ i ∧ i < stop :=
      fun i => ⟨fun hi => ⟨(hin i hi).1, hb i hi⟩, fun hi => hall i hi.1 hi.2⟩
    have hstop : stop ≤ size := by
      by_contra hlt
      have := hin size (hall size (by omega) (by omega))
      omega
    simp only [hw]
    constructor
    · intro hnone
      refine ⟨stop.toNat, fun i => by rw [hmem, Int.toNat_of_nonneg hle], fun hsize => ?_⟩
      split_ifs at hnone with hlt
      rw [signed64_eq hsize] at hlt
      omega
    · rintro ⟨n, hn, hsize⟩
      -- The first number that is absent is the same for both.
      have hge : ¬ stop < n := fun hlt => hnot ((hn stop).2 ⟨hle, hlt⟩)
      have hge' : ¬ (n : Int) < stop := fun hlt => by
        have := (hn n).1 (hall n (by omega) hlt)
        omega
      refine if_neg ?_
      by_cases h : (size : Int) ≤ Text.int64Max
      · rw [signed64_eq h]
        have := hsize h
        omega
      · have := signed64_neg (Int.not_le.1 h) hword
        omega
  · simp only [hw, reduceCtorEq, false_iff]
    rintro ⟨n, hn, -⟩
    have hi' := (hn i).1 hi
    exact hnot ((hn stop).2 ⟨hle, by omega⟩)

theorem Tracks.finish_of_signed (h : v.Tracks domain history) {size : Nat}
    (hsize : domain = some size) (hsigned : size ≤ Text.int64Max) :
    (v.finish = .ok (entriesOf history) ∧ Covers domain (entriesOf history)) ∨
      ∃ index, v.finish = .error (.missingIndex index) ∧ index < size ∧
        LeastAbsent ((entriesOf history).map Entry.index) index := by
  subst hsize
  rcases h.finish fun _ hs => Option.some.inj hs ▸ hsigned with hok | ⟨_, index, ⟨⟩, hf⟩
  · exact .inl hok
  · exact .inr ⟨index, hf⟩

/-- **The check at the end**, for a domain of any size that is a word. -/
theorem Tracks.finish_eq_ok_iff (h : v.Tracks domain history) {size : Nat}
    (hsize : domain = some size) (hword : size < UInt64.size) :
    (∃ entries, v.finish = .ok entries) ↔
      ∃ n : Nat, (∀ i : Int, i ∈ (entriesOf history).map Entry.index ↔ 0 ≤ i ∧ i < n) ∧
        (size ≤ Text.int64Max → n = size) := by
  simp only [← h.mem_keys_iff,
    ← missing?_eq_none_iff hword v.keys_pairwise (h.keys_inside hsize)]
  unfold Validator.finish
  simp only [h.domain_eq, hsize, Option.bind_some]
  cases missing? size v.firstSeen.keys with
  | none => exact ⟨fun _ => rfl, fun _ => ⟨_, rfl⟩⟩
  | some index => exact ⟨nofun, nofun⟩

end

/-! ## Histories -/

/-- **A validator after any calls.** A further call is accepted exactly when its index is new and
lies in the domain, and is refused for the reason that the accepted calls show. The accepted calls
are what the validator holds. At the end they are handed back if they fill the domain, or else the
smallest index that they leave out is reported; the counter that looks for it stays a signed 64-bit
number. -/
theorem observe_history (domain : Option Nat) (calls : List (Entry × Nat)) :
    let v := (new domain).callAll calls
    let history := (new domain).accepted calls
    let indices := acceptedIndices domain calls
    let inside (i : Int) := ∀ size : Nat, domain = some size → 0 ≤ i ∧ i < size
    (∀ entry line,
      ((v.observe entry line).isOk = true ↔ entry.index ∉ indices ∧ inside entry.index) ∧
      ((v.observe entry line).isOk = false → (new domain).callAll (calls ++ [(entry, line)]) = v) ∧
      (¬ inside entry.index → ∃ size, domain = some size ∧
        v.observe entry line = .error (.indexOutOfRange entry.index line size)) ∧
      ∀ earlier first, (earlier, first) ∈ history → earlier.index = entry.index →
        v.observe entry line = .error (.duplicateIndex entry.index line first)) ∧
    (v.entries.toList = entriesOf history ∧ indices.Nodup ∧
      ∀ index line, v.firstSeen[index]? = some line ↔
        ∃ entry, (entry, line) ∈ history ∧ entry.index = index) ∧
    (domain = none → v.finish = .ok (entriesOf history)) ∧
    ∀ size : Nat, domain = some size → size ≤ Text.int64Max →
      (v.finish = .ok (entriesOf history) ↔ ∀ i : Int, i ∈ indices ↔ 0 ≤ i ∧ i < size) ∧
      (v.finish ≠ .ok (entriesOf history) → ∃ index, v.finish = .error (.missingIndex index) ∧
        index < size ∧ LeastAbsent indices index) ∧
      ∀ keys next, keys <+: v.firstSeen.keys → walk 0 keys = .ok next →
        Text.isInt64 next = true := by
  intro v history indices inside
  have h : v.Tracks domain history := callAll_tracks domain calls
  refine ⟨fun entry line => ⟨?_, fun hrefused => ?_, fun hout => ?_, ?_⟩,
    ⟨h.entries_eq, h.admissible.1, h.seen⟩, ?_, fun size hsize hsigned => ⟨?_, fun hne => ?_, ?_⟩⟩
  · rw [h.isOk_observe_iff, inDomain_iff]
    rfl
  · rw [callAll_append]
    show (v.step entry line).1 = v
    cases ho : v.observe entry line with
    | error e => rw [step_of_observe_error ho]
    | ok v' =>
      rw [ho] at hrefused
      cases hrefused
  · have hfalse : inDomain domain entry.index = false := by
      rw [← Bool.not_eq_true, inDomain_iff]
      exact hout
    cases hsize : domain with
    | none => exact absurd (fun size hs => by cases hsize.symm.trans hs) hout
    | some size => exact ⟨size, rfl, h.observe_outside line hsize hfalse⟩
  · exact fun earlier first hmem hi => h.observe_repeated line hmem hi
  · rintro rfl
    rcases h.finish nofun with ⟨hf, -⟩ | ⟨size, index, hsize, -⟩
    · exact hf
    · cases hsize
  · have hin : ∀ i ∈ indices, 0 ≤ i ∧ i < size :=
      fun i hi => h.keys_inside hsize i (h.mem_keys_iff.2 hi)
    rcases h.finish_of_signed hsize hsigned with ⟨hf, hcovers⟩ | ⟨index, hf, hlt, habsent⟩
    · exact ⟨fun _ i => ⟨hin i, fun hi => hcovers size hsize i hi.1 hi.2⟩, fun _ => hf⟩
    · rw [hf]
      exact ⟨nofun, fun hall =>
        absurd ((hall index).2 ⟨habsent.nonneg, hlt⟩) habsent.absent⟩
  · rcases h.finish_of_signed hsize hsigned with ⟨hf, -⟩ | ⟨index, hf, hlt, habsent⟩
    · exact absurd hf hne
    · exact ⟨index, hf, hlt, habsent⟩
  · intro keys next hkeys hwalk
    obtain ⟨hge, hle⟩ := h.walk_le hsize hkeys hwalk
    have hmin : Text.int64Min ≤ 0 := by decide
    simp only [Text.isInt64, Bool.and_eq_true, decide_eq_true_eq]
    omega

/-- **The check at the end is sound exactly for signed sizes.** For a domain of any size that is a
word, and calls that a signed number can count, it passes where the accepted indices run on from
zero without a gap; whether they reach the size it can tell only of a signed one. -/
theorem finish_sound_iff (size : UInt64) :
    ((∀ calls entries, ((new (some size.toNat)).callAll calls).finish = .ok entries →
        ∀ i : Int, 0 ≤ i → i < size.toNat → i ∈ acceptedIndices (some size.toNat) calls) ↔
      size.toNat ≤ Text.int64Max) ∧
    ∀ calls, calls.length ≤ Text.int64Max →
      ((∃ entries, ((new (some size.toNat)).callAll calls).finish = .ok entries) ↔
        ∃ n : Nat, (∀ i : Int, i ∈ acceptedIndices (some size.toNat) calls ↔ 0 ≤ i ∧ i < n) ∧
          (size.toNat ≤ Text.int64Max → n = size.toNat)) := by
  have hpasses := fun calls => (callAll_tracks (some size.toNat) calls).finish_eq_ok_iff rfl
    size.toNat_lt
  refine ⟨⟨fun hsound => ?_, fun hsigned calls entries hok i h₀ hi => ?_⟩,
    fun calls _ => hpasses calls⟩
  · -- At a greater size the check passes without any call.
    by_contra hlarge
    have hmax : (0 : Int) ≤ Text.int64Max := by decide
    have hnone : ∀ i : Int, i ∈ acceptedIndices (some size.toNat) [] ↔ 0 ≤ i ∧ i < (0 : Nat) := by
      intro i
      simp only [acceptedIndices, accepted, List.map_nil, List.not_mem_nil, false_iff]
      omega
    obtain ⟨entries, hok⟩ := (hpasses []).2 ⟨0, hnone, fun hsigned => absurd hsigned hlarge⟩
    have hzero := (hnone 0).1 (hsound [] entries hok 0 (Int.le_refl 0) (by omega))
    omega
  · obtain ⟨n, hn, hsize⟩ := (hpasses calls).1 ⟨entries, hok⟩
    rw [← hsize hsigned] at hi
    exact (hn i).2 ⟨h₀, hi⟩

/-- Without any call the check passes for a domain of 2^63 indices, all of which are absent. -/
theorem finish_without_calls :
    let size : UInt64 := 9223372036854775808
    ((new (some size.toNat)).callAll []).finish = .ok [] ∧
      (0 : Int) < size.toNat ∧ 0 ∉ acceptedIndices (some size.toNat) [] := by
  decide

end EntropyTables.Validator
