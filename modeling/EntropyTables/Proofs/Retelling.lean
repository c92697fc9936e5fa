import Mathlib.Data.List.Forall2
import EntropyTables.Proofs.Gathering
/-!
# The same tokens on other lines

Of a line, `collect` uses its tokens and its number. Two runs over lines that agree in their tokens,
one by one, take the same steps (`Relocated.observe`, `gather_retold`): they end in the same table
or in the same error, which tells of the lines of its own file.

Main statements: `collect_retold` and its two cases, `collect_reworded` and `collect_relocated`.
-/
namespace EntropyTables

/-- The error with the quoted line put through `g`. -/
def TableError.reword (g : String → String) : TableError → TableError
  | .malformedLine n line reason => .malformedLine n (g line) reason
  | e => e

theorem TableError.relocate_id : TableError.relocate id = id := by funext e; cases e <;> rfl

theorem TableError.reword_id : TableError.reword id = id := by funext e; cases e <;> rfl

open TableError (relocate reword)

variable {f : Nat → Nat} {g : String → String}

/-- The second line has the tokens of the first. Its number is that of the first put through `f`,
and `g` does not tell their texts apart. -/
structure Line.Retold (f : Nat → Nat) (g : String → String) (line line' : Line) : Prop where
  tokens : line'.tokens = line.tokens
  number : line'.number = f line.number
  text : g line'.text = g line.text

theorem parse_retold (layout : Layout) {line line' : Line} (h : line.Retold f g line') :
    (layout.parse line').mapError (reword g) =
      ((layout.parse line).mapError (relocate f)).mapError (reword g) := by
  have hb := parse_blames layout line
  rw [parse_retell layout h.tokens]
  cases hp : layout.parse line with
  | ok r => rfl
  | error e =>
    obtain ⟨reason, rfl⟩ := hb e hp
    simp [TableError.retell, relocate, reword, h.number, h.text]

/-! ## Validators -/

/-- The second validator has accepted what the first has, from lines elsewhere. -/
structure Validator.Relocated (f : Nat → Nat) (v v' : Validator) : Prop where
  domain : v'.domain = v.domain
  entries : v'.entries = v.entries
  seen : ∀ index : Int, v'.firstSeen[index]? = v.firstSeen[index]?.map f

namespace Validator.Relocated

variable {v v' : Validator}

theorem new (domain : Option Nat) : (Validator.new domain).Relocated f (Validator.new domain) :=
  ⟨rfl, rfl, by simp [Validator.new]⟩

/-- **One observation**: both validators accept the entry, or both refuse it for the same reason. -/
theorem observe (h : v.Relocated f v') (entry : Entry) (line : Nat) :
    (∃ w w', v.observe entry line = .ok w ∧ v'.observe entry (f line) = .ok w' ∧
      w.Relocated f w') ∨
    ∃ e, v.observe entry line = .error e ∧ v'.observe entry (f line) = .error (e.relocate f) := by
  unfold Validator.observe Validator.step
  rw [h.seen, h.domain]
  cases hs : v.firstSeen[entry.index]? with
  | some first => exact .inr ⟨_, rfl, rfl⟩
  | none =>
    cases hd : inDomain v.domain entry.index with
    | true =>
      refine .inl ⟨_, _, rfl, rfl, rfl, by simp [h.entries], fun index => ?_⟩
      simp only [Std.TreeMap.getElem?_insert, h.seen]
      split <;> rfl
    | false => exact .inr ⟨_, rfl, rfl⟩

theorem observeAll (line : Nat) : ∀ (entries : List Entry) {v v' : Validator}, v.Relocated f v' →
    (observeAll v line entries).1.Relocated f (observeAll v' (f line) entries).1 ∧
      (EntropyTables.observeAll v' (f line) entries).2 =
        (EntropyTables.observeAll v line entries).2.map (relocate f)
  | [], v, v', h => ⟨h, rfl⟩
  | entry :: rest, v, v', h => by
    unfold EntropyTables.observeAll
    rcases h.observe entry line with ⟨w, w', ho, ho', hw⟩ | ⟨e, ho, ho'⟩
    · rw [Validator.step_of_observe_ok ho, Validator.step_of_observe_ok ho']
      exact hw.observeAll line rest
    · rw [Validator.step_of_observe_error ho, Validator.step_of_observe_error ho']
      exact ⟨h, rfl⟩

theorem keys_eq (h : v.Relocated f v') : v'.firstSeen.keys = v.firstSeen.keys := by
  have hmem : ∀ index : Int, index ∈ v'.firstSeen.keys ↔ index ∈ v.firstSeen.keys := by
    intro index
    rw [Std.TreeMap.mem_keys, Std.TreeMap.mem_keys, Std.TreeMap.mem_iff_isSome_getElem?,
      Std.TreeMap.mem_iff_isSome_getElem?, h.seen, Option.isSome_map]
  have hp := (List.perm_ext_iff_of_nodup (v'.keys_pairwise.imp Int.ne_of_lt)
    (v.keys_pairwise.imp Int.ne_of_lt)).2 hmem
  exact hp.eq_of_pairwise (fun _ _ _ _ h₁ h₂ => by omega) v'.keys_pairwise v.keys_pairwise

theorem finish (h : v.Relocated f v') : v'.finish = v.finish := by
  unfold Validator.finish
  rw [h.domain, h.entries, h.keys_eq]

end Validator.Relocated

/-- No error about the domain as a whole tells of a line. -/
theorem finish_mapError {ε : TableError → TableError} (hε : ∀ i, ε (.missingIndex i) = .missingIndex i)
    (v : Validator) : v.finish.mapError ε = v.finish := by
  unfold Validator.finish
  split
  · rw [mapError_error, hε]
  · rfl

/-! ## Runs -/

/-- **Two runs over lines with the same tokens** take the same steps. -/
theorem gather_retold {lines lines' : List Line} (layout : Layout) {v v' : Validator}
    (h : List.Forall₂ (Line.Retold f g) lines lines') (hv : v.Relocated f v') :
    (gather layout v lines).1.Relocated f (gather layout v' lines').1 ∧
      (gather layout v' lines').2.map (reword g) =
        ((gather layout v lines).2.map (relocate f)).map (reword g) := by
  induction h generalizing layout v v' with
  | nil => exact ⟨hv, rfl⟩
  | @cons line line' rest rest' hl _ ih =>
    have hp := parse_retold layout hl
    unfold gather
    cases h : layout.parse line with
    | error e =>
      cases h' : layout.parse line' with
      | ok r => rw [h, h'] at hp; cases hp
      | error e' =>
        rw [h, h'] at hp
        rw [Layout.step_of_parse_error h, Layout.step_of_parse_error h']
        exact ⟨hv, congrArg some (Except.error.inj hp)⟩
    | ok r =>
      cases h' : layout.parse line' with
      | error e' => rw [h, h'] at hp; cases hp
      | ok r' =>
        rw [h, h'] at hp
        obtain rfl : r' = r := Except.ok.inj hp
        obtain ⟨entries, layout'⟩ := r'
        rw [Layout.step_of_parse_ok h, Layout.step_of_parse_ok h']
        obtain ⟨hw, he⟩ := hv.observeAll line.number entries
        rw [← hl.number] at hw he
        dsimp only
        generalize observeAll v line.number entries = after at hw he ⊢
        generalize observeAll v' line'.number entries = after' at hw he ⊢
        obtain ⟨w, o⟩ := after
        obtain ⟨w', o'⟩ := after'
        obtain rfl : o' = _ := he
        cases o with
        | none => exact ih layout' hw
        | some e => exact ⟨hw, rfl⟩

/-- **Two files whose lines have the same tokens** come to the same table or to the same error, told
of the lines of its own file. -/
theorem collect_retold (selection : Selection) {raw raw' : List String}
    (h : List.Forall₂ (Line.Retold f g) (Line.ofRaw raw) (Line.ofRaw raw')) :
    (collect selection raw').mapError (reword g) =
      ((collect selection raw).mapError (relocate f)).mapError (reword g) := by
  obtain ⟨hv, he⟩ := gather_retold (.fresh selection) h (.new selection.domainSize)
  simp only [collect, Collection.entries, gather_fresh]
  generalize gather (.fresh selection) (.new selection.domainSize) (Line.ofRaw raw) = result
    at hv he ⊢
  generalize gather (.fresh selection) (.new selection.domainSize) (Line.ofRaw raw') = result'
    at hv he ⊢
  obtain ⟨v, o⟩ := result
  obtain ⟨v', o'⟩ := result'
  cases o with
  | some e =>
    cases o' with
    | none => cases he
    | some e' => exact congrArg Except.error (Option.some.inj he)
  | none =>
    cases o' with
    | some e' => cases he
    | none =>
      have hreword := finish_mapError (fun _ => (rfl : reword g (.missingIndex _) = _)) v
      have hrelocate := finish_mapError (fun _ => (rfl : relocate f (.missingIndex _) = _)) v
      simp only [mapError_map, hv.finish, hrelocate, hreword]

/-- Lines with other texts but the same tokens in their places. -/
theorem collect_reworded (selection : Selection) {raw raw' : List String}
    (h : List.Forall₂ (Line.Retold id g) (Line.ofRaw raw) (Line.ofRaw raw')) :
    (collect selection raw').mapError (reword g) = (collect selection raw).mapError (reword g) := by
  rw [collect_retold selection h, TableError.relocate_id, mapError_id]

theorem collect_relocated (selection : Selection) {raw raw' : List String}
    (h : Line.ofRaw raw' = (Line.ofRaw raw).map (Line.relocate f)) :
    collect selection raw' = (collect selection raw).mapError (relocate f) := by
  have hlines : List.Forall₂ (Line.Retold f id) (Line.ofRaw raw) (Line.ofRaw raw') := by
    rw [h, List.forall₂_map_right_iff, List.forall₂_same]
    exact fun line _ => ⟨line.tokens_relocate f, rfl, rfl⟩
  have hc := collect_retold selection hlines
  rwa [TableError.reword_id, mapError_id, mapError_id] at hc

end EntropyTables
