import EntropyTables.Proofs.LineGrammar
/-!
# Lines read by columns

A grammar reads the tokens of a line from left to right, each as what its column holds, and stops at
the first one that its column does not admit. `Follows` says of one step of a grammar that it stops
for a given reason, or succeeds if there is none. The steps of a line follow the first fault among
their tokens (`Follows.bind`, `fault?_append`), so it is enough to know the steps for single tokens
to know what a line comes to (`Follows.readsByColumn`).
-/
namespace EntropyTables.Grammar

open Text (quoted)

inductive Column where
  /-- The index of an entry. -/
  | index
  /-- A number. -/
  | value
  /-- Any token. -/
  | word
  /-- A codeword, or the mark of a cell without one. -/
  | pattern
  deriving DecidableEq

namespace Column

/-- The token can stand in the column. -/
def Admits : Column → String → Prop
  | .index, token => (Text.readInt64? token.toList).isSome = true
  | .value, token => (Text.readInt64? token.toList).isSome = true
  | .word, _ => True
  | .pattern, token => token = "-" ∨ token ≠ "" ∧ ∀ c ∈ token.toList, c = '0' ∨ c = '1'

instance (column : Column) (token : String) : Decidable (column.Admits token) :=
  match column with
  | .index => inferInstanceAs (Decidable (_ = true))
  | .value => inferInstanceAs (Decidable (_ = true))
  | .word => inferInstanceAs (Decidable True)
  | .pattern =>
    inferInstanceAs (Decidable (token = "-" ∨ token ≠ "" ∧ ∀ c ∈ token.toList, c = '0' ∨ c = '1'))

/-- What is said of a token that cannot stand in the column. Every token can stand as a word. -/
def complaint : Column → String → String
  | .index, token => "invalid index " ++ quoted token
  | .value, token => "invalid value " ++ quoted token
  | .word, _ => ""
  | .pattern, token => "invalid bit pattern " ++ quoted token

end Column

/-- The tokens are read by their columns: the reading succeeds exactly when every column admits its
token, and else it blames the leftmost token that its column does not admit. -/
structure ReadsByColumn {α : Type} (line : Line) (column : Nat → Column) (tokens : List String)
    (result : Except TableError α) : Prop where
  isOk_iff : (∃ a, result = .ok a) ↔
    ∀ i token, tokens[i]? = some token → (column i).Admits token
  blames : ∀ i token, tokens[i]? = some token → ¬ (column i).Admits token →
    (∀ j earlier, j < i → tokens[j]? = some earlier → (column j).Admits earlier) →
      result = .error (.malformedLine line.number line.text ((column i).complaint token))

/-! ## The first fault -/

/-- What is said of the leftmost token that its column does not admit. -/
def fault? (column : Nat → Column) : List String → Option String
  | [] => none
  | token :: rest =>
    if (column 0).Admits token then fault? (fun i => column (i + 1)) rest
    else some ((column 0).complaint token)

theorem fault?_eq_none_iff {column : Nat → Column} {tokens : List String} :
    fault? column tokens = none ↔ ∀ i token, tokens[i]? = some token → (column i).Admits token := by
  induction tokens generalizing column with
  | nil => simp [fault?]
  | cons head rest ih =>
    unfold fault?
    split
    · next hhead =>
      rw [ih]
      constructor
      · intro h i token hi
        cases i with
        | zero => exact Option.some.inj hi ▸ hhead
        | succ i => exact h i token hi
      · exact fun h i token hi => h (i + 1) token hi
    · next hhead =>
      simp only [reduceCtorEq, false_iff]
      exact fun h => hhead (h 0 head rfl)

theorem fault?_eq_some {column : Nat → Column} {tokens : List String} {i : Nat} {token : String}
    (hi : tokens[i]? = some token) (hfault : ¬ (column i).Admits token)
    (hbefore : ∀ j earlier, j < i → tokens[j]? = some earlier → (column j).Admits earlier) :
    fault? column tokens = some ((column i).complaint token) := by
  induction i generalizing column tokens with
  | zero =>
    obtain ⟨rest, rfl⟩ := List.head?_eq_some_iff.1 (List.head?_eq_getElem? ▸ hi)
    exact if_neg hfault
  | succ i ih =>
    match tokens, hi with
    | head :: rest, hi =>
      unfold fault?
      rw [if_pos (hbefore 0 head (by omega) rfl)]
      exact ih hi hfault fun j earlier hj => hbefore (j + 1) earlier (by omega)

/-- The first fault of two parts of a line is that of the first part, if it has one. -/
theorem fault?_append (column : Nat → Column) (as bs : List String) :
    fault? column (as ++ bs) =
      (fault? column as).or (fault? (fun i => column (as.length + i)) bs) := by
  induction as generalizing column with
  | nil => simp [fault?]
  | cons a as ih =>
    rw [List.cons_append, fault?, fault?, ih]
    split
    · simp only [List.length_cons, Nat.add_right_comm]
    · rfl

theorem fault?_cut {column : Nat → Column} {tokens : List String} {n : Nat}
    (h : n ≤ tokens.length) :
    fault? column tokens =
      (fault? column (tokens.take n)).or (fault? (fun i => column (n + i)) (tokens.drop n)) := by
  have happend := fault?_append column (tokens.take n) (tokens.drop n)
  rwa [List.take_append_drop, List.length_take, Nat.min_eq_left h] at happend

theorem fault?_congr {column column' : Nat → Column} {tokens : List String}
    (h : ∀ i, i < tokens.length → column i = column' i) :
    fault? column tokens = fault? column' tokens := by
  induction tokens generalizing column column' with
  | nil => rfl
  | cons token rest ih =>
    have hrest := ih fun i hi => h (i + 1) (Nat.succ_lt_succ hi)
    rw [fault?, fault?, h 0 (by simp), hrest]

/-! ## Steps that follow a fault -/

/-- The step stops for the reason given, and succeeds if there is none. -/
def Follows {α : Type} (line : Line) (fault : Option String) (result : Except TableError α) :
    Prop :=
  match fault with
  | none => ∃ a, result = .ok a
  | some reason => result = .error (malformed line reason)

section

variable {α β : Type} {line : Line} {fault rest : Option String}

theorem Follows.readsByColumn {column : Nat → Column} {tokens : List String}
    {result : Except TableError α} (h : Follows line (fault? column tokens) result) :
    ReadsByColumn line column tokens result where
  isOk_iff := by
    rw [← fault?_eq_none_iff]
    cases hf : fault? column tokens with
    | none => exact ⟨fun _ => rfl, fun _ => by rwa [hf] at h⟩
    | some reason =>
      rw [hf] at h
      obtain rfl : result = _ := h
      simp
  blames i token hi hfault hbefore := by
    rw [fault?_eq_some hi hfault hbefore] at h
    exact h

/-- A step after another one stops for its own reason only if the first goes through. -/
theorem Follows.bind {x : Except TableError α} {f : α → Except TableError β}
    (hx : Follows line fault x) (hf : ∀ a, Follows line rest (f a)) :
    Follows line (fault.or rest) (x >>= f) := by
  cases fault with
  | none =>
    obtain ⟨a, rfl⟩ := hx
    exact hf a
  | some reason =>
    obtain rfl : x = _ := hx
    rfl

/-- What is made of the result adds no reason to stop. -/
theorem Follows.bind_ok {x : Except TableError α} {f : α → Except TableError β}
    (hx : Follows line fault x) (hf : ∀ a, ∃ b, f a = .ok b) : Follows line fault (x >>= f) := by
  have hnone : ∀ a, Follows line none (f a) := hf
  have h := hx.bind hnone
  rwa [Option.or_none] at h

variable {column : Column}

theorem Follows.mapM {f : String → Except TableError β}
    (hf : ∀ token, Follows line (fault? (fun _ => column) [token]) (f token)) :
    ∀ tokens : List String, Follows line (fault? (fun _ => column) tokens) (tokens.mapM f)
  | [] => ⟨[], rfl⟩
  | token :: tokens => by
    rw [List.mapM_cons, ← List.singleton_append, fault?_append]
    exact (hf token).bind fun b => (Follows.mapM hf tokens).bind_ok fun bs => ⟨b :: bs, rfl⟩

theorem Follows.forM {f : String → Except TableError Unit}
    (hf : ∀ token, Follows line (fault? (fun _ => column) [token]) (f token)) :
    ∀ tokens : List String, Follows line (fault? (fun _ => column) tokens) (tokens.forM f)
  | [] => ⟨(), rfl⟩
  | token :: tokens => by
    rw [← List.singleton_append, fault?_append]
    exact (hf token).bind fun _ => Follows.forM hf tokens

end

/-! ## Single tokens -/

section

variable {α : Type} {line : Line}

theorem Follows.single {column : Column} {token : String} {result : Except TableError α}
    (hok : column.Admits token → ∃ a, result = .ok a)
    (herror : ¬ column.Admits token → result = .error (malformed line (column.complaint token))) :
    Follows line (fault? (fun _ => column) [token]) result := by
  by_cases h : column.Admits token
  · rw [fault?, if_pos h]
    exact hok h
  · rw [fault?, if_neg h]
    exact herror h

theorem follows_readIndex (token : String) :
    Follows line (fault? (fun _ => .index) [token]) (readIndex line token) := by
  refine .single (fun h => ?_) fun h => ?_
  · obtain ⟨index, h⟩ := Option.isSome_iff_exists.1 h
    exact ⟨index, by rw [readIndex, h]⟩
  · have h : Text.readInt64? token.toList = none := by simpa [Column.Admits] using h
    rw [readIndex, h]
    rfl

theorem follows_readValue (token : String) :
    Follows line (fault? (fun _ => .value) [token]) (readValue line token) := by
  refine .single (fun h => ?_) fun h => ?_
  · obtain ⟨value, h⟩ := Option.isSome_iff_exists.1 h
    exact ⟨.int value, by rw [readValue, h]⟩
  · have h : Text.readInt64? token.toList = none := by simpa [Column.Admits] using h
    rw [readValue, h]
    rfl

theorem follows_keepToken (token : String) :
    Follows line (fault? (fun _ => .word) [token]) (keepToken line token) :=
  .single (fun _ => ⟨.text token, rfl⟩) fun h => absurd trivial h

theorem admits_pattern_iff {cell : String} :
    Column.pattern.Admits cell ↔ isPattern cell = true := by
  simp [Column.Admits, isPattern, noCodeword]

theorem follows_checkPattern (cell : String) :
    Follows line (fault? (fun _ => .pattern) [cell]) (checkPattern line cell) := by
  refine .single (fun h => ?_) fun h => ?_
  · exact ⟨(), checkPattern_eq_ok_iff.2 (admits_pattern_iff.1 h)⟩
  · rw [checkPattern, if_neg (mt admits_pattern_iff.2 h)]
    rfl

end

end EntropyTables.Grammar
