import Mathlib.Data.List.Forall2
import EntropyTables.Grammar
/-!
# Computations that can fail

The grammars are chains of steps in `Except`. These lemmas take a chain that succeeded apart into
its steps, and carry a change of its errors through it.
-/
namespace EntropyTables

variable {ε ε' α β : Type}

@[simp] theorem pure_eq_ok (a : α) : (pure a : Except ε α) = .ok a := rfl

@[simp] theorem throw_eq_error (e : ε) : (throw e : Except ε α) = .error e := rfl

@[simp] theorem ok_bind (a : α) (f : α → Except ε β) : (Except.ok a >>= f) = f a := rfl

@[simp] theorem error_bind (e : ε) (f : α → Except ε β) : (Except.error e >>= f) = .error e := rfl

@[simp] theorem map_ok (f : α → β) (a : α) : (Except.ok a : Except ε α).map f = .ok (f a) := rfl

@[simp] theorem map_error (f : α → β) (e : ε) : (Except.error e : Except ε α).map f = .error e := rfl

@[simp] theorem mapError_ok (f : ε → ε') (a : α) : (Except.ok a : Except ε α).mapError f = .ok a := rfl

@[simp] theorem mapError_error (f : ε → ε') (e : ε) :
    (Except.error e : Except ε α).mapError f = .error (f e) := rfl

@[simp] theorem mapError_id (x : Except ε α) : x.mapError id = x := by cases x <;> rfl

theorem bind_eq_ok_iff {x : Except ε α} {f : α → Except ε β} {b : β} :
    (x >>= f) = .ok b ↔ ∃ a, x = .ok a ∧ f a = .ok b := by
  cases x <;> simp

theorem map_eq_ok_iff {x : Except ε α} {f : α → β} {b : β} :
    x.map f = .ok b ↔ ∃ a, x = .ok a ∧ f a = b := by
  cases x <;> simp

theorem map_eq_error_iff {x : Except ε α} {f : α → β} {e : ε} :
    x.map f = .error e ↔ x = .error e := by
  cases x <;> simp

theorem mapError_bind (x : Except ε α) (f : α → Except ε β) (g : ε → ε') :
    (x >>= f).mapError g = x.mapError g >>= fun a => (f a).mapError g := by
  cases x <;> rfl

theorem mapError_map (x : Except ε α) (f : α → β) (g : ε → ε') :
    (x.map f).mapError g = (x.mapError g).map f := by
  cases x <;> rfl

/-! ## The same step for every element of a list -/

/-- All steps succeed exactly when each element gives the result in its place. -/
theorem mapM_eq_ok_iff {f : α → Except ε β} :
    ∀ {xs : List α} {ys : List β}, xs.mapM f = .ok ys ↔ List.Forall₂ (fun x y => f x = .ok y) xs ys
  | [], ys => by simp [eq_comm]
  | x :: xs, ys => by
    rw [List.mapM_cons, bind_eq_ok_iff]
    constructor
    · rintro ⟨y, hy, h⟩
      obtain ⟨zs, hzs, h⟩ := bind_eq_ok_iff.1 h
      cases h
      exact .cons hy (mapM_eq_ok_iff.1 hzs)
    · rintro (_ | ⟨hy, hys⟩)
      exact ⟨_, hy, by rw [mapM_eq_ok_iff.2 hys]; rfl⟩

/-- The step that fails first gives the error, once the elements before it have their results. -/
theorem mapM_eq_error {f : α → Except ε β} {x : α} {post : List α} {e : ε} (hx : f x = .error e) :
    ∀ {pre : List α}, (∀ y ∈ pre, ∃ b, f y = .ok b) → (pre ++ x :: post).mapM f = .error e
  | [], _ => by rw [List.nil_append, List.mapM_cons, hx]; rfl
  | y :: pre, h => by
    obtain ⟨⟨b, hb⟩, h⟩ := List.forall_mem_cons.1 h
    rw [List.cons_append, List.mapM_cons, hb, ok_bind, mapM_eq_error hx h]
    rfl

theorem exists_of_mapM_eq_error {f : α → Except ε β} {e : ε} :
    ∀ {xs : List α}, xs.mapM f = .error e → ∃ x ∈ xs, f x = .error e
  | [], h => by cases h
  | x :: xs, h => by
    rw [List.mapM_cons] at h
    cases hx : f x with
    | error e' =>
      rw [hx] at h
      cases h
      exact ⟨x, by simp, hx⟩
    | ok y =>
      cases hxs : xs.mapM f with
      | error e' =>
        rw [hx, hxs] at h
        cases h
        obtain ⟨x', hmem, hx'⟩ := exists_of_mapM_eq_error hxs
        exact ⟨x', List.mem_cons_of_mem _ hmem, hx'⟩
      | ok ys =>
        rw [hx, hxs] at h
        cases h

theorem length_of_mapM_ok {f : α → Except ε β} {xs : List α} {ys : List β}
    (h : xs.mapM f = .ok ys) : ys.length = xs.length :=
  (mapM_eq_ok_iff.1 h).length_eq.symm

/-- Looking up so many positions of a list reads the list and then the value for what is absent. -/
theorem mapM_range_getElem? {f : α → Except ε β} {z : β} :
    ∀ {n : Nat} {xs : List α}, xs.length ≤ n →
      (List.range n).mapM (fun i => (xs[i]?).elim (.ok z) f) =
        (xs.mapM f).map (· ++ List.replicate (n - xs.length) z)
  | 0, [], _ => rfl
  | n + 1, [], _ => by
    have ih : (List.range n).mapM (fun i => ([][i]?).elim (.ok z) f) = _ :=
      mapM_range_getElem? (Nat.zero_le n)
    rw [List.range_succ_eq_map, List.mapM_cons, List.mapM_map]
    show ((List.range n).mapM (fun i => ([][i]?).elim (.ok z) f) >>= fun bs => .ok (z :: bs)) = _
    rw [ih]
    rfl
  | n + 1, x :: xs, h => by
    have ih := mapM_range_getElem? (f := f) (z := z) (Nat.le_of_succ_le_succ h)
    rw [List.range_succ_eq_map, List.mapM_cons, List.mapM_map, List.mapM_cons]
    show (f x >>= fun b =>
      (List.range n).mapM (fun i => (xs[i]?).elim (.ok z) f) >>= fun bs => .ok (b :: bs)) = _
    rw [ih, List.length_cons, Nat.add_sub_add_right]
    cases f x with
    | error e => rfl
    | ok b => cases xs.mapM f <;> rfl

theorem mapError_mapM (f : α → Except ε β) (g : ε → ε') :
    ∀ xs : List α, (xs.mapM f).mapError g = xs.mapM fun x => (f x).mapError g
  | [] => rfl
  | x :: xs => by
    rw [List.mapM_cons, List.mapM_cons, mapError_bind]
    congr 1
    funext y
    rw [mapError_bind, mapError_mapM f g xs]
    rfl

theorem mapError_forM (f : α → Except ε Unit) (g : ε → ε') :
    ∀ xs : List α, (xs.forM f).mapError g = xs.forM fun x => (f x).mapError g
  | [] => rfl
  | x :: xs => by
    show (f x >>= fun _ => xs.forM f).mapError g = _
    rw [mapError_bind, mapError_forM f g xs]
    rfl

/-- All checks pass exactly when each element passes. -/
theorem forM_eq_ok_iff {f : α → Except ε Unit} :
    ∀ {xs : List α}, xs.forM f = .ok ⟨⟩ ↔ ∀ x ∈ xs, f x = .ok ⟨⟩
  | [] => by simp [List.forM]
  | x :: xs => by
    show (f x >>= fun _ => xs.forM f) = .ok ⟨⟩ ↔ _
    rw [bind_eq_ok_iff, List.forall_mem_cons]
    constructor
    · rintro ⟨_, hx, hxs⟩; exact ⟨hx, forM_eq_ok_iff.1 hxs⟩
    · rintro ⟨hx, hxs⟩; exact ⟨_, hx, forM_eq_ok_iff.2 hxs⟩

end EntropyTables
