import Mathlib.Data.List.Forall2

/-!
# Reading a list element by element

A list is read when each of its elements is, and otherwise the first one that is not read decides.
-/

namespace RuntimeTypes

variable {α β ε : Type} {f g : α → Except ε β} {xs : List α} {ys : List β} {e : ε}

theorem mapM_congr (same : ∀ x ∈ xs, f x = g x) : xs.mapM f = xs.mapM g := by
  induction xs with
  | nil => rfl
  | cons x xs ih =>
    obtain ⟨here, same⟩ := List.forall_mem_cons.1 same
    rw [List.mapM_cons, List.mapM_cons, here, ih same]

theorem mapM_eq_ok_iff : xs.mapM f = .ok ys ↔ List.Forall₂ (fun x y => f x = .ok y) xs ys := by
  induction xs generalizing ys with
  | nil => simp [pure, Except.pure, eq_comm]
  | cons x xs ih =>
    rw [List.mapM_cons, List.forall₂_cons_left_iff]
    simp only [← ih]
    cases f x with
    | error e => simp [bind, Except.bind]
    | ok y =>
      cases xs.mapM f with
      | error e => simp [bind, Except.bind]
      | ok zs => simp [bind, Except.bind, pure, Except.pure, eq_comm]

theorem mapM_eq_error_of_append {before after : List α} {x : α}
    (read : ∀ y ∈ before, ∃ z, f y = .ok z) (refused : f x = .error e) :
    (before ++ x :: after).mapM f = .error e := by
  induction before with
  | nil =>
    rw [List.nil_append, List.mapM_cons, refused]
    rfl
  | cons y before ih =>
    obtain ⟨⟨z, first⟩, read⟩ := List.forall_mem_cons.1 read
    rw [List.cons_append, List.mapM_cons, first, ih read]
    rfl

theorem mapM_eq_error_iff :
    xs.mapM f = .error e ↔ ∃ before x after, xs = before ++ x :: after ∧
      (∀ y ∈ before, ∃ z, f y = .ok z) ∧ f x = .error e := by
  constructor
  · intro failed
    induction xs with
    | nil => cases failed
    | cons x xs ih =>
      rw [List.mapM_cons] at failed
      cases first : f x with
      | error e' =>
        rw [first] at failed
        cases failed
        exact ⟨[], x, xs, rfl, by simp, first⟩
      | ok y =>
        rw [first] at failed
        cases rest : xs.mapM f with
        | ok ys =>
          rw [rest] at failed
          cases failed
        | error e' =>
          rw [rest] at failed
          cases failed
          obtain ⟨before, z, after, rfl, read, refused⟩ := ih rest
          exact ⟨x :: before, z, after, rfl, List.forall_mem_cons.2 ⟨⟨y, first⟩, read⟩, refused⟩
  · rintro ⟨before, x, after, rfl, read, refused⟩
    exact mapM_eq_error_of_append read refused

theorem exists_mapM_eq_ok_iff : (∃ ys, xs.mapM f = .ok ys) ↔ ∀ x ∈ xs, ∃ y, f x = .ok y := by
  constructor
  · rintro ⟨ys, read⟩
    rw [mapM_eq_ok_iff] at read
    induction read with
    | nil => simp
    | cons here _ ih => exact List.forall_mem_cons.2 ⟨⟨_, here⟩, ih⟩
  · intro each
    cases read : xs.mapM f with
    | ok ys => exact ⟨ys, rfl⟩
    | error e =>
      obtain ⟨before, x, after, rfl, _, refused⟩ := mapM_eq_error_iff.1 read
      obtain ⟨y, ok⟩ := each x (by simp)
      rw [refused] at ok
      cases ok

theorem map_eq_error_iff {γ : Type} {x : Except ε β} {c : β → γ} :
    c <$> x = .error e ↔ x = .error e := by
  cases x <;> simp

theorem exists_map_eq_ok_iff {γ : Type} {x : Except ε β} {c : β → γ} :
    (∃ z, c <$> x = .ok z) ↔ ∃ y, x = .ok y := by
  cases x <;> simp

theorem mem_iff_of_mapM_eq_ok (read : xs.mapM f = .ok ys) {y : β} :
    y ∈ ys ↔ ∃ x ∈ xs, f x = .ok y := by
  rw [mapM_eq_ok_iff] at read
  induction read with
  | nil => simp
  | @cons x z xs ys here _ ih =>
    have first : f x = .ok y ↔ y = z := by rw [here, Except.ok.injEq, eq_comm]
    rw [List.mem_cons, ih, ← first]
    simp

end RuntimeTypes
