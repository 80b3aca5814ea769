import RuntimeTypes.Identity.Nested

/-!
# The walk over frames writes the recursive key

At every moment of a walk the frames stand for the calls that the recursion has pending: what is
left to write is the rest of each frame, the innermost first, each inside the arrays from its own
on. A step of the walk moves a part of this to the text written so far and changes nothing else.
-/

namespace RuntimeTypes

namespace Identity

/-- One text after another. The first failure decides. -/
def followedBy (first second : Except Unencodable String) : Except Unencodable String :=
  match first with
  | .error reason => .error reason
  | .ok text =>
    match second with
    | .error reason => .error reason
    | .ok more => .ok (text ++ more)

@[simp] theorem followedBy_ok (text more : String) :
    followedBy (.ok text) (.ok more) = .ok (text ++ more) := rfl

@[simp] theorem followedBy_error (reason : Unencodable) (second : Except Unencodable String) :
    followedBy (.error reason) second = .error reason := rfl

@[simp] theorem followedBy_empty (first : Except Unencodable String) :
    followedBy first (.ok "") = first := by
  cases first <;> simp [followedBy]

theorem followedBy_assoc (a b c : Except Unencodable String) :
    followedBy (followedBy a b) c = followedBy a (followedBy b c) := by
  cases a <;> cases b <;> cases c <;> simp [followedBy, String.append_assoc]

theorem nestedEntries_cons (h : Heap) (limit : Option Nat) (inside : List ArrayRef) (k : Key)
    (v : Value) (rest : List (Key × Value)) :
    nestedEntries h limit inside ((k, v) :: rest) =
      followedBy (.ok (keyCode k))
        (followedBy (nested h limit inside v) (nestedEntries h limit inside rest)) := by
  rw [nestedEntries]
  cases nested h limit inside v <;> cases nestedEntries h limit inside rest <;>
    simp [followedBy, String.append_assoc]

theorem nested_of_not_array {h : Heap} {limit : Option Nat} {inside : List ArrayRef} {v : Value}
    (scalar : ∀ a, v ≠ .array a) : nested h limit inside v = .ok (headCode h v) := by
  rw [nested]
  exact scalar

theorem nested_array (h : Heap) (limit : Option Nat) (inside : List ArrayRef) (a : ArrayRef) :
    nested h limit inside (.array a) =
      match enter limit inside.length (a ∈ inside) with
      | .error reason => .error reason
      | .ok () =>
        followedBy (.ok (headCode h (.array a)))
          (nestedEntries h limit (a :: inside) (h.entries a)) := by
  rw [nested]
  split
  · rename_i entered
    rw [entered]
  · rename_i entered
    rw [entered]
    cases nestedEntries h limit (a :: inside) (h.entries a) <;> rfl

/-- What the frames of a walk still have to write, by recursion. -/
def remaining (h : Heap) (limit : Option Nat) : List Frame → Except Unencodable String
  | [] => .ok ""
  | f :: below =>
    followedBy (nestedEntries h limit (path (f :: below)) f.rest) (remaining h limit below)

/-- What a walk comes to, said by recursion. -/
def Walk.outcome (h : Heap) (limit : Option Nat) (w : Walk) : Except Unencodable String :=
  followedBy (.ok w.out) (remaining h limit w.stack.frames)

variable {h : Heap} {limit : Option Nat} {w next : Walk} {v : Value} {reason : Unencodable}

/-! ## What a step can do -/

theorem Walk.value_eq_error (refused : w.value h limit v = .error reason) :
    ∃ a, v = .array a ∧
      enter limit (path w.stack.frames).length (a ∈ path w.stack.frames) = .error reason := by
  unfold Walk.value at refused
  split at refused
  · rename_i a
    split at refused
    · rename_i entered
      rw [← Stack.length_path, Stack.contains_visiting] at entered
      cases refused
      exact ⟨a, rfl, entered⟩
    · cases refused
  · cases refused

theorem Walk.value_eq_ok (written : w.value h limit v = .ok next) :
    next.out = w.out ++ headCode h v ∧
      ((∀ a, v ≠ .array a) ∧ next.stack.frames = w.stack.frames ∨
        ∃ a, v = .array a ∧
          enter limit (path w.stack.frames).length (a ∈ path w.stack.frames) = .ok () ∧
          next.stack.frames = ⟨a, h.entries a⟩ :: w.stack.frames) := by
  unfold Walk.value at written
  split at written
  · rename_i a
    split at written
    · cases written
    · rename_i entered
      rw [← Stack.length_path, Stack.contains_visiting] at entered
      cases written
      exact ⟨rfl, Or.inr ⟨a, rfl, entered, rfl⟩⟩
  · rename_i scalar
    cases written
    exact ⟨rfl, Or.inl ⟨scalar, rfl⟩⟩

theorem outcome_of_value_eq_ok (written : w.value h limit v = .ok next) :
    next.outcome h limit =
      followedBy (.ok w.out)
        (followedBy (nested h limit (path w.stack.frames) v)
          (remaining h limit w.stack.frames)) := by
  obtain ⟨out, ⟨scalar, frames⟩ | ⟨a, rfl, entered, frames⟩⟩ := Walk.value_eq_ok written
  · rw [Walk.outcome, out, frames, nested_of_not_array scalar, ← followedBy_assoc, followedBy_ok]
  · rw [Walk.outcome, out, frames, nested_array, entered, remaining, path_cons, ← followedBy_assoc,
      ← followedBy_assoc, ← followedBy_assoc, followedBy_ok]

theorem nested_of_value_eq_error (refused : w.value h limit v = .error reason) :
    nested h limit (path w.stack.frames) v = .error reason := by
  obtain ⟨a, rfl, entered⟩ := Walk.value_eq_error refused
  rw [nested_array, entered]

/-- A step moves a part of what remains to what is written. -/
theorem outcome_of_step_eq_ok (stepped : w.step h limit = .ok next) :
    next.outcome h limit = w.outcome h limit := by
  unfold Walk.step at stepped
  split at stepped
  · cases stepped
    rfl
  · rename_i top
    cases stepped
    simp only [Walk.outcome, Stack.frames_pop, top, remaining, nestedEntries]
    cases remaining h limit _ <;> rfl
  · rename_i a k v rest below top
    rw [outcome_of_value_eq_ok stepped]
    simp only [Walk.outcome, Stack.frames_advance, top, remaining, path_cons, nestedEntries_cons,
      ← followedBy_assoc, followedBy_ok]

theorem outcome_of_step_eq_error (stepped : w.step h limit = .error reason) :
    w.outcome h limit = .error reason := by
  unfold Walk.step at stepped
  split at stepped
  · cases stepped
  · cases stepped
  · rename_i a k v rest below top
    have refused := nested_of_value_eq_error stepped
    rw [Stack.frames_advance, path_cons] at refused
    rw [Walk.outcome, top, remaining, path_cons, nestedEntries_cons, refused]
    rfl

theorem run_eq_outcome (h : Heap) (limit : Option Nat) (w : Walk) :
    w.run h limit = w.outcome h limit := by
  fun_induction Walk.run h limit w with
  | case1 w top => simp [Walk.outcome, top, remaining]
  | case2 w f below top reason stepped => exact (outcome_of_step_eq_error stepped).symm
  | case3 w f below top next stepped ih => rw [ih, outcome_of_step_eq_ok stepped]

/-- The identity key is the recursive key, and it fails for the same reason. -/
theorem encode_eq_nested (h : Heap) (limit : Option Nat) (v : Value) :
    encode h limit v = nested h limit [] v := by
  rw [encode]
  split
  · rename_i refused
    exact (nested_of_value_eq_error refused).symm
  · rename_i w written
    rw [run_eq_outcome, outcome_of_value_eq_ok written]
    simp only [Stack.frames_empty, path_nil, remaining, followedBy_empty]
    cases nested h limit [] v <;> simp [followedBy]

end Identity

end RuntimeTypes
