import RuntimeTypes.Identity.Encode
import RuntimeTypes.Reachable

/-!
# Identity keys by recursion

The identity key of a value as a recursion on nested arrays that carries the path of arrays it is
inside of. It says in a few lines what the walk over frames writes. One level of the recursion, with
the deeper keys as given, stands by itself: the recursion is the function that this level gives back.
What stands in the way of a key is said here as well: paths of arrays that return or grow too long,
and the first array on which that shows.
-/

namespace RuntimeTypes

namespace Identity

mutual

/-- The identity key of a value inside the arrays of `path`. -/
def nested (h : Heap) (limit : Option Nat) (path : List ArrayRef) (v : Value) :
    Except Unencodable String :=
  match v with
  | .array a =>
    match _entered : enter limit path.length (a ∈ path) with
    | .error reason => .error reason
    | .ok () =>
      match nestedEntries h limit (a :: path) (h.entries a) with
      | .error reason => .error reason
      | .ok text => .ok (headCode h (.array a) ++ text)
  | v => .ok (headCode h v)
termination_by (h.unvisited path, 2)
decreasing_by
  have fresh : a ∉ path := by simpa using inside_of_enter _entered
  by_cases ha : a ∈ h.refs
  · exact Prod.Lex.left _ _ (Heap.unvisited_cons_lt ha fresh)
  · rw [Heap.entries_of_not_mem_refs ha]
    rcases Nat.lt_or_eq_of_le (h.unvisited_cons_le path a) with lt | eq
    · exact Prod.Lex.left _ _ lt
    · rw [eq]
      exact Prod.Lex.right _ (by simp)

/-- The identity keys of entries, one after the other, inside the arrays of `path`. -/
def nestedEntries (h : Heap) (limit : Option Nat) (path : List ArrayRef)
    (entries : List (Key × Value)) : Except Unencodable String :=
  match entries with
  | [] => .ok ""
  | (k, v) :: rest =>
    match nested h limit path v with
    | .error reason => .error reason
    | .ok text =>
      match nestedEntries h limit path rest with
      | .error reason => .error reason
      | .ok more => .ok (keyCode k ++ text ++ more)
termination_by (h.unvisited path, 2 * entries.length + 1)
decreasing_by
  · exact Prod.Lex.right _ (by simp only [List.length_cons]; omega)
  · exact Prod.Lex.right _ (by simp)

end

/-- The key of a value inside the arrays of `path`, from the keys of what is inside of it. -/
def keyFrom (h : Heap) (limit : Option Nat)
    (inner : List ArrayRef → Value → Except Unencodable String) (path : List ArrayRef) :
    Value → Except Unencodable String
  | .array a => do
    if a ∈ path then throw .cycle
    if let some l := limit then
      if l ≤ path.length then throw (.depthExceeded l)
    let codes ← (h.entries a).mapM fun e => return keyCode e.1 ++ (← inner (a :: path) e.2)
    return "A" ++ (h.entries a).length.repr ++ ":" ++ String.join codes
  | v => .ok (headCode h v)

end Identity

/-! ## Arrays inside of arrays

Which arrays a value holds, directly and through other arrays. Only entries count: an array that is
set on a field of an object is not inside of what holds the object.
-/

namespace Heap

/-- The arrays among the entries of an array. -/
def members (h : Heap) (a : ArrayRef) : List ArrayRef :=
  (h.entries a).filterMap fun e => e.2.toArray?

/-- Entries of arrays lead from the value to the array. -/
def Holds (h : Heap) (v : Value) (a : ArrayRef) : Prop :=
  ∃ b, v = .array b ∧ Reachable h.members b a

/-- Entries of arrays lead from the array back to it. -/
def SelfContaining (h : Heap) (a : ArrayRef) : Prop :=
  ∃ b ∈ h.members a, Reachable h.members b a

/-- The value holds an array that contains itself. -/
def Cyclic (h : Heap) (v : Value) : Prop :=
  ∃ a, h.Holds v a ∧ h.SelfContaining a

/-- A path of nested arrays that starts at a value: the first array is the value, and every other
one is an entry of the one before. -/
inductive Nesting (h : Heap) : Value → List ArrayRef → Prop where
  | last (a : ArrayRef) : Nesting h (.array a) [a]
  | cons {a b : ArrayRef} {path : List ArrayRef} (member : b ∈ h.members a)
    (inner : Nesting h (.array b) path) : Nesting h (.array a) (a :: path)

theorem mem_members {h : Heap} {a b : ArrayRef} :
    b ∈ h.members a ↔ ∃ e ∈ h.entries a, e.2 = .array b := by
  rw [members, List.mem_filterMap]
  refine exists_congr fun e => and_congr_right fun _ => ?_
  cases e.2 <;> simp [Value.toArray?]

/-! ## Refused arrays

Which arrays inside of a value stand in the way of an identity key, and which of them is the first.
Inside of a value an array has a place: the numbers of the entries that lead to it. Shared arrays have
many places, cyclic ones infinitely many.
-/

/-- What stands at a place inside of a value, and the arrays around it, the innermost first, when the
arrays of the path are around the value. -/
def valueAt? (h : Heap) : List ArrayRef → Value → List Nat → Option (List ArrayRef × Value)
  | path, v, [] => some (path, v)
  | path, .array a, i :: place =>
    (h.entries a)[i]?.bind fun e => h.valueAt? (a :: path) e.2 place
  | _, _, _ :: _ => none

end Heap

namespace Identity

variable {h : Heap} {limit : Option Nat} {path around : List ArrayRef} {v w : Value}
  {a : ArrayRef} {i : Nat} {place place' : List Nat} {reason reason' : Unencodable}

/-- Why an array has no key inside of the arrays of a path: it is one of them, or else they are as
many as may be nested. -/
inductive Refused (limit : Option Nat) (path : List ArrayRef) (a : ArrayRef) : Unencodable → Prop where
  | again (on : a ∈ path) : Refused limit path a .cycle
  | tooDeep {l : Nat} (fresh : a ∉ path) (limited : limit = some l) (deep : l ≤ path.length) :
    Refused limit path a (.depthExceeded l)

/-- An array that is refused stands at the place. -/
def RefusedAt (h : Heap) (limit : Option Nat) (path : List ArrayRef) (v : Value) (place : List Nat)
    (reason : Unencodable) : Prop :=
  ∃ around a, h.valueAt? path v place = some (around, .array a) ∧ Refused limit around a reason

/-- The first refused array inside of a value. Entries go from left to right, and an array comes before
what it holds, so the places go in lexicographic order. -/
structure FirstRefusal (h : Heap) (limit : Option Nat) (path : List ArrayRef) (v : Value)
    (place : List Nat) (reason : Unencodable) : Prop where
  refused : RefusedAt h limit path v place reason
  least : ∀ place' reason', List.Lex (· < ·) place' place →
    ¬ RefusedAt h limit path v place' reason'

theorem Refused.unique (first : Refused limit path a reason)
    (second : Refused limit path a reason') : reason = reason' := by
  cases first with
  | again on =>
    cases second with
    | again => rfl
    | tooDeep fresh => exact absurd on fresh
  | tooDeep fresh limited =>
    cases second with
    | again on => exact absurd on fresh
    | tooDeep _ limited' =>
      rw [limited] at limited'
      cases limited'
      rfl

theorem valueAt?_cons_eq_some_iff :
    h.valueAt? path v (i :: place) = some (around, w) ↔
      ∃ a e, v = .array a ∧ (h.entries a)[i]? = some e ∧
        h.valueAt? (a :: path) e.2 place = some (around, w) := by
  cases v with
  | array a => simp [Heap.valueAt?, Option.bind_eq_some_iff]
  | _ => simp [Heap.valueAt?]

theorem refusedAt_nil_iff :
    RefusedAt h limit path v [] reason ↔ ∃ a, v = .array a ∧ Refused limit path a reason := by
  simp only [RefusedAt, Heap.valueAt?, Option.some.injEq, Prod.mk.injEq]
  constructor
  · rintro ⟨_, a, ⟨rfl, array⟩, refused⟩
    exact ⟨a, array, refused⟩
  · rintro ⟨a, array, refused⟩
    exact ⟨path, a, ⟨rfl, array⟩, refused⟩

theorem refusedAt_cons_iff :
    RefusedAt h limit path v (i :: place) reason ↔
      ∃ a e, v = .array a ∧ (h.entries a)[i]? = some e ∧
        RefusedAt h limit (a :: path) e.2 place reason := by
  simp only [RefusedAt, valueAt?_cons_eq_some_iff]
  constructor
  · rintro ⟨around, b, ⟨a, e, array, entry, at_e⟩, refused⟩
    exact ⟨a, e, array, entry, around, b, at_e, refused⟩
  · rintro ⟨a, e, array, entry, around, b, at_e, refused⟩
    exact ⟨around, b, ⟨a, e, array, entry, at_e⟩, refused⟩

theorem RefusedAt.unique (first : RefusedAt h limit path v place reason)
    (second : RefusedAt h limit path v place reason') : reason = reason' := by
  obtain ⟨around, a, here, refused⟩ := first
  obtain ⟨around', a', here', refused'⟩ := second
  rw [here] at here'
  cases here'
  exact refused.unique refused'

theorem FirstRefusal.unique (first : FirstRefusal h limit path v place reason)
    (second : FirstRefusal h limit path v place' reason') : place = place' ∧ reason = reason' := by
  have same : place = place' := List.lex_trichotomous (fun m n => by omega)
    (fun before => first.least place' reason' before second.refused)
    fun before => second.least place reason before first.refused
  subst same
  exact ⟨rfl, first.refused.unique second.refused⟩

end Identity

end RuntimeTypes
