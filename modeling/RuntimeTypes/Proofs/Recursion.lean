import RuntimeTypes.Proofs.Traversal
import RuntimeTypes.Proofs.Walk

/-!
# Identity keys level by level

The recursive key of an array reads the entries from left to right and fails where the first of them
does. No array is entered from inside of itself, and this gives an induction on values inside of
arrays: what holds of an array once it holds of its entries holds of every value. By this induction
the recursive key is the only function that follows the recursion level by level.
-/

namespace RuntimeTypes

namespace Identity

variable {h : Heap} {limit : Option Nat} {path : List ArrayRef} {v : Value} {a : ArrayRef}
  {entries : List (Key × Value)} {key : String} {reason : Unencodable}
  {inner : List ArrayRef → Value → Except Unencodable String}

/-! ## Induction inside of arrays -/

theorem enter_eq_ok_iff {depth : Nat} {within : Bool} :
    enter limit depth within = .ok () ↔ within = false ∧ ∀ l ∈ limit, depth < l := by
  cases within with
  | true => simp [enter]
  | false =>
    cases limit with
    | none => simp [enter]
    | some l =>
      by_cases deep : l ≤ depth
      · simp [enter, deep]
      · simp [enter, deep, Nat.lt_of_not_le deep]

theorem enter_eq_error_iff {depth : Nat} {within : Bool} :
    enter limit depth within = .error reason ↔
      within = true ∧ reason = .cycle ∨
        within = false ∧ ∃ l, limit = some l ∧ l ≤ depth ∧ reason = .depthExceeded l := by
  cases within with
  | true => simp [enter, eq_comm]
  | false =>
    cases limit with
    | none => simp [enter]
    | some l =>
      by_cases deep : l ≤ depth
      · simp [enter, deep, eq_comm]
      · simp [enter, deep]

/-- Induction along the recursion: for an array that is entered, the property may be assumed of all
the entries, those behind a failure among them. -/
theorem nested_induction (h : Heap) (limit : Option Nat) {motive : List ArrayRef → Value → Prop}
    (scalar : ∀ path v, (∀ a, v ≠ .array a) → motive path v)
    (refused : ∀ path a reason, enter limit path.length (a ∈ path) = .error reason →
      motive path (.array a))
    (entered : ∀ path a, enter limit path.length (a ∈ path) = .ok () →
      (∀ e ∈ h.entries a, motive (a :: path) e.2) → motive path (.array a))
    (path : List ArrayRef) (v : Value) : motive path v := by
  -- Each array that is entered leaves fewer arrays of the heap to enter.
  induction hn : h.unvisited path using Nat.strongRecOn generalizing path v with
  | ind n ih =>
    subst hn
    cases v with
    | array a =>
      cases inside : enter limit path.length (a ∈ path) with
      | error reason => exact refused path a reason inside
      | ok =>
        refine entered path a inside fun e he => ?_
        have fresh : a ∉ path := by simpa using (enter_eq_ok_iff.1 inside).1
        have old : a ∈ h.refs := Heap.mem_refs_of_entries_ne_nil (List.ne_nil_of_mem he)
        exact ih _ (Heap.unvisited_cons_lt old fresh) (a :: path) e.2 rfl
    | _ => exact scalar path _ (by simp)

/-! ## One level -/

theorem nestedEntries_eq_mapM (h : Heap) (limit : Option Nat) (path : List ArrayRef)
    (entries : List (Key × Value)) :
    nestedEntries h limit path entries =
      String.join <$> entries.mapM fun e => (keyCode e.1 ++ ·) <$> nested h limit path e.2 := by
  induction entries with
  | nil =>
    rw [nestedEntries]
    rfl
  | cons e entries ih =>
    obtain ⟨k, v⟩ := e
    rw [nestedEntries_cons, ih, List.mapM_cons]
    cases nested h limit path v with
    | error reason => rfl
    | ok text =>
      cases entries.mapM fun e => (keyCode e.1 ++ ·) <$> nested h limit path e.2 with
      | error reason => rfl
      | ok codes =>
        have joined : String.join ((keyCode k ++ text) :: codes) =
            keyCode k ++ (text ++ String.join codes) := by
          rw [String.join_cons, String.append_assoc]
        exact congrArg Except.ok joined.symm

theorem nestedEntries_eq_error_iff :
    nestedEntries h limit path entries = .error reason ↔
      ∃ before e after, entries = before ++ e :: after ∧
        (∀ e' ∈ before, ∃ key, nested h limit path e'.2 = .ok key) ∧
        nested h limit path e.2 = .error reason := by
  simp only [nestedEntries_eq_mapM, map_eq_error_iff, mapM_eq_error_iff, exists_map_eq_ok_iff]

theorem exists_nestedEntries_eq_ok_iff :
    (∃ key, nestedEntries h limit path entries = .ok key) ↔
      ∀ e ∈ entries, ∃ key, nested h limit path e.2 = .ok key := by
  simp only [nestedEntries_eq_mapM, exists_map_eq_ok_iff, exists_mapM_eq_ok_iff]

theorem nested_array_eq_error_iff :
    nested h limit path (.array a) = .error reason ↔
      enter limit path.length (a ∈ path) = .error reason ∨
        enter limit path.length (a ∈ path) = .ok () ∧
          nestedEntries h limit (a :: path) (h.entries a) = .error reason := by
  rw [nested_array]
  cases enter limit path.length (a ∈ path) with
  | error reason' => simp
  | ok => cases nestedEntries h limit (a :: path) (h.entries a) <;> simp [followedBy]

theorem followedBy_eq_ok_iff {first second : Except Unencodable String} :
    followedBy first second = .ok key ↔
      ∃ text more, first = .ok text ∧ second = .ok more ∧ text ++ more = key := by
  cases first <;> cases second <;> simp [followedBy]

theorem nestedEntries_cons_eq_ok_iff {k : Key} :
    nestedEntries h limit path ((k, v) :: entries) = .ok key ↔
      ∃ text more, nested h limit path v = .ok text ∧ nestedEntries h limit path entries = .ok more ∧
        keyCode k ++ (text ++ more) = key := by
  rw [nestedEntries_cons, followedBy_eq_ok_iff]
  simp only [followedBy_eq_ok_iff]
  constructor
  · rintro ⟨_, _, ⟨⟩, ⟨text, more, first, rest, rfl⟩, rfl⟩
    exact ⟨text, more, first, rest, rfl⟩
  · rintro ⟨text, more, first, rest, rfl⟩
    exact ⟨_, _, rfl, ⟨text, more, first, rest, rfl⟩, rfl⟩

theorem nested_array_eq_ok_iff :
    nested h limit path (.array a) = .ok key ↔
      enter limit path.length (a ∈ path) = .ok () ∧
        ∃ text, nestedEntries h limit (a :: path) (h.entries a) = .ok text ∧
          headCode h (.array a) ++ text = key := by
  rw [nested_array]
  cases enter limit path.length (a ∈ path) with
  | error reason' => simp
  | ok => simp [followedBy_eq_ok_iff]

theorem keyFrom_of_not_array (scalar : ∀ a, v ≠ .array a) :
    keyFrom h limit inner path v = .ok (headCode h v) := by
  cases v with
  | array a => exact absurd rfl (scalar a)
  | _ => rfl

theorem keyFrom_array :
    keyFrom h limit inner path (.array a) =
      match enter limit path.length (a ∈ path) with
      | .error reason => .error reason
      | .ok () => (headCode h (.array a) ++ ·) <$> String.join <$>
          (h.entries a).mapM fun e => (keyCode e.1 ++ ·) <$> inner (a :: path) e.2 := by
  by_cases on : a ∈ path
  · simp only [keyFrom, enter, on, if_true, decide_true]
    rfl
  · cases limit with
    | none => simp [keyFrom, enter, on, headCode, arrayCode]
    | some l =>
      by_cases deep : l ≤ path.length
      · simp only [keyFrom, enter, on, deep, if_true, if_false, decide_false, Bool.false_eq_true]
        rfl
      · simp [keyFrom, enter, on, deep, headCode, arrayCode]

theorem nested_eq_keyFrom (h : Heap) (limit : Option Nat) (path : List ArrayRef) (v : Value) :
    nested h limit path v = keyFrom h limit (nested h limit) path v := by
  cases v with
  | array a =>
    rw [nested_array, keyFrom_array, nestedEntries_eq_mapM]
    cases enter limit path.length (a ∈ path) with
    | error reason => rfl
    | ok =>
      cases (h.entries a).mapM fun e => (keyCode e.1 ++ ·) <$> nested h limit (a :: path) e.2 <;> rfl
  | _ => rw [nested_of_not_array (by simp), keyFrom_of_not_array (by simp)]

theorem eq_nested_of_keyFrom {key : List ArrayRef → Value → Except Unencodable String}
    (level : ∀ path v, key path v = keyFrom h limit key path v) : key = nested h limit := by
  funext path v
  induction path, v using nested_induction h limit with
  | scalar path v scalar => rw [level, keyFrom_of_not_array scalar, nested_of_not_array scalar]
  | refused path a reason refused =>
    rw [level, nested_eq_keyFrom, keyFrom_array, keyFrom_array, refused]
  | entered path a entered ih =>
    have codes : ((h.entries a).mapM fun e => (keyCode e.1 ++ ·) <$> key (a :: path) e.2) =
        (h.entries a).mapM fun e => (keyCode e.1 ++ ·) <$> nested h limit (a :: path) e.2 :=
      mapM_congr fun e he => by rw [ih e he]
    rw [level, nested_eq_keyFrom, keyFrom_array, keyFrom_array, entered, codes]

/-! ## The first refused array

The walk over frames gives the key that the recursion gives. Where the recursion fails it has come to
an array that is refused, and everything that comes before this array has a key, so nothing before it
is refused: the reason of the failure is that of the first refused array.
-/

variable {place : List Nat}

theorem enter_eq_error_iff_refused :
    enter limit path.length (a ∈ path) = .error reason ↔ Refused limit path a reason := by
  rw [enter_eq_error_iff]
  constructor
  · rintro (⟨on, rfl⟩ | ⟨fresh, l, limited, deep, rfl⟩)
    · exact .again (by simpa using on)
    · exact .tooDeep (by simpa using fresh) limited deep
  · rintro (on | ⟨fresh, limited, deep⟩)
    · exact Or.inl ⟨by simpa using on, rfl⟩
    · exact Or.inr ⟨by simpa using fresh, _, limited, deep, rfl⟩

/-! ### Where nothing is refused -/

theorem not_refusedAt_of_nested (written : nested h limit path v = .ok key) :
    ¬ RefusedAt h limit path v place reason := by
  induction place generalizing path v key with
  | nil =>
    rw [refusedAt_nil_iff]
    rintro ⟨a, rfl, refused⟩
    have entered := (nested_array_eq_ok_iff.1 written).1
    rw [enter_eq_error_iff_refused.2 refused] at entered
    cases entered
  | cons i place ih =>
    rw [refusedAt_cons_iff]
    rintro ⟨a, e, rfl, entry, refused⟩
    obtain ⟨_, text, codes, _⟩ := nested_array_eq_ok_iff.1 written
    have each := exists_nestedEntries_eq_ok_iff.1 ⟨text, codes⟩
    obtain ⟨inner, written⟩ := each e (List.mem_of_getElem? entry)
    exact ih written refused

/-! ### The first refusal -/

theorem firstRefusal_here (refused : Refused limit path a reason) :
    FirstRefusal h limit path (.array a) [] reason where
  refused := refusedAt_nil_iff.2 ⟨a, rfl, refused⟩
  least := by
    intro place' reason' before
    cases before

/-- The first refusal inside of an entry is the first inside of the array, if the array is not refused
and every entry before has a key. -/
theorem FirstRefusal.of_entry {before after : List (Key × Value)} {e : Key × Value}
    (first : FirstRefusal h limit (a :: path) e.2 place reason)
    (entered : enter limit path.length (a ∈ path) = .ok ())
    (entries : h.entries a = before ++ e :: after)
    (written : ∀ e' ∈ before, ∃ key, nested h limit (a :: path) e'.2 = .ok key) :
    FirstRefusal h limit path (.array a) (before.length :: place) reason where
  refused := refusedAt_cons_iff.2 ⟨a, e, rfl, by simp [entries], first.refused⟩
  least := by
    intro place' reason' earlier refused
    -- An earlier place is the array itself, or lies in an entry to the left or earlier in this one.
    cases earlier with
    | nil =>
      obtain ⟨b, array, refused⟩ := refusedAt_nil_iff.1 refused
      cases array
      rw [enter_eq_error_iff_refused.2 refused] at entered
      cases entered
    | @rel i place' _ _ left =>
      obtain ⟨b, e', array, entry, refused⟩ := refusedAt_cons_iff.1 refused
      cases array
      rw [entries, List.getElem?_append_left left] at entry
      obtain ⟨key, written⟩ := written e' (List.mem_of_getElem? entry)
      exact not_refusedAt_of_nested written refused
    | cons earlier =>
      obtain ⟨b, e', array, entry, refused⟩ := refusedAt_cons_iff.1 refused
      cases array
      have same : e' = e := by simpa [entries, eq_comm] using entry
      subst same
      exact first.least _ reason' earlier refused

theorem exists_firstRefusal (failed : nested h limit path v = .error reason) :
    ∃ place, FirstRefusal h limit path v place reason := by
  induction path, v using nested_induction h limit with
  | scalar path v scalar =>
    rw [nested_of_not_array scalar] at failed
    cases failed
  | refused path a reason' refused =>
    rw [nested_array, refused] at failed
    cases failed
    exact ⟨[], firstRefusal_here (enter_eq_error_iff_refused.1 refused)⟩
  | entered path a entered ih =>
    rw [nested_array_eq_error_iff, entered] at failed
    obtain refused | ⟨_, failed⟩ := failed
    · cases refused
    obtain ⟨before, e, after, entries, written, failed⟩ := nestedEntries_eq_error_iff.1 failed
    obtain ⟨place, first⟩ := ih e (by simp [entries]) failed
    exact ⟨before.length :: place, first.of_entry entered entries written⟩

theorem nested_eq_error_iff :
    nested h limit path v = .error reason ↔ ∃ place, FirstRefusal h limit path v place reason := by
  refine ⟨exists_firstRefusal, ?_⟩
  rintro ⟨place, first⟩
  cases outcome : nested h limit path v with
  | ok key => exact absurd first.refused (not_refusedAt_of_nested outcome)
  | error reason' =>
    obtain ⟨place', first'⟩ := exists_firstRefusal outcome
    rw [(first.unique first').2]

/-- One function alone gives every value inside the arrays of a path the key that one level of the
recursion makes of its own keys for the entries. The walk over frames gives the key that this function
gives a value by itself, and it fails exactly where an array inside of the value is refused, for the
reason of the first such array from left to right, an array before what it holds. -/
theorem encode_by_recursion (h : Heap) (limit : Option Nat) :
    (∀ key, (∀ path v, key path v = keyFrom h limit key path v) ↔ key = nested h limit) ∧
    (∀ v, encode h limit v = nested h limit [] v) ∧
    ∀ v reason, encode h limit v = .error reason ↔
      ∃ place, FirstRefusal h limit [] v place reason := by
  refine ⟨fun key => ⟨eq_nested_of_keyFrom, ?_⟩, encode_eq_nested h limit, fun v reason => ?_⟩
  · rintro rfl
    exact nested_eq_keyFrom h limit
  · rw [encode_eq_nested, nested_eq_error_iff]

end Identity

end RuntimeTypes
