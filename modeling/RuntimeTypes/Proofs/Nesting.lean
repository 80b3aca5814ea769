import Mathlib.Data.List.Nodup
import Mathlib.Data.List.Perm.Subperm
import RuntimeTypes.Proofs.Spelling

/-!
# Which values have identity keys

A value has a key to a depth exactly when none of its paths of nested arrays is longer, so the
encoder finds a key where the paths keep within the limit and, without a limit, where their length
is bounded at all. In a cyclic value paths go on forever; in any other value no path comes through
an array twice, and the arrays of the heap bound its length.

Where the encoder fails, the arrays that it is inside of together with the refused one are such a
path, and the refusal tells whether the path came back to an array or grew too long.
-/

namespace RuntimeTypes

namespace Heap

variable {h : Heap} {v : Value} {a b : ArrayRef} {path : List ArrayRef} {n : Nat}

/-! ## Paths and cycles -/

theorem Nesting.ne_nil (nested : h.Nesting v path) : path ≠ [] := by
  cases nested <;> simp

theorem Nesting.of_entry {e : Key × Value} (he : e ∈ h.entries a) (inner : h.Nesting e.2 path) :
    h.Nesting (.array a) (a :: path) := by
  generalize hv : e.2 = v at inner
  cases inner with
  | last b => exact .cons (mem_members.2 ⟨e, he, hv⟩) (.last b)
  | cons member inner => exact .cons (mem_members.2 ⟨e, he, hv⟩) (.cons member inner)

theorem Nesting.cases_array (nested : h.Nesting (.array a) path) :
    path = [a] ∨ ∃ e ∈ h.entries a, ∃ rest, path = a :: rest ∧ h.Nesting e.2 rest := by
  cases nested with
  | last => exact Or.inl rfl
  | cons member inner =>
    obtain ⟨e, he, hb⟩ := mem_members.1 member
    exact Or.inr ⟨e, he, _, rfl, hb ▸ inner⟩

theorem Nesting.holds (nested : h.Nesting v path) (ha : a ∈ path) : h.Holds v a := by
  induction nested with
  | last b =>
    rw [List.mem_singleton] at ha
    exact ⟨b, rfl, ha ▸ .refl⟩
  | cons member _ ih =>
    refine ⟨_, rfl, ?_⟩
    rcases List.mem_cons.1 ha with rfl | ha
    · exact .refl
    · obtain ⟨c, hc, reach⟩ := ih ha
      cases hc
      exact .head member reach

theorem Holds.of_entry {e : Key × Value} (he : e ∈ h.entries a) (holds : h.Holds e.2 b) :
    h.Holds (.array a) b := by
  obtain ⟨c, hc, reach⟩ := holds
  exact ⟨a, rfl, .head (mem_members.2 ⟨e, he, hc⟩) reach⟩

theorem Nesting.of_reachable (reach : Reachable h.members a b)
    (nested : h.Nesting (.array b) path) :
    ∃ path', h.Nesting (.array a) path' ∧ path.length ≤ path'.length := by
  induction reach generalizing path with
  | refl => exact ⟨path, nested, Nat.le_refl _⟩
  | tail _ member ih =>
    obtain ⟨path', nested', le⟩ := ih (.cons member nested)
    exact ⟨path', nested', Nat.le_of_succ_le le⟩

theorem Nesting.take (nested : h.Nesting v path) (pos : 0 < n) : h.Nesting v (path.take n) := by
  induction nested generalizing n with
  | last a =>
    obtain ⟨n, rfl⟩ := Nat.exists_eq_succ_of_ne_zero (Nat.ne_of_gt pos)
    rw [List.take_succ_cons, List.take_nil]
    exact .last a
  | @cons a b path member inner ih =>
    obtain ⟨n, rfl⟩ := Nat.exists_eq_succ_of_ne_zero (Nat.ne_of_gt pos)
    rw [List.take_succ_cons]
    cases n with
    | zero => exact .last a
    | succ n => exact .cons member (ih (Nat.succ_pos n))

theorem Cyclic.of_member (member : b ∈ h.members a) (cyclic : h.Cyclic (.array b)) :
    h.Cyclic (.array a) := by
  obtain ⟨c, ⟨d, hd, reach⟩, again⟩ := cyclic
  cases hd
  exact ⟨c, ⟨a, rfl, .head member reach⟩, again⟩

theorem Cyclic.exists_array (cyclic : h.Cyclic v) : ∃ a, v = .array a := by
  obtain ⟨_, ⟨a, eq, _⟩, _⟩ := cyclic
  exact ⟨a, eq⟩

theorem Cyclic.of_entry {e : Key × Value} (he : e ∈ h.entries a) (cyclic : h.Cyclic e.2) :
    h.Cyclic (.array a) := by
  obtain ⟨c, hc⟩ := cyclic.exists_array
  exact .of_member (mem_members.2 ⟨e, he, hc⟩) (hc ▸ cyclic)

theorem Cyclic.exists_member (cyclic : h.Cyclic (.array a)) :
    ∃ b ∈ h.members a, h.Cyclic (.array b) := by
  obtain ⟨c, ⟨d, hd, reach⟩, again⟩ := cyclic
  cases hd
  rcases reach.cases_head with rfl | ⟨b, hb, reach⟩
  · obtain ⟨b, hb, back⟩ := again
    exact ⟨b, hb, a, ⟨b, rfl, back⟩, b, hb, back⟩
  · exact ⟨b, hb, c, ⟨b, rfl, reach⟩, again⟩

theorem Cyclic.exists_nesting (cyclic : h.Cyclic v) (n : Nat) :
    ∃ path, h.Nesting v path ∧ path.length = n + 1 := by
  induction n generalizing v with
  | zero =>
    obtain ⟨a, rfl⟩ := cyclic.exists_array
    exact ⟨[a], .last a, rfl⟩
  | succ n ih =>
    obtain ⟨a, rfl⟩ := cyclic.exists_array
    obtain ⟨b, hb, inner⟩ := cyclic.exists_member
    obtain ⟨path, nested, long⟩ := ih inner
    exact ⟨a :: path, .cons hb nested, by rw [List.length_cons, long]⟩

theorem Nesting.nodup (acyclic : ¬ h.Cyclic v) (nested : h.Nesting v path) : path.Nodup := by
  induction nested with
  | last a => exact List.nodup_singleton a
  | @cons a b path member inner ih =>
    have fresh : a ∉ path := by
      intro ha
      obtain ⟨c, hc, reach⟩ := inner.holds ha
      cases hc
      exact acyclic ⟨a, ⟨a, rfl, .refl⟩, b, member, reach⟩
    exact List.nodup_cons.2 ⟨fresh, ih fun cyclic => acyclic (cyclic.of_member member)⟩

/-- The arrays of a path that have an entry are in the heap, and only the last may have none. -/
theorem Nesting.dropLast_subset (nested : h.Nesting v path) : path.dropLast ⊆ h.refs := by
  induction nested with
  | last a => simp
  | @cons a b path member inner ih =>
    rw [List.dropLast_cons_of_ne_nil inner.ne_nil]
    obtain ⟨e, he, _⟩ := mem_members.1 member
    have old : a ∈ h.refs := mem_refs_of_entries_ne_nil (List.ne_nil_of_mem he)
    exact List.cons_subset.2 ⟨old, ih⟩

theorem Nesting.length_le (nested : h.Nesting v path) (distinct : path.Nodup) :
    path.length ≤ h.refs.length + 1 := by
  have within : List.Subperm path.dropLast h.refs :=
    List.subperm_of_subset (distinct.sublist path.dropLast_sublist) nested.dropLast_subset
  have short := within.length_le
  rw [List.length_dropLast] at short
  omega

/-- A value with paths of every length is cyclic. -/
theorem cyclic_of_exists_nesting (long : ∀ n, ∃ path, h.Nesting v path ∧ path.length = n + 1) :
    h.Cyclic v := by
  refine Classical.byContradiction fun acyclic => ?_
  obtain ⟨path, nested, length⟩ := long (h.refs.length + 1)
  have short := nested.length_le (nested.nodup acyclic)
  omega

end Heap

namespace Identity

open Heap

variable {h : Heap} {v : Value} {n : Nat} {limit : Option Nat} {inside : List ArrayRef}
  {reason : Unencodable}

/-! ## Keys and the lengths of paths -/

theorem exists_spellEntries_iff {value : Value → Option String} {entries : List (Key × Value)} :
    (∃ key, spellEntries value entries = some key) ↔
      ∀ e ∈ entries, ∃ key, value e.2 = some key := by
  induction entries with
  | nil => simp [spellEntries]
  | cons e entries ih =>
    obtain ⟨k, v⟩ := e
    rw [List.forall_mem_cons, ← ih]
    simp only [spellEntries_cons_eq_some_iff]
    constructor
    · rintro ⟨_, text, more, first, rest, _⟩
      exact ⟨⟨text, first⟩, more, rest⟩
    · rintro ⟨⟨text, first⟩, more, rest⟩
      exact ⟨_, text, more, first, rest, rfl⟩

/-- A value has a key to a depth exactly when no path of nested arrays is longer. -/
theorem exists_spell_iff :
    (∃ key, spell h n v = some key) ↔ ∀ path, h.Nesting v path → path.length ≤ n := by
  induction n generalizing v with
  | zero =>
    cases v with
    | array a =>
      refine iff_of_false (fun ⟨_, spelled⟩ => by cases spelled) fun short => ?_
      have := short [a] (.last a)
      simp at this
    | _ => exact iff_of_true ⟨_, spell_of_not_array (by simp)⟩ fun _ nested => by cases nested
  | succ n ih =>
    cases v with
    | array a =>
      have spells : (∃ key, spell h (n + 1) (.array a) = some key) ↔
          ∀ e ∈ h.entries a, ∃ key, spell h n e.2 = some key := by
        rw [← exists_spellEntries_iff]
        simp only [spell_array_eq_some_iff]
        exact ⟨fun ⟨_, text, entries, _⟩ => ⟨text, entries⟩,
          fun ⟨text, entries⟩ => ⟨_, text, entries, rfl⟩⟩
      rw [spells]
      simp only [ih]
      constructor
      · intro short path nested
        rcases nested.cases_array with rfl | ⟨e, he, rest, rfl, inner⟩
        · simp
        · exact Nat.succ_le_succ (short e he rest inner)
      · intro short e he path inner
        exact Nat.le_of_succ_le_succ (short _ (.of_entry he inner))
    | _ => exact iff_of_true ⟨_, spell_of_not_array (by simp)⟩ fun _ nested => by cases nested

theorem exists_encode_iff :
    (∃ key, encode h limit v = .ok key) ↔
      ¬ h.Cyclic v ∧ ∀ l, limit = some l → ∀ path, h.Nesting v path → path.length ≤ l := by
  simp only [encode_eq_ok_iff]
  constructor
  · rintro ⟨key, n, within, spelled⟩
    have short := exists_spell_iff.1 ⟨key, spelled⟩
    refine ⟨fun cyclic => ?_, fun l hl path nested =>
      Nat.le_trans (short path nested) (within l hl)⟩
    obtain ⟨path, nested, long⟩ := cyclic.exists_nesting n
    have := short path nested
    omega
  · rintro ⟨acyclic, short⟩
    cases limit with
    | none =>
      obtain ⟨key, spelled⟩ : ∃ key, spell h (h.refs.length + 1) v = some key :=
        exists_spell_iff.2 fun path nested => nested.length_le (nested.nodup acyclic)
      exact ⟨key, _, by simp, spelled⟩
    | some l =>
      obtain ⟨key, spelled⟩ := exists_spell_iff.2 (short l rfl)
      exact ⟨key, l, by simp, spelled⟩

/-! ## Where the encoder fails -/

/-- A path of nested arrays from the value on ends at an array that may not be entered from inside
of the others on the path and of the given ones. -/
def RefusedWithin (h : Heap) (limit : Option Nat) (reason : Unencodable) (inside : List ArrayRef)
    (v : Value) : Prop :=
  ∃ (path : List ArrayRef) (a : ArrayRef), h.Nesting v (path ++ [a]) ∧
    (path.reverse ++ inside).Nodup ∧
    enter limit (path.reverse ++ inside).length (a ∈ path.reverse ++ inside) = .error reason

theorem RefusedWithin.of_entry {a : ArrayRef} {e : Key × Value} (he : e ∈ h.entries a)
    (refused : RefusedWithin h limit reason (a :: inside) e.2) :
    RefusedWithin h limit reason inside (.array a) := by
  obtain ⟨path, b, inner, distinct, refused⟩ := refused
  -- The array is the outermost of the path, where it was the innermost of those around it.
  have around : (a :: path).reverse ++ inside = path.reverse ++ a :: inside := by simp
  refine ⟨a :: path, b, .of_entry he inner, ?_⟩
  rw [around]
  exact ⟨distinct, refused⟩

theorem refusedWithin_of_nested (failed : nested h limit inside v = .error reason)
    (distinct : inside.Nodup) : RefusedWithin h limit reason inside v := by
  induction inside, v using nested_induction h limit with
  | scalar inside v scalar =>
    rw [nested_of_not_array scalar] at failed
    cases failed
  | refused inside a reason' refused =>
    rw [nested_array, refused] at failed
    cases failed
    exact ⟨[], a, .last a, distinct, refused⟩
  | entered inside a entered ih =>
    rw [nested_array_eq_error_iff, entered] at failed
    obtain refused | ⟨_, failed⟩ := failed
    · cases refused
    have fresh : a ∉ inside := by simpa using (enter_eq_ok_iff.1 entered).1
    obtain ⟨before, e, after, entries, _, failed⟩ := nestedEntries_eq_error_iff.1 failed
    have he : e ∈ h.entries a := by simp [entries]
    exact .of_entry he (ih e he failed (List.nodup_cons.2 ⟨fresh, distinct⟩))

/-- The encoder fails at a cycle, or at one array too many on a path without repetition. -/
theorem encode_eq_error (failed : encode h limit v = .error reason) :
    reason = .cycle ∧ h.Cyclic v ∨
      ∃ l, limit = some l ∧ reason = .depthExceeded l ∧
        ∃ path, h.Nesting v path ∧ path.Nodup ∧ path.length = l + 1 := by
  rw [encode_eq_nested] at failed
  obtain ⟨path, a, nested, distinct, refused⟩ :=
    refusedWithin_of_nested failed List.nodup_nil
  rw [List.append_nil] at distinct refused
  rw [List.nodup_reverse] at distinct
  rcases enter_eq_error_iff.1 refused with ⟨again, rfl⟩ | ⟨fresh, l, rfl, deep, rfl⟩
  · refine Or.inl ⟨rfl, Classical.byContradiction fun acyclic => ?_⟩
    have twice : a ∈ path := by simpa using again
    have once := nested.nodup acyclic
    rw [List.nodup_append] at once
    exact once.2.2 a twice a (List.mem_singleton.2 rfl) rfl
  · have once : (path ++ [a]).Nodup := by
      have new : a ∉ path := by simpa using fresh
      exact List.nodup_append.2 ⟨distinct, List.nodup_singleton a, by grind⟩
    rw [List.length_reverse] at deep
    refine Or.inr ⟨l, rfl, rfl, (path ++ [a]).take (l + 1), nested.take (Nat.succ_pos l),
      once.sublist (List.take_sublist ..), ?_⟩
    rw [List.length_take, List.length_append, List.length_singleton]
    omega

/-! ## What keys do not show -/

/-- The recursion does not look into objects. -/
theorem nested_withInstances (h : Heap) (instances : Array Instance) (limit : Option Nat)
    (inside : List ArrayRef) (v : Value) :
    nested { h with instances := instances } limit inside v = nested h limit inside v := by
  have entries_eq (a : ArrayRef) : { h with instances := instances }.entries a = h.entries a := rfl
  have headCode_eq (v : Value) : headCode { h with instances := instances } v = headCode h v := by
    cases v <;> rfl
  induction inside, v using nested_induction h limit with
  | scalar inside v scalar =>
    rw [nested_of_not_array scalar, nested_of_not_array scalar, headCode_eq]
  | refused inside a reason refused => rw [nested_array, nested_array, refused]
  | entered inside a entered ih =>
    have codes := mapM_congr fun e he => congrArg ((keyCode e.1 ++ ·) <$> ·) (ih e he)
    rw [nested_array, nested_array, entered, entries_eq, headCode_eq, nestedEntries_eq_mapM,
      nestedEntries_eq_mapM, codes]

theorem encode_withInstances (h : Heap) (instances : Array Instance) (limit : Option Nat)
    (v : Value) : encode { h with instances := instances } limit v = encode h limit v := by
  rw [encode_eq_nested, encode_eq_nested, nested_withInstances]

/-- A value has a key exactly when it is not cyclic and none of its paths of nested arrays is longer
than the limit, if there is one; a limit never changes the key. Without a limit the only failure
is a cycle. With a limit the encoder may meet a cycle or one array too many, and each reason is
given only where it holds. What is stored in objects makes no difference. -/
theorem encode_ok_iff_acyclic_and_shallow (h : Heap) (limit : Option Nat) (v : Value) :
    ((∃ key, encode h limit v = .ok key) ↔
      ¬ h.Cyclic v ∧ ∀ l, limit = some l → ∀ path, h.Nesting v path → path.length ≤ l) ∧
    (∀ key, encode h limit v = .ok key → encode h none v = .ok key) ∧
    (∀ reason, encode h limit v = .error reason →
      reason = .cycle ∧ h.Cyclic v ∨
        ∃ l, limit = some l ∧ reason = .depthExceeded l ∧
          ∃ path, h.Nesting v path ∧ path.Nodup ∧ path.length = l + 1) ∧
    ∀ instances, encode { h with instances := instances } limit v = encode h limit v := by
  refine ⟨exists_encode_iff, fun key encoded => ?_, fun reason => encode_eq_error,
    fun instances => encode_withInstances h instances limit v⟩
  obtain ⟨n, _, spelled⟩ := encode_eq_ok_iff.1 encoded
  exact encode_eq_ok_iff.2 ⟨n, by simp, spelled⟩

end Identity

end RuntimeTypes
