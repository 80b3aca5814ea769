import Mathlib.Data.List.Induction
import RuntimeTypes.Table.Basic

/-!
# The counter of a table

The counter cannot be seen from outside, but nothing is hidden in it: whatever the operations were,
it is what the keys say. It stands behind the largest integer key, or at zero where all integer keys
are negative; and since there is no integer behind the largest one, it stays there once it has come
to it. So tables with the same keys go on in the same way.
-/

namespace RuntimeTypes

theorem toInt_succSaturating (n : Int64) :
    (succSaturating n).toInt = min (n.toInt + 1) Int64.maxValue.toInt := by
  have le : n.toInt ≤ Int64.maxValue.toInt := Int64.le_iff_toInt_le.1 (Int64.le_maxValue n)
  rw [succSaturating]
  split
  · rename_i last
    rw [last]
    rfl
  · rename_i more
    have ne : n.toInt ≠ Int64.maxValue.toInt := fun same => more (Int64.toInt_inj.1 same)
    have low := Int64.le_toInt n
    have top : Int64.maxValue.toInt = 2 ^ 63 - 1 := rfl
    rw [Int64.toInt_add, Int64.toInt_one, Int.bmod_eq_of_le] <;> omega

namespace Table

variable {t : Table} {k : Key} {v : Value} {keys : List Key} {next : Int64}

/-! ## Keys after an operation -/

theorem keys_push (t : Table) (v : Value) : (t.push v).keys = t.keys ++ [.int t.nextIndex] := by
  simp [Table.keys]

theorem putEntry_of_mem {es : List (Key × Value)} (present : k ∈ es.map Prod.fst) (v : Value) :
    ∃ before old after, k ∉ before.map Prod.fst ∧ es = before ++ (k, old) :: after ∧
      putEntry k v es = before ++ (k, v) :: after := by
  induction es with
  | nil => cases present
  | cons e es ih =>
    by_cases here : e.1 = k
    · refine ⟨[], e.2, es, List.not_mem_nil, ?_, ?_⟩
      · rw [← here, List.nil_append]
      · rw [putEntry, if_pos here, List.nil_append]
    · have elsewhere : k ≠ e.1 := Ne.symm here
      rw [List.map_cons, List.mem_cons, or_iff_right elsewhere] at present
      obtain ⟨before, old, after, fresh, eq, put⟩ := ih present
      refine ⟨e :: before, old, after, ?_, ?_, ?_⟩
      · rw [List.map_cons, List.mem_cons, not_or]
        exact ⟨elsewhere, fresh⟩
      · rw [eq, List.cons_append]
      · rw [putEntry, if_neg here, put, List.cons_append]

theorem putEntry_of_not_mem {es : List (Key × Value)} (absent : k ∉ es.map Prod.fst) (v : Value) :
    putEntry k v es = es ++ [(k, v)] := by
  induction es with
  | nil => rfl
  | cons e es ih =>
    rw [List.map_cons, List.mem_cons, not_or] at absent
    rw [putEntry, if_neg (Ne.symm absent.1), ih absent.2, List.cons_append]

theorem entries_insert_of_mem (present : k ∈ t.keys) (v : Value) :
    ∃ before old after, k ∉ before.map Prod.fst ∧ t.entries = before ++ (k, old) :: after ∧
      (t.insert k v).entries = before ++ (k, v) :: after :=
  putEntry_of_mem present v

theorem entries_insert_of_not_mem (absent : k ∉ t.keys) (v : Value) :
    (t.insert k v).entries = t.entries ++ [(k, v)] :=
  putEntry_of_not_mem absent v

theorem keys_insert (t : Table) (k : Key) (v : Value) :
    (t.insert k v).keys = if k ∈ t.keys then t.keys else t.keys ++ [k] := by
  by_cases present : k ∈ t.keys
  · obtain ⟨before, old, after, _, eq, put⟩ := entries_insert_of_mem present v
    rw [if_pos present, Table.keys, Table.keys, put, eq]
    simp
  · rw [if_neg present, Table.keys, Table.keys, entries_insert_of_not_mem present]
    simp

theorem mem_keys_push {l : Key} : l ∈ (t.push v).keys ↔ l ∈ t.keys ∨ l = .int t.nextIndex := by
  rw [keys_push, List.mem_append, List.mem_singleton]

theorem mem_keys_insert {l : Key} : l ∈ (t.insert k v).keys ↔ l ∈ t.keys ∨ l = k := by
  rw [keys_insert]
  by_cases present : k ∈ t.keys
  · rw [if_pos present]
    exact (or_iff_left_of_imp fun same => same ▸ present).symm
  · rw [if_neg present, List.mem_append, List.mem_singleton]

/-! ## What the keys say -/

/-- The counter that goes with keys: zero where no integer key is zero or more, and otherwise one
more than the largest, but no more than the largest integer. -/
def IsCounter (keys : List Key) (next : Int64) : Prop :=
  (∀ n, .int n ∈ keys → n < 0) ∧ next = 0 ∨
    ∃ n, 0 ≤ n ∧ .int n ∈ keys ∧ (∀ m, .int m ∈ keys → m ≤ n) ∧
      next.toInt = min (n.toInt + 1) Int64.maxValue.toInt

theorem IsCounter.unique {other : Int64} (h : IsCounter keys next) (h' : IsCounter keys other) :
    next = other := by
  rcases h with ⟨negative, rfl⟩ | ⟨n, zero_le, mem, largest, eq⟩
  · rcases h' with ⟨_, rfl⟩ | ⟨m, zero_le, mem, _⟩
    · rfl
    · exact absurd (negative m mem) (Int64.not_lt.2 zero_le)
  · rcases h' with ⟨negative, _⟩ | ⟨m, _, mem', largest', eq'⟩
    · exact absurd (negative n mem) (Int64.not_lt.2 zero_le)
    · obtain rfl : n = m := Int64.le_antisymm (largest' n mem) (largest m mem')
      exact Int64.toInt_inj.1 (eq.trans eq'.symm)

theorem IsCounter.nonneg (h : IsCounter keys next) : 0 ≤ next := by
  rcases h with ⟨_, rfl⟩ | ⟨n, zero_le, _, _, eq⟩
  · exact Int64.le_refl 0
  · rw [Int64.le_iff_toInt_le] at zero_le ⊢
    have top : Int64.maxValue.toInt = 2 ^ 63 - 1 := rfl
    rw [Int64.toInt_zero] at zero_le ⊢
    omega

theorem IsCounter.lt_or_eq (h : IsCounter keys next) {n : Int64} (mem : .int n ∈ keys) :
    n < next ∨ n = Int64.maxValue ∧ next = Int64.maxValue := by
  rcases h with ⟨negative, rfl⟩ | ⟨m, _, _, largest, eq⟩
  · exact Or.inl (negative n mem)
  · have le := Int64.le_iff_toInt_le.1 (largest n mem)
    have top := Int64.le_iff_toInt_le.1 (Int64.le_maxValue m)
    rw [Int64.lt_iff_toInt_lt, ← Int64.toInt_inj, ← Int64.toInt_inj]
    omega

theorem IsCounter.le (h : IsCounter keys next) {n : Int64} (mem : .int n ∈ keys) : n ≤ next := by
  rcases h.lt_or_eq mem with lt | ⟨rfl, rfl⟩
  · exact Int64.le_of_lt lt
  · exact Int64.le_refl _

theorem isCounter_succSaturating {n : Int64} (zero_le : 0 ≤ n) (mem : .int n ∈ keys)
    (largest : ∀ m, .int m ∈ keys → m ≤ n) : IsCounter keys (succSaturating n) :=
  Or.inr ⟨n, zero_le, mem, largest, toInt_succSaturating n⟩

/-- A counter that was ahead of a new key, or was not asked because the key is a text, goes with
the keys still. -/
theorem IsCounter.insert_of_lt {keys' : List Key} (h : IsCounter keys next)
    (kept : ∀ l ∈ keys, l ∈ keys') (new : ∀ n, .int n ∈ keys' → .int n ∈ keys ∨ n < next) :
    IsCounter keys' next := by
  rcases h with ⟨negative, rfl⟩ | ⟨m, zero_le, mem, largest, eq⟩
  · exact Or.inl ⟨fun n hn => (new n hn).elim (negative n) id, rfl⟩
  · refine Or.inr ⟨m, zero_le, kept _ mem, fun n hn => ?_, eq⟩
    rcases new n hn with old | lt
    · exact largest n old
    · rw [Int64.lt_iff_toInt_lt] at lt
      rw [Int64.le_iff_toInt_le]
      omega

/-! ## The counter along a history -/

/-- The counter of the table is the one that goes with its keys. -/
def Counted (t : Table) : Prop :=
  IsCounter t.keys t.nextIndex

theorem counted_empty : empty.Counted :=
  Or.inl ⟨fun _ mem => absurd mem List.not_mem_nil, rfl⟩

theorem Counted.push (h : t.Counted) (v : Value) : (t.push v).Counted := by
  refine isCounter_succSaturating h.nonneg (mem_keys_push.2 (Or.inr rfl)) fun n mem => ?_
  rcases mem_keys_push.1 mem with old | new
  · exact h.le old
  · exact Int64.le_of_eq (Key.int.inj new)

theorem Counted.insert (h : t.Counted) (k : Key) (v : Value) : (t.insert k v).Counted := by
  have kept : ∀ l ∈ t.keys, l ∈ (t.insert k v).keys := fun l old => mem_keys_insert.2 (Or.inl old)
  cases k with
  | text s =>
    refine IsCounter.insert_of_lt h kept fun n mem => Or.inl ?_
    exact (mem_keys_insert.1 mem).resolve_right (by simp)
  | int m =>
    by_cases jump : t.nextIndex ≤ m
    · have next : (t.insert (.int m) v).nextIndex = succSaturating m := if_pos jump
      rw [Counted, next]
      refine isCounter_succSaturating (Int64.le_trans h.nonneg jump)
        (mem_keys_insert.2 (Or.inr rfl)) fun n mem => ?_
      rcases mem_keys_insert.1 mem with old | new
      · exact Int64.le_trans (h.le old) jump
      · exact Int64.le_of_eq (Key.int.inj new)
    · have next : (t.insert (.int m) v).nextIndex = t.nextIndex := if_neg jump
      rw [Counted, next]
      refine IsCounter.insert_of_lt h kept fun n mem => (mem_keys_insert.1 mem).imp_right fun new => ?_
      rw [Key.int.inj new]
      exact Int64.not_le.1 jump

theorem Counted.apply (h : t.Counted) (u : Update) : (t.apply u).Counted := by
  cases u with
  | push v => exact h.push v
  | insert k v => exact h.insert k v

theorem Counted.applyAll (h : t.Counted) (us : List Update) : (t.applyAll us).Counted := by
  induction us using List.reverseRecOn with
  | nil => exact h
  | append_singleton us u ih =>
    rw [applyAll_append]
    exact ih.apply u

theorem counted_ofValues (vs : List Value) : (ofValues vs).Counted := by
  rw [ofValues_eq_applyAll]
  exact counted_empty.applyAll _

theorem Counted.lt_nextIndex (h : t.Counted) (room : .int Int64.maxValue ∉ t.keys) {n : Int64}
    (mem : .int n ∈ t.keys) : n < t.nextIndex := by
  rcases h.lt_or_eq mem with lt | ⟨rfl, _⟩
  · exact lt
  · exact absurd mem room

/-- The counter of a table that comes about from listed values by pushes and inserts is the one that
goes with its keys, so tables with the same keys have the same counter. A push appends its value
under the counter, which is greater than every integer key until the largest integer is one. An
insert under a key that is present changes the value of the first entry with it and nothing else; one
under a new key appends an entry. After an insert a look-up finds the value there, and elsewhere what
it found before. -/
theorem nextIndex_determined_by_keys (vs : List Value) (us : List Update) :
    let t := (ofValues vs).applyAll us
    IsCounter t.keys t.nextIndex ∧
    (∀ vs' us', ((ofValues vs').applyAll us').keys = t.keys →
      ((ofValues vs').applyAll us').nextIndex = t.nextIndex) ∧
    (∀ v, (t.push v).entries = t.entries ++ [(.int t.nextIndex, v)]) ∧
    (.int Int64.maxValue ∉ t.keys → ∀ n, .int n ∈ t.keys → n < t.nextIndex) ∧
    ∀ k v,
      (k ∈ t.keys → ∃ before old after, k ∉ before.map Prod.fst ∧
        t.entries = before ++ (k, old) :: after ∧
        (t.insert k v).entries = before ++ (k, v) :: after) ∧
      (k ∉ t.keys → (t.insert k v).entries = t.entries ++ [(k, v)]) ∧
      (t.insert k v).get? k = some v ∧
      ∀ l, l ≠ k → (t.insert k v).get? l = t.get? l := by
  intro t
  have counted : t.Counted := (counted_ofValues vs).applyAll us
  refine ⟨counted, fun vs' us' same => ?_, entries_push t, fun room n => counted.lt_nextIndex room,
    fun k v => ⟨fun present => entries_insert_of_mem present v,
      fun absent => entries_insert_of_not_mem absent v, get?_insert_self t k v,
      fun l other => get?_insert_of_ne t (Ne.symm other) v⟩⟩
  have counted' : ((ofValues vs').applyAll us').Counted := (counted_ofValues vs').applyAll us'
  rw [Counted, same] at counted'
  exact counted'.unique counted

/-- A table whose keys are a negative integer, the text `5` and the integer before the largest one has
its counter at the largest. An insert under the negative key stays in place, one under the text `6`
appends. -/
theorem nextIndex_determined_by_keys_before_largest :
    let us : List Update := [.insert (.int (-5)) .null, .insert (.text "5") (.bool true),
      .insert (.int (Int64.maxValue - 1)) (.int 1), .insert (.int (-5)) (.int 2)]
    let vs : List Update := [.insert (.int (-5)) .null, .insert (.text "5") .null,
      .insert (.int (Int64.maxValue - 1)) .null]
    let t := (ofValues []).applyAll us
    (((ofValues []).applyAll vs).keys = t.keys ∧ .int Int64.maxValue ∉ t.keys ∧
      .int (Int64.maxValue - 1) ∈ t.keys ∧ .int (-5) ∈ t.keys ∧ .text "6" ∉ t.keys ∧
      Key.int (-5) ≠ .text "6") ∧
    t.nextIndex = Int64.maxValue ∧ ((ofValues []).applyAll vs).nextIndex = t.nextIndex ∧
    Int64.maxValue - 1 < t.nextIndex ∧
    (∃ before old after, .int (-5) ∉ before.map Prod.fst ∧
      t.entries = before ++ (.int (-5), old) :: after ∧
      (t.insert (.int (-5)) .null).entries = before ++ (.int (-5), .null) :: after) ∧
    (t.insert (.text "6") .null).entries = t.entries ++ [(.text "6", .null)] ∧
    (t.insert (.text "6") .null).get? (.int (-5)) = t.get? (.int (-5)) := by
  intro us vs t
  have same : ((ofValues []).applyAll vs).keys = t.keys := by decide
  have room : .int Int64.maxValue ∉ t.keys := by decide
  have last : .int (Int64.maxValue - 1) ∈ t.keys := by decide
  have present : .int (-5) ∈ t.keys := by decide
  have absent : .text "6" ∉ t.keys := by decide
  have other : Key.int (-5) ≠ .text "6" := by decide
  obtain ⟨_, counter, _, ahead, insert⟩ := nextIndex_determined_by_keys [] us
  exact ⟨⟨same, room, last, present, absent, other⟩, by decide, counter [] vs same,
    ahead room _ last, (insert _ .null).1 present, (insert _ .null).2.1 absent,
    (insert _ .null).2.2.2 _ other⟩

end Table

end RuntimeTypes
