import Mathlib.Data.List.Nodup
import RuntimeTypes.Proofs.Counter

/-!
# The keys of a table

The counter is ahead of every integer key until it comes to the largest integer, where it stops. So
a pushed value gets a key that nothing else has, up to the moment when the largest integer is a key:
from then on every push takes that key again, and a look-up keeps finding the value that had it
first. Inserts never repeat a key.
-/

namespace RuntimeTypes

namespace Table

variable {t : Table} {k : Key} {v : Value}

/-! ## Distinct keys after an operation -/

theorem nodup_keys_push_iff :
    (t.push v).keys.Nodup ↔ t.keys.Nodup ∧ .int t.nextIndex ∉ t.keys := by
  rw [keys_push, ← List.concat_eq_append, List.nodup_concat]
  exact and_comm

theorem nodup_keys_insert_iff : (t.insert k v).keys.Nodup ↔ t.keys.Nodup := by
  rw [keys_insert]
  by_cases present : k ∈ t.keys
  · rw [if_pos present]
  · rw [if_neg present, ← List.concat_eq_append, List.nodup_concat]
    exact and_iff_right present

/-! ## The counter -/

/-- The counter is ahead of every integer key, or has come to the largest integer. -/
def Ahead (t : Table) : Prop :=
  t.nextIndex = Int64.maxValue ∨ ∀ n, .int n ∈ t.keys → n < t.nextIndex

theorem Counted.ahead (h : t.Counted) : t.Ahead := by
  by_cases stopped : t.nextIndex = Int64.maxValue
  · exact Or.inl stopped
  · exact Or.inr fun n mem => (h.lt_or_eq mem).resolve_right fun last => stopped last.2

theorem ahead_applyAll (us : List Update) : (empty.applyAll us).Ahead :=
  (counted_empty.applyAll us).ahead

/-- The key of the next push is taken only where it is the largest integer. -/
theorem Ahead.nextIndex_mem_keys_iff (h : t.Ahead) :
    .int t.nextIndex ∈ t.keys ↔ .int Int64.maxValue ∈ t.keys := by
  rcases h with stopped | ahead
  · rw [stopped]
  · constructor
    · exact fun taken => absurd (ahead _ taken) Int64.lt_irrefl
    · exact fun taken => absurd (ahead _ taken) (Int64.not_lt.2 (Int64.le_maxValue _))

/-! ## Keys along a history -/

/-- Some push of a history came when the largest integer was a key already. -/
def Overflows (us : List Update) : Prop :=
  ∃ before v, before ++ [.push v] <+: us ∧ .int Int64.maxValue ∈ (empty.applyAll before).keys

theorem overflows_append_push {us : List Update} :
    Overflows (us ++ [.push v]) ↔
      Overflows us ∨ .int Int64.maxValue ∈ (empty.applyAll us).keys := by
  constructor
  · rintro ⟨before, w, pre, taken⟩
    rcases List.prefix_concat_iff.1 pre with all | part
    · obtain rfl : before = us := (List.append_inj' all rfl).1
      exact Or.inr taken
    · exact Or.inl ⟨before, w, part, taken⟩
  · rintro (⟨before, w, pre, taken⟩ | taken)
    · exact ⟨before, w, pre.trans (List.prefix_append ..), taken⟩
    · exact ⟨us, v, List.prefix_refl _, taken⟩

theorem overflows_append_insert {us : List Update} :
    Overflows (us ++ [.insert k v]) ↔ Overflows us := by
  constructor
  · rintro ⟨before, w, pre, taken⟩
    rcases List.prefix_concat_iff.1 pre with all | part
    · have last := (List.append_inj' all rfl).2
      cases last
    · exact ⟨before, w, part, taken⟩
  · rintro ⟨before, w, pre, taken⟩
    exact ⟨before, w, pre.trans (List.prefix_append ..), taken⟩

theorem nodup_keys_applyAll_iff (us : List Update) :
    (empty.applyAll us).keys.Nodup ↔ ¬ Overflows us := by
  induction us using List.reverseRecOn with
  | nil =>
    have none_pushed : ¬ Overflows [] := by
      rintro ⟨before, v, pre, _⟩
      simp at pre
    exact iff_of_true List.nodup_nil none_pushed
  | append_singleton us u ih =>
    rw [applyAll_append]
    cases u with
    | push v =>
      show ((empty.applyAll us).push v).keys.Nodup ↔ _
      rw [nodup_keys_push_iff, ih, (ahead_applyAll us).nextIndex_mem_keys_iff,
        overflows_append_push, not_or]
    | insert k v =>
      show ((empty.applyAll us).insert k v).keys.Nodup ↔ _
      rw [nodup_keys_insert_iff, ih, overflows_append_insert]

/-! ## Looking up a pushed value -/

theorem findEntry?_append (k : Key) (es fs : List (Key × Value)) :
    findEntry? k (es ++ fs) = if k ∈ es.map Prod.fst then findEntry? k es else findEntry? k fs := by
  induction es with
  | nil => simp
  | cons e es ih =>
    by_cases here : e.1 = k
    · simp [here, findEntry?]
    · have elsewhere : k ≠ e.1 := Ne.symm here
      simp only [List.cons_append, findEntry?, if_neg here, ih, List.map_cons, List.mem_cons,
        elsewhere, false_or]

/-- A look-up with the key of a push finds the pushed value, unless the key was taken. -/
theorem get?_push_self (t : Table) (v : Value) :
    (t.push v).get? (.int t.nextIndex) =
      if .int t.nextIndex ∈ t.keys then t.get? (.int t.nextIndex) else some v := by
  rw [get?, entries_push, findEntry?_append]
  have last : findEntry? (.int t.nextIndex) [(.int t.nextIndex, v)] = some v := if_pos rfl
  rw [last]
  rfl

/-- A table that comes about from listed values by pushes and inserts has distinct keys exactly
where no push came when the largest integer was a key already. A push appends one entry; its key is
taken only where it is the largest integer, and there alone a look-up does not find the value that
was pushed. -/
theorem distinct_keys_until_overflow (vs : List Value) (us : List Update) (v : Value) :
    let t := (ofValues vs).applyAll us
    let key := Key.int t.nextIndex
    (t.keys.Nodup ↔ ¬ Overflows (vs.map .push ++ us)) ∧
    (t.push v).entries = t.entries ++ [(key, v)] ∧
    (key ∈ t.keys ↔ .int Int64.maxValue ∈ t.keys) ∧
    (t.push v).get? key = if .int Int64.maxValue ∈ t.keys then t.get? key else some v := by
  intro t key
  have history : t = empty.applyAll (vs.map .push ++ us) := by
    rw [applyAll_append, ← ofValues_eq_applyAll]
  have ahead : t.Ahead := history ▸ ahead_applyAll _
  have taken : key ∈ t.keys ↔ .int Int64.maxValue ∈ t.keys := ahead.nextIndex_mem_keys_iff
  refine ⟨?_, rfl, taken, ?_⟩
  · rw [history]
    exact nodup_keys_applyAll_iff _
  · rw [get?_push_self]
    exact if_congr taken rfl rfl

/-- A value pushed after an insert at the largest integer takes that key a second time, and the
look-up finds the value inserted before. -/
theorem largest_key_repeats :
    let t := empty.applyAll [.insert (.int Int64.maxValue) (.int 1)]
    let key := Key.int t.nextIndex
    (t.push (.int 2)).keys = [key, key] ∧ ¬ (t.push (.int 2)).keys.Nodup ∧ key ∈ t.keys ∧
      (t.push (.int 2)).get? key = some (.int 1) := by
  decide

end Table

end RuntimeTypes
