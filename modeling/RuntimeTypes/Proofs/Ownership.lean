import RuntimeTypes.Heap.Basic

/-!
# Ownership

An operation adds cells and changes what is in them. It takes no cell away and gives none another
class or kind, so what is owned stays owned; and since callers put only owned values into arrays
and fields, every value in an array or a field of a built heap is owned. An owned handle to an
instance is told by its number.
-/

namespace RuntimeTypes

namespace Table

theorem mem_putEntry {k : Key} {v : Value} {es : List (Key × Value)} {e : Key × Value}
    (he : e ∈ putEntry k v es) : e.2 = v ∨ e ∈ es := by
  induction es with
  | nil =>
    rw [putEntry, List.mem_singleton] at he
    exact Or.inl (congrArg Prod.snd he)
  | cons f es ih =>
    rw [putEntry] at he
    split at he
    · rcases List.mem_cons.1 he with rfl | rest
      · exact Or.inl rfl
      · exact Or.inr (List.mem_cons_of_mem f rest)
    · rcases List.mem_cons.1 he with rfl | rest
      · exact Or.inr (List.mem_cons_self ..)
      · exact (ih rest).imp id (List.mem_cons_of_mem f)

theorem mem_foldl_push {vs : List Value} {t : Table} {e : Key × Value}
    (he : e ∈ (vs.foldl push t).entries) : e.2 ∈ vs ∨ e ∈ t.entries := by
  induction vs generalizing t with
  | nil => exact Or.inr he
  | cons v vs ih =>
    rcases ih he with later | before
    · exact Or.inl (List.mem_cons_of_mem v later)
    · rw [entries_push, List.mem_append, List.mem_singleton] at before
      rcases before with before | rfl
      · exact Or.inr before
      · exact Or.inl (List.mem_cons_self ..)

theorem mem_ofValues {vs : List Value} {e : Key × Value} (he : e ∈ (ofValues vs).entries) :
    e.2 ∈ vs :=
  (mem_foldl_push he).resolve_right (by simp)

theorem mem_of_found {k : Key} {v : Value} {es : List (Key × Value)}
    (found : findEntry? k es = some v) : (k, v) ∈ es := by
  induction es with
  | nil => cases found
  | cons e es ih =>
    unfold findEntry? at found
    split at found
    · rename_i here
      cases found
      rw [← here]
      exact List.mem_cons_self ..
    · exact List.mem_cons_of_mem e (ih found)

end Table

/-- The handle to an instance at its place. -/
def Instance.handle (slot : Nat) : Instance → Value
  | .object c _ => .object ⟨slot, c⟩
  | .resource k => .resource ⟨slot, k⟩

theorem InstanceId.toNat_ofSlot {slot : Nat} (few : slot < UInt64.size - 1) :
    (InstanceId.ofSlot slot).number.toNat = slot + 1 :=
  UInt64.toNat_ofNat_of_lt' (by omega)

namespace Heap

variable {h : Heap} {v w : Value}

/-! ## What is owned stays owned -/

theorem owns_newArray (t : Table) (owned : h.Owns v) : (h.newArray t).2.Owns v := by
  cases v with
  | array a =>
    simp only [Owns, newArray, Array.size_push] at owned ⊢
    omega
  | _ => exact owned

theorem owns_updateArray (a : ArrayRef) (f : Table → Table) (owned : h.Owns v) :
    (h.updateArray a f).Owns v := by
  cases v with
  | array b => simpa [Owns, updateArray] using owned
  | _ => exact owned

theorem getElem?_push_of_eq_some {i j : Instance} {slot : Nat} (old : h.instances[slot]? = some i) :
    (h.instances.push j)[slot]? = some i := by
  obtain ⟨lt, _⟩ := Array.getElem?_eq_some_iff.1 old
  rw [Array.getElem?_push, if_neg (Nat.ne_of_lt lt), old]

theorem owns_newInstance (i : Instance) (owned : h.Owns v) :
    ({ h with instances := h.instances.push i } : Heap).Owns v := by
  cases v with
  | object o => exact owned.imp fun _ old => getElem?_push_of_eq_some old
  | resource r => exact getElem?_push_of_eq_some owned
  | _ => exact owned

theorem owns_setField (o : Object) (name : String) (w : Value) (owned : h.Owns v) :
    (h.setField o name w).Owns v := by
  cases v with
  | object p =>
    obtain ⟨fields, old⟩ := owned
    by_cases same : o.slot = p.slot
    · exact ⟨fields.insert name w, by simp [setField, Array.getElem?_modify, same, old]⟩
    · exact ⟨fields, by simp [setField, Array.getElem?_modify, same, old]⟩
  | resource r =>
    simp only [Owns] at owned ⊢
    by_cases same : o.slot = r.slot <;> simp [setField, Array.getElem?_modify, same, owned]
  | _ => exact owned

/-! ## What arrays hold -/

theorem mem_entries_newArray {t : Table} {a : ArrayRef} {e : Key × Value}
    (he : e ∈ (h.newArray t).2.entries a) : e ∈ t.entries ∨ e ∈ h.entries a := by
  by_cases old : a.index < h.arrays.size
  · rw [entries, table_newArray_of_lt h t old] at he
    exact Or.inr he
  · by_cases new : a = (h.newArray t).1
    · rw [new, entries, table_newArray_self] at he
      exact Or.inl he
    · have beyond : (h.newArray t).2.arrays.size ≤ a.index := by
        have other : a.index ≠ h.arrays.size := fun same => new (congrArg ArrayRef.mk same)
        simp only [newArray, Array.size_push]
        omega
      rw [entries_of_size_le beyond] at he
      cases he

theorem mem_entries_updateArray {a b : ArrayRef} {f : Table → Table} {e : Key × Value}
    (array : h.Owns (.array b)) (he : e ∈ (h.updateArray b f).entries a) :
    e ∈ (f (h.table b)).entries ∨ e ∈ h.entries a := by
  by_cases same : b = a
  · subst same
    rw [entries, table_updateArray_self h f array] at he
    exact Or.inl he
  · rw [entries, table_updateArray_of_ne h f same] at he
    exact Or.inr he

theorem Built.owns_entry (built : Built h) :
    ∀ a, ∀ e ∈ h.entries a, h.Owns e.2 := by
  induction built with
  | empty =>
    intro a e he
    simp [entries, table, Heap.empty] at he
  | newList built owned ih =>
    intro a e he
    apply owns_newArray
    rcases mem_entries_newArray he with new | old
    · exact owned _ (Table.mem_ofValues new)
    · exact ih a e old
  | newObject built made ih =>
    obtain ⟨_, rfl⟩ := newObject_eq_ok made
    intro a e he
    exact owns_newInstance _ (ih a e he)
  | newResource built made ih =>
    obtain ⟨_, rfl⟩ := newResource_eq_ok made
    intro a e he
    exact owns_newInstance _ (ih a e he)
  | push built array owned ih =>
    intro a e he
    apply owns_updateArray
    rcases mem_entries_updateArray array he with new | old
    · rw [Table.entries_push, List.mem_append, List.mem_singleton] at new
      rcases new with old | rfl
      · exact ih _ e old
      · exact owned
    · exact ih a e old
  | insert built array owned ih =>
    intro a e he
    apply owns_updateArray
    rcases mem_entries_updateArray array he with new | old
    · rcases Table.mem_putEntry new with eq | old
      · rw [eq]
        exact owned
      · exact ih _ e old
    · exact ih a e old
  | setField built object owned ih =>
    intro a e he
    exact owns_setField _ _ _ (ih a e he)

/-! ## What objects hold -/

theorem field?_eq_some_iff {o : Object} {name : String} :
    h.field? o name = some v ↔
      ∃ c fields, h.instances[o.slot]? = some (.object c fields) ∧ fields[name]? = some v := by
  rw [field?]
  split
  · rename_i c fields cell
    refine ⟨fun found => ⟨c, fields, cell, found⟩, ?_⟩
    rintro ⟨d, others, cell', found⟩
    cases cell.symm.trans cell'
    exact found
  · rename_i other
    refine ⟨fun found => ?_, ?_⟩
    · cases found
    · rintro ⟨c, fields, cell, _⟩
      exact absurd cell (other c fields)

theorem field?_of_newInstance {i : Instance} {o : Object} {name : String}
    (bare : ∀ c fields, i = .object c fields → fields = ∅)
    (held : ({ h with instances := h.instances.push i } : Heap).field? o name = some v) :
    h.field? o name = some v := by
  obtain ⟨c, fields, cell, found⟩ := field?_eq_some_iff.1 held
  rw [Array.getElem?_push] at cell
  split at cell
  · rw [bare c fields (Option.some.inj cell)] at found
    simp at found
  · exact field?_eq_some_iff.2 ⟨c, fields, cell, found⟩

theorem eq_or_field?_of_setField {o p : Object} {name other : String}
    (held : (h.setField o name w).field? p other = some v) :
    v = w ∨ h.field? p other = some v := by
  obtain ⟨c, fields, cell, found⟩ := field?_eq_some_iff.1 held
  simp only [setField, Array.getElem?_modify] at cell
  split at cell
  · obtain ⟨old, before, set⟩ := Option.map_eq_some_iff.1 cell
    cases old with
    | resource k => cases set
    | object d before' =>
      cases set
      rw [Std.ExtTreeMap.getElem?_insert] at found
      split at found
      · exact Or.inl (Option.some.inj found).symm
      · exact Or.inr (field?_eq_some_iff.2 ⟨c, before', before, found⟩)
  · exact Or.inr (field?_eq_some_iff.2 ⟨c, fields, cell, found⟩)

theorem Built.owns_field (built : Built h) :
    ∀ o name v, h.field? o name = some v → h.Owns v := by
  induction built with
  | empty =>
    intro o name v held
    simp [field?, Heap.empty] at held
  | newList _ _ ih =>
    intro o name v held
    exact owns_newArray _ (ih o name v held)
  | newObject _ made ih =>
    obtain ⟨_, rfl⟩ := newObject_eq_ok made
    intro o name v held
    refine owns_newInstance _ (ih o name v (field?_of_newInstance ?_ held))
    intro c fields same
    cases same
    rfl
  | newResource _ made ih =>
    obtain ⟨_, rfl⟩ := newResource_eq_ok made
    intro o name v held
    refine owns_newInstance _ (ih o name v (field?_of_newInstance ?_ held))
    intro c fields same
    cases same
  | push _ _ _ ih =>
    intro o name v held
    exact owns_updateArray _ _ (ih o name v held)
  | insert _ _ _ ih =>
    intro o name v held
    exact owns_updateArray _ _ (ih o name v held)
  | setField _ _ owned ih =>
    intro o name v held
    apply owns_setField
    rcases eq_or_field?_of_setField held with rfl | old
    · exact owned
    · exact ih o name v old

/-! ## Identity numbers -/

theorem slot_eq_of_ofSlot_eq (few : h.instances.size < UInt64.size - 1) {m n : Nat}
    (hm : m < h.instances.size) (hn : n < h.instances.size)
    (same : InstanceId.ofSlot m = InstanceId.ofSlot n) : m = n := by
  have numbers : (InstanceId.ofSlot m).number.toNat = (InstanceId.ofSlot n).number.toNat :=
    congrArg (fun id => id.number.toNat) same
  rw [InstanceId.toNat_ofSlot (by omega), InstanceId.toNat_ofSlot (by omega)] at numbers
  exact Nat.succ.inj numbers

/-- An owned handle with a number is the handle to a cell, and has the number of its place. -/
theorem exists_cell_of_owns {i : InstanceId} (owned : h.Owns v) (number : v.instanceId? = some i) :
    ∃ slot, ∃ lt : slot < h.instances.size,
      v = (h.instances[slot]).handle slot ∧ i = .ofSlot slot := by
  cases v with
  | object o =>
    obtain ⟨fields, cell⟩ := owned
    obtain ⟨lt, here⟩ := Array.getElem?_eq_some_iff.1 cell
    exact ⟨o.slot, lt, by rw [here]; rfl, (Option.some.inj number).symm⟩
  | resource r =>
    obtain ⟨lt, here⟩ := Array.getElem?_eq_some_iff.1 owned
    exact ⟨r.slot, lt, by rw [here]; rfl, (Option.some.inj number).symm⟩
  | _ => cases number

theorem eq_of_instanceId?_eq (few : h.instances.size < UInt64.size - 1) {i : InstanceId}
    (hv : h.Owns v) (hw : h.Owns w) (number : v.instanceId? = some i)
    (number' : w.instanceId? = some i) : v = w := by
  obtain ⟨m, hm, rfl, rfl⟩ := exists_cell_of_owns hv number
  obtain ⟨n, hn, rfl, same⟩ := exists_cell_of_owns hw number'
  obtain rfl := slot_eq_of_ofSlot_eq few hm hn same
  rfl

theorem kind_eq_of_id_eq (few : h.instances.size < UInt64.size - 1) {r s : Resource}
    (hr : h.Owns (.resource r)) (hs : h.Owns (.resource s)) (same : r.id = s.id) :
    r.kind = s.kind := by
  have one := eq_of_instanceId?_eq few hr hs rfl (congrArg some same.symm)
  rw [Value.resource.inj one]

end Heap

end RuntimeTypes
