import RuntimeTypes.Heap.Basic
import RuntimeTypes.Reach

/-!
# Strict equality

Two values are strictly equal when they have the same kind and the same value: floats by their
bits, objects and resources by their identity numbers, and arrays by their entries, position by
position, with the same keys and strictly equal values.

Arrays can contain themselves. Two arrays that are compared inside a comparison of the same two
arrays are taken to be equal there; the assumption holds for their own entries alone and is gone
once these have been compared.
-/

namespace RuntimeTypes

namespace Value

/-- Whether two values that are no arrays are strictly equal. -/
def agrees : Value → Value → Bool
  | .null, .null => true
  | .bool b, .bool c => b = c
  | .int m, .int n => m = n
  | .float b, .float c => b = c
  | .string s, .string t => s = t
  | .object o, .object p => o.id = p.id
  | .resource r, .resource s => r.id = s.id
  | _, _ => false

end Value

/-- Pairs of arrays are ordered by the first, then by the second. -/
instance : Ord (ArrayRef × ArrayRef) := lexOrd

namespace Heap

/-- Every name of an array that has entries. -/
def refs (h : Heap) : List ArrayRef :=
  (List.range h.arrays.size).map ArrayRef.mk

theorem mem_refs {h : Heap} {a : ArrayRef} : a ∈ h.refs ↔ a.index < h.arrays.size := by
  cases a
  simp [refs]

theorem entries_of_not_mem_refs {h : Heap} {a : ArrayRef} (ha : a ∉ h.refs) : h.entries a = [] := by
  rw [mem_refs] at ha
  exact entries_of_size_le (Nat.le_of_not_lt ha)

theorem mem_refs_of_entries_ne_nil {h : Heap} {a : ArrayRef} (ha : h.entries a ≠ []) :
    a ∈ h.refs :=
  Decidable.byContradiction fun out => ha (entries_of_not_mem_refs out)

def refPairs (h : Heap) : List (ArrayRef × ArrayRef) :=
  h.refs.flatMap fun a => h.refs.map fun b => (a, b)

theorem mem_refPairs {h : Heap} {a b : ArrayRef} :
    (a, b) ∈ h.refPairs ↔ a ∈ h.refs ∧ b ∈ h.refs := by
  simp [refPairs]

theorem entries_eq_nil_of_not_mem_refPairs {h : Heap} {a b : ArrayRef}
    (long : (h.entries a).length = (h.entries b).length) (out : (a, b) ∉ h.refPairs) :
    h.entries a = [] := by
  refine Decidable.byContradiction fun ha => out (mem_refPairs.2 ?_)
  have hb : h.entries b ≠ [] := by
    rw [← List.length_pos_iff, ← long]
    exact List.length_pos_iff.2 ha
  exact ⟨mem_refs_of_entries_ne_nil ha, mem_refs_of_entries_ne_nil hb⟩

mutual

/-- Whether two values are strictly equal, where the assumed pairs of arrays are. -/
def equalGiven (h : Heap) (assumed : Std.ExtTreeSet (ArrayRef × ArrayRef)) (v w : Value) : Bool :=
  match v, w with
  | .array a, .array b =>
    if a = b then true
    else if (a, b) ∈ assumed then true
    else if (h.entries a).length = (h.entries b).length then
      entriesEqualGiven h (assumed.insert (a, b)) (h.entries a) (h.entries b)
    else false
  | v, w => v.agrees w
termination_by (unseen h.refPairs assumed, 2)
decreasing_by
  by_cases within : (a, b) ∈ h.refPairs
  · exact Prod.Lex.left _ _ (unseen_insert_lt within ‹_›)
  · rw [entries_eq_nil_of_not_mem_refPairs ‹_› within]
    rcases Nat.lt_or_eq_of_le (unseen_insert_le h.refPairs assumed (a, b)) with lt | eq
    · exact Prod.Lex.left _ _ lt
    · rw [eq]
      exact Prod.Lex.right _ (by simp)

/-- Whether entries have the same keys and strictly equal values, position by position as far as
both lists go, where the assumed pairs of arrays are. -/
def entriesEqualGiven (h : Heap) (assumed : Std.ExtTreeSet (ArrayRef × ArrayRef))
    (es fs : List (Key × Value)) : Bool :=
  match es, fs with
  | (k, v) :: es, (l, w) :: fs =>
    k = l && equalGiven h assumed v w && entriesEqualGiven h assumed es fs
  | _, _ => true
termination_by (unseen h.refPairs assumed, 2 * es.length + 1)
decreasing_by
  · exact Prod.Lex.right _ (by simp only [List.length_cons]; omega)
  · exact Prod.Lex.right _ (by simp only [List.length_cons]; omega)

end

def strictEqual (h : Heap) (v w : Value) : Bool :=
  h.equalGiven ∅ v w

/-! ## Bisimilar values

The largest relation between values that respects kinds, scalars, identities and the entries of
arrays. It says what strict equality is without saying how to find it out.
-/

/-- Two values are alike up to a relation: scalars are the same, objects and resources have one
identity number, and arrays have the same keys in the same order and related values. -/
def Alike (h : Heap) (related : Value → Value → Prop) : Value → Value → Prop
  | .null, .null => True
  | .bool b, .bool c => b = c
  | .int m, .int n => m = n
  | .float b, .float c => b = c
  | .string s, .string t => s = t
  | .array a, .array b =>
    (h.table a).keys = (h.table b).keys ∧
      ∀ p ∈ (h.table a).values.zip (h.table b).values, related p.1 p.2
  | .object o, .object p => o.id = p.id
  | .resource r, .resource s => r.id = s.id
  | _, _ => False

/-- A relation that holds only of values that are alike up to it. -/
def IsBisimulation (h : Heap) (related : Value → Value → Prop) : Prop :=
  ∀ v w, related v w → h.Alike related v w

def Bisimilar (h : Heap) (v w : Value) : Prop :=
  ∃ related, h.IsBisimulation related ∧ related v w

theorem Alike.mono {h : Heap} {r s : Value → Value → Prop} (le : ∀ v w, r v w → s v w)
    {v w : Value} (alike : h.Alike r v w) : h.Alike s v w := by
  cases v <;> cases w <;> simp only [Alike] at alike ⊢ <;> try exact alike
  exact ⟨alike.1, fun p hp => le _ _ (alike.2 p hp)⟩

/-- Bisimilarity is a bisimulation, and so the largest one. -/
theorem isBisimulation_bisimilar (h : Heap) : h.IsBisimulation h.Bisimilar := by
  rintro v w ⟨r, hr, hvw⟩
  exact (hr v w hvw).mono fun v w hvw => ⟨r, hr, hvw⟩

theorem bisimilar_of_alike {h : Heap} {v w : Value} (alike : h.Alike h.Bisimilar v w) :
    h.Bisimilar v w :=
  ⟨h.Alike h.Bisimilar, fun _ _ hvw => hvw.mono h.isBisimulation_bisimilar, alike⟩

end Heap

end RuntimeTypes
