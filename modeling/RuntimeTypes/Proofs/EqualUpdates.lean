import RuntimeTypes.Proofs.Counter
import RuntimeTypes.Proofs.IdentityKeys
import RuntimeTypes.Proofs.Nesting

/-!
# Equal arrays under equal operations

Two strictly equal arrays that go through the same operations are strictly equal afterwards. A push
asks the counter for its key, which strict equality does not look at; but in a built heap the counter
is what the keys say. And an array that does not contain itself cannot hold an array that is equal to
it, which would hold paths as long as its own. So the operations do not touch the values that were in
the two arrays before, nor those that are put into them.
-/

namespace RuntimeTypes

/-! ## Histories of arrays in a built heap

Every array of a built heap has come about by pushes and inserts, so its counter is what its keys
say. Operations on arrays with values that are owned lead from built heaps to built heaps.
-/

namespace Table

variable {t : Table} {e : Key × Value}

theorem mem_apply {u : Update} (he : e ∈ (t.apply u).entries) :
    e.2 = u.value ∨ e ∈ t.entries := by
  cases u with
  | push v =>
    rcases List.mem_append.1 he with old | new
    · exact Or.inr old
    · rw [List.mem_singleton.1 new]
      exact Or.inl rfl
  | insert k v => exact mem_putEntry he

theorem forall_mem_applyAll {p : Value → Prop} {us : List Update} (old : ∀ e ∈ t.entries, p e.2)
    (new : ∀ u ∈ us, p u.value) : ∀ e ∈ (t.applyAll us).entries, p e.2 := by
  induction us generalizing t with
  | nil => exact old
  | cons u us ih =>
    obtain ⟨value, new⟩ := List.forall_mem_cons.1 new
    refine ih (fun e he => ?_) new
    rcases mem_apply he with eq | mem
    · rw [eq]
      exact value
    · exact old e mem

end Table

namespace Heap

open Table (Update)

variable {h : Heap} {v : Value} {a b : ArrayRef} {steps : List (ArrayRef × Update)}

theorem table_newArray (h : Heap) (t : Table) (a : ArrayRef) :
    (h.newArray t).2.table a = t ∨ (h.newArray t).2.table a = h.table a := by
  simp only [newArray, table, Array.getElem?_push]
  split
  · exact Or.inl rfl
  · exact Or.inr rfl

theorem exists_history_update {u : Update} (array : h.Owns (.array b))
    (history : ∀ a, ∃ us, h.table a = Table.empty.applyAll us) (a : ArrayRef) :
    ∃ us, (h.update b u).table a = Table.empty.applyAll us := by
  rw [update_eq_updateArray]
  by_cases here : b = a
  · subst here
    obtain ⟨us, eq⟩ := history b
    rw [table_updateArray_self h _ array, eq]
    refine ⟨us ++ [u], ?_⟩
    rw [Table.applyAll_append]
    rfl
  · rw [table_updateArray_of_ne h _ here]
    exact history a

theorem Built.exists_history (built : h.Built) :
    ∀ a, ∃ us, h.table a = Table.empty.applyAll us := by
  induction built with
  | empty => exact fun a => ⟨[], rfl⟩
  | @newList h vs _ _ ih =>
    intro a
    rcases table_newArray h (.ofValues vs) a with new | old
    · exact ⟨vs.map .push, new.trans (Table.ofValues_eq_applyAll vs)⟩
    · obtain ⟨us, eq⟩ := ih a
      exact ⟨us, old.trans eq⟩
  | newObject _ made ih =>
    obtain ⟨_, rfl⟩ := newObject_eq_ok made
    exact ih
  | newResource _ made ih =>
    obtain ⟨_, rfl⟩ := newResource_eq_ok made
    exact ih
  | @push h a v _ array _ ih => exact exists_history_update (u := .push v) array ih
  | @insert h a k v _ array _ ih => exact exists_history_update (u := .insert k v) array ih
  | setField _ _ _ ih => exact ih

theorem Built.counted (built : h.Built) (a : ArrayRef) : (h.table a).Counted := by
  obtain ⟨us, eq⟩ := built.exists_history a
  rw [eq]
  exact Table.counted_empty.applyAll us

theorem Built.update {u : Update} (built : h.Built) (array : h.Owns (.array a))
    (owned : h.Owns u.value) : (h.update a u).Built := by
  cases u with
  | push v => exact .push built array owned
  | insert k v => exact .insert built array owned

theorem owns_update (a : ArrayRef) (u : Update) (owned : h.Owns v) : (h.update a u).Owns v := by
  rw [update_eq_updateArray]
  exact owns_updateArray a _ owned

theorem owns_updateAll (steps : List (ArrayRef × Update)) (owned : h.Owns v) :
    (h.updateAll steps).Owns v := by
  induction steps generalizing h with
  | nil => exact owned
  | cons step steps ih => exact ih (owns_update step.1 step.2 owned)

theorem Built.updateAll (built : h.Built)
    (owned : ∀ step ∈ steps, h.Owns (.array step.1) ∧ h.Owns step.2.value) :
    (h.updateAll steps).Built := by
  induction steps generalizing h with
  | nil => exact built
  | cons step steps ih =>
    obtain ⟨⟨array, value⟩, owned⟩ := List.forall_mem_cons.1 owned
    exact ih (built.update array value) fun step mem =>
      ⟨owns_update _ _ (owned step mem).1, owns_update _ _ (owned step mem).2⟩

end Heap

/-! ## Values that operations leave alone -/

namespace Heap

open Table (Update)

variable {h h' : Heap} {v w : Value} {a b : ArrayRef} {steps : List (ArrayRef × Update)}

/-! ### Related tables -/

variable {related : Value → Value → Prop} {es fs : List (Key × Value)} {t t' : Table}

theorem Built.nextIndex_eq (built : h.Built) (bisimilar : h.Bisimilar (.array a) (.array b)) :
    (h.table a).nextIndex = (h.table b).nextIndex := by
  have keys : (h.table a).keys = (h.table b).keys := (alike_array_iff.1 bisimilar.alike).keys_eq
  have counted := built.counted a
  rw [Table.Counted, keys] at counted
  exact counted.unique (built.counted b)

theorem EntriesRelated.putEntry (entries : EntriesRelated related es fs) (k : Key)
    (value : related v w) :
    EntriesRelated related (Table.putEntry k v es) (Table.putEntry k w fs) := by
  induction entries with
  | nil => exact .cons ⟨rfl, value⟩ .nil
  | @cons e f es fs head rest ih =>
    rw [Table.putEntry, Table.putEntry, head.1]
    split
    · exact .cons ⟨rfl, value⟩ rest
    · exact .cons head ih

theorem related_apply (entries : EntriesRelated related t.entries t'.entries)
    (counter : t.nextIndex = t'.nextIndex) {u : Update} (value : related u.value u.value) :
    EntriesRelated related (t.apply u).entries (t'.apply u).entries ∧
      (t.apply u).nextIndex = (t'.apply u).nextIndex := by
  cases u with
  | push v =>
    refine ⟨List.rel_append entries (.cons ⟨congrArg Key.int counter, value⟩ .nil), ?_⟩
    exact congrArg succSaturating counter
  | insert k v => exact ⟨entries.putEntry k value, congrArg (Table.counterAfter · k) counter⟩

theorem related_applyAll {us : List Update} (entries : EntriesRelated related t.entries t'.entries)
    (counter : t.nextIndex = t'.nextIndex) (values : ∀ u ∈ us, related u.value u.value) :
    EntriesRelated related (t.applyAll us).entries (t'.applyAll us).entries := by
  induction us generalizing t t' with
  | nil => exact entries
  | cons u us ih =>
    obtain ⟨value, values⟩ := List.forall_mem_cons.1 values
    obtain ⟨entries, counter⟩ := related_apply entries counter value
    exact ih entries counter values

/-! ### Values that operations do not touch -/

/-- Two heaps have the same entries in every array that the value holds. -/
def AgreeOn (h h' : Heap) (v : Value) : Prop :=
  ∀ c, h.Holds v c → h'.entries c = h.entries c

theorem AgreeOn.entries_eq (agree : h.AgreeOn h' (.array a)) : h'.entries a = h.entries a :=
  agree a ⟨a, rfl, .refl⟩

theorem AgreeOn.of_entry {e : Key × Value} (agree : h.AgreeOn h' (.array a))
    (he : e ∈ h.entries a) : h.AgreeOn h' e.2 :=
  fun c holds => agree c (holds.of_entry he)

/-- Bisimilar values stay bisimilar while the arrays that they hold stay as they are. -/
theorem Bisimilar.of_agreeOn (bisimilar : h.Bisimilar v w) (hv : h.AgreeOn h' v)
    (hw : h.AgreeOn h' w) : h'.Bisimilar v w := by
  refine ⟨fun v w => h.Bisimilar v w ∧ h.AgreeOn h' v ∧ h.AgreeOn h' w, ?_, bisimilar, hv, hw⟩
  rintro v w ⟨bisimilar, hv, hw⟩
  rcases alike_iff.1 bisimilar.alike with agree | ⟨a, b, rfl, rfl, entries⟩
  · exact alike_iff.2 (Or.inl agree)
  · rw [alike_array_iff, hv.entries_eq, hw.entries_eq]
    exact entries.mono_mem fun e he f hf both => ⟨both, hv.of_entry he, hw.of_entry hf⟩

theorem AgreeOn.cyclic (agree : h.AgreeOn h' v) (cyclic : h'.Cyclic v) : h.Cyclic v := by
  obtain ⟨c, ⟨a, rfl, reach⟩, d, member, back⟩ := cyclic
  have same : ∀ c, Reachable h.members a c → h.members c = h'.members c := fun c reach => by
    rw [members, members, agree c ⟨a, rfl, reach⟩]
  have reach' : Reachable h.members a c := (reachable_congr same).2 reach
  rw [← same c reach'] at member
  have back' : Reachable h.members d c :=
    (reachable_congr fun b hb => same b ((reach'.tail member).trans hb)).2 back
  exact ⟨c, ⟨a, rfl, reach'⟩, d, member, back'⟩

theorem agreeOn_updateAll (only : ∀ step ∈ steps, step.1 = a ∨ step.1 = b)
    (not_a : ¬ h.Holds v a) (not_b : ¬ h.Holds v b) : h.AgreeOn (h.updateAll steps) v := by
  intro c holds
  have others : ∀ step ∈ steps, step.1 ≠ c := by
    rintro step mem rfl
    rcases only step mem with here | here
    · exact not_a (here ▸ holds)
    · exact not_b (here ▸ holds)
  rw [entries, entries, table_updateAll_of_forall_ne others]

/-! ### Equal arrays hold each other nowhere -/

theorem Bisimilar.exists_nesting {path : List ArrayRef} (bisimilar : h.Bisimilar v w)
    (nested : h.Nesting v path) : ∃ path', h.Nesting w path' ∧ path'.length = path.length := by
  induction nested generalizing w with
  | last a =>
    rcases alike_iff.1 bisimilar.alike with agree | ⟨_, b, _, rfl, _⟩
    · simp at agree
    · exact ⟨[b], .last b, rfl⟩
  | @cons a c path member _ ih =>
    rcases alike_iff.1 bisimilar.alike with agree | ⟨_, b, same, rfl, entries⟩
    · simp at agree
    · cases same
      obtain ⟨e, he, hc⟩ := mem_members.1 member
      obtain ⟨f, hf, inner⟩ := entries.exists_of_mem he
      obtain ⟨path', nested, length⟩ := ih (hc ▸ inner)
      exact ⟨b :: path', .of_entry hf nested, by rw [List.length_cons, List.length_cons, length]⟩

theorem Cyclic.of_bisimilar (bisimilar : h.Bisimilar v w) (cyclic : h.Cyclic v) : h.Cyclic w := by
  refine cyclic_of_exists_nesting fun n => ?_
  obtain ⟨path, nested, length⟩ := cyclic.exists_nesting n
  obtain ⟨path', nested', length'⟩ := bisimilar.exists_nesting nested
  exact ⟨path', nested', length'.trans length⟩

/-- An array that is not cyclic leads to no other array that is bisimilar to it: on the way there
paths get longer, and there they would be as long as here. -/
theorem not_reachable_of_bisimilar (acyclic : ¬ h.Cyclic (.array a))
    (bisimilar : h.Bisimilar (.array a) (.array b)) (distinct : a ≠ b) :
    ¬ Reachable h.members a b := by
  intro reach
  -- From here one comes to the other array, and there a path as long as any from here follows.
  refine acyclic (cyclic_of_exists_nesting fun n => ?_)
  induction n with
  | zero => exact ⟨[a], .last a, rfl⟩
  | succ n ih =>
    obtain ⟨path, nested, length⟩ := ih
    obtain ⟨path', nested', length'⟩ := bisimilar.exists_nesting nested
    rcases reach.cases_head with same | ⟨c, member, reach⟩
    · exact absurd same distinct
    · obtain ⟨longer, inner, le⟩ := nested'.of_reachable reach
      refine ⟨(a :: longer).take (n + 2), (Nesting.cons member inner).take (Nat.succ_pos _), ?_⟩
      rw [List.length_take, List.length_cons]
      omega

theorem not_holds_of_entry (acyclic : ¬ h.Cyclic (.array a))
    (bisimilar : h.Bisimilar (.array a) (.array b)) (distinct : a ≠ b) {e : Key × Value}
    (he : e ∈ h.entries a) : ¬ h.Holds e.2 a ∧ ¬ h.Holds e.2 b := by
  constructor
  · rintro ⟨c, hc, reach⟩
    exact acyclic ⟨a, ⟨a, rfl, .refl⟩, c, mem_members.2 ⟨e, he, hc⟩, reach⟩
  · intro holds
    obtain ⟨_, same, reach⟩ := holds.of_entry he
    cases same
    exact not_reachable_of_bisimilar acyclic bisimilar distinct reach

/-- A value that is not cyclic and whose arrays stay as they are. -/
structure Settled (h h' : Heap) (v : Value) : Prop where
  agree : h.AgreeOn h' v
  acyclic : ¬ h.Cyclic v

theorem settled_entry (acyclic : ¬ h.Cyclic (.array a))
    (bisimilar : h.Bisimilar (.array a) (.array b)) (distinct : a ≠ b)
    (only : ∀ step ∈ steps, step.1 = a ∨ step.1 = b) :
    ∀ e ∈ h.entries a, h.Settled (h.updateAll steps) e.2 := by
  intro e he
  obtain ⟨not_a, not_b⟩ := not_holds_of_entry acyclic bisimilar distinct he
  exact ⟨agreeOn_updateAll only not_a not_b, fun cyclic => acyclic (.of_entry he cyclic)⟩

theorem not_cyclic_of_settled (settled : ∀ e ∈ h'.entries a, h.Settled h' e.2) :
    ¬ h'.Cyclic (.array a) := by
  intro cyclic
  obtain ⟨c, member, inner⟩ := cyclic.exists_member
  obtain ⟨e, he, hc⟩ := mem_members.1 member
  exact (settled e he).acyclic ((settled e he).agree.cyclic (hc ▸ inner))

end Heap

namespace Identity

open Heap
open Table (Update)

variable {h : Heap} {v w : Value} {a b : ArrayRef} {limit : Option Nat}

/-! ### The operations -/

theorem reason_of_acyclic (acyclic : ¬ h.Cyclic v) {reason : Unencodable}
    (failed : encode h limit v = .error reason) :
    ∃ l, limit = some l ∧ reason = .depthExceeded l := by
  rcases encode_eq_error failed with ⟨_, cyclic⟩ | ⟨l, hl, eq, _⟩
  · exact absurd cyclic acyclic
  · exact ⟨l, hl, eq⟩

theorem encode_eq_of_bisimilar (built : h.Built) (few : h.instances.size < UInt64.size - 1)
    (hv : h.Owns v) (hw : h.Owns w) (acyclic : ¬ h.Cyclic v) (bisimilar : h.Bisimilar v w) :
    encode h limit v = encode h limit w := by
  have keys (key : String) : encode h limit v = .ok key ↔ encode h limit w = .ok key := by
    simp only [encode_eq_ok_iff, spell_eq_of_bisimilar built few hv hw bisimilar]
  have acyclic' : ¬ h.Cyclic w := fun cyclic => acyclic (cyclic.of_bisimilar bisimilar.symm)
  cases encoded : encode h limit v with
  | ok key => exact ((keys key).1 encoded).symm
  | error reason =>
    cases encoded' : encode h limit w with
    | ok key =>
      rw [(keys key).2 encoded'] at encoded
      cases encoded
    | error reason' =>
      obtain ⟨l, rfl, rfl⟩ := reason_of_acyclic acyclic encoded
      obtain ⟨_, same, rfl⟩ := reason_of_acyclic acyclic' encoded'
      cases same
      rfl

/-- Two arrays of a built heap that are strictly equal and not cyclic go through the same operations,
in any turn; the values put into them have keys and hold neither array. Then the arrays are strictly
equal, have keys again, and have the same key to every limit. How they have come about and which
arrays they share makes no difference. -/
theorem strictEqual_updateAll (built : h.Built) (array : h.Owns (.array a))
    (array' : h.Owns (.array b)) (distinct : a ≠ b)
    (equal : h.strictEqual (.array a) (.array b) = true)
    (encodable : ∃ key, encode h none (.array a) = .ok key) {us : List Update}
    (values : ∀ u ∈ us, h.Owns u.value ∧ (∃ key, encode h none u.value = .ok key) ∧
      ¬ h.Holds u.value a ∧ ¬ h.Holds u.value b)
    {steps : List (ArrayRef × Update)} (only : ∀ step ∈ steps, step.1 = a ∨ step.1 = b)
    (of_a : updatesOf a steps = us) (of_b : updatesOf b steps = us) :
    let after := h.updateAll steps
    after.strictEqual (.array a) (.array b) = true ∧
    (∃ key, encode after none (.array a) = .ok key) ∧
    (∃ key, encode after none (.array b) = .ok key) ∧
    (h.instances.size < UInt64.size - 1 →
      ∀ limit, encode after limit (.array a) = encode after limit (.array b)) := by
  intro after
  have bisimilar : h.Bisimilar (.array a) (.array b) := strictEqual_iff.1 equal
  have acyclic : ¬ h.Cyclic (.array a) := (exists_encode_iff.1 encodable).1
  have acyclic' : ¬ h.Cyclic (.array b) :=
    fun cyclic => acyclic (cyclic.of_bisimilar bisimilar.symm)
  have entries : after.entries a = ((h.table a).applyAll us).entries := by
    rw [Heap.entries, table_updateAll array, of_a]
  have entries' : after.entries b = ((h.table b).applyAll us).entries := by
    rw [Heap.entries, table_updateAll array', of_b]
  -- The operations touch neither the old values of the arrays nor the new ones.
  have old : ∀ e ∈ h.entries a, h.Settled after e.2 :=
    settled_entry acyclic bisimilar distinct only
  have old' : ∀ e ∈ h.entries b, h.Settled after e.2 :=
    settled_entry acyclic' bisimilar.symm distinct.symm fun step mem => (only step mem).symm
  have new : ∀ u ∈ us, h.Settled after u.value := fun u hu => by
    obtain ⟨_, encodable, not_a, not_b⟩ := values u hu
    exact ⟨agreeOn_updateAll only not_a not_b, (exists_encode_iff.1 encodable).1⟩
  have bisimilar_after : after.Bisimilar (.array a) (.array b) := by
    have related : EntriesRelated after.Bisimilar (h.entries a) (h.entries b) :=
      (alike_array_iff.1 bisimilar.alike).mono_mem fun e he f hf same =>
        same.of_agreeOn (old e he).agree (old' f hf).agree
    refine bisimilar_of_alike (alike_array_iff.2 ?_)
    rw [entries, entries']
    exact related_applyAll related (built.nextIndex_eq bisimilar) fun u _ => .refl u.value
  have acyclic_after : ¬ after.Cyclic (.array a) :=
    not_cyclic_of_settled (entries ▸ Table.forall_mem_applyAll old new)
  have acyclic_after' : ¬ after.Cyclic (.array b) :=
    not_cyclic_of_settled (entries' ▸ Table.forall_mem_applyAll old' new)
  refine ⟨strictEqual_iff.2 bisimilar_after, exists_encode_iff.2 ⟨acyclic_after, by simp⟩,
    exists_encode_iff.2 ⟨acyclic_after', by simp⟩, fun few limit => ?_⟩
  have owned : ∀ step ∈ steps, h.Owns (.array step.1) ∧ h.Owns step.2.value := by
    rintro ⟨c, u⟩ mem
    rcases only _ mem with rfl | rfl
    · exact ⟨array, (values u (of_a ▸ mem_updatesOf.2 mem)).1⟩
    · exact ⟨array', (values u (of_b ▸ mem_updatesOf.2 mem)).1⟩
  have few_after : after.instances.size < UInt64.size - 1 := by rwa [instances_updateAll]
  exact encode_eq_of_bisimilar (built.updateAll owned) few_after (owns_updateAll steps array)
    (owns_updateAll steps array') acyclic_after bisimilar_after

/-- Two arrays share a list; one was listed with it, the other got it in the place of a null. Both
then get a text under the key five and the shared list behind it, in different turns. -/
theorem strictEqual_updateAll_of_shared :
    let shared := Heap.empty.newList [.int 1]
    let first := shared.2.newList [.array shared.1]
    let second := first.2.newList [.null]
    let h := second.2.insert second.1 (.int 0) (.array shared.1)
    let text : Update := .insert (.int 5) (.string "x")
    let list : Update := .push (.array shared.1)
    let steps := [(first.1, text), (second.1, text), (second.1, list), (first.1, list)]
    let after := h.updateAll steps
    h.Built ∧ h.strictEqual (.array first.1) (.array second.1) = true ∧
    encode h none (.array first.1) = .ok "A1:I0A1:I0I1" ∧
    after.strictEqual (.array first.1) (.array second.1) = true ∧
    encode after none (.array first.1) = encode after none (.array second.1) := by
  intro shared first second h text list steps after
  have built : h.Built := by
    refine .insert (.newList (.newList (.newList .empty ?_) ?_) ?_) ?_ ?_ <;>
      simp [Owns, newList, newArray, Heap.empty, shared, first, second]
  have array : h.Owns (.array first.1) := by
    change 1 < 3
    decide
  have array' : h.Owns (.array second.1) := by
    change 2 < 3
    decide
  have equal : h.strictEqual (.array first.1) (.array second.1) = true :=
    strictEqual_iff.2 (bisimilar_of_alike (alike_array_iff.2 (.cons ⟨rfl, .refl _⟩ .nil)))
  have encoded : encode h none (.array first.1) = .ok "A1:I0A1:I0I1" :=
    encode_eq_ok_iff.2 ⟨2, by simp, by decide⟩
  have inner : ∀ c, h.Holds (.array shared.1) c → c = shared.1 := by
    rintro c ⟨_, same, reach⟩
    cases same
    rcases reach.cases_head with rfl | ⟨b, hb, _⟩
    · rfl
    · cases hb
  have values : ∀ u ∈ [text, list], h.Owns u.value ∧ (∃ key, encode h none u.value = .ok key) ∧
      ¬ h.Holds u.value first.1 ∧ ¬ h.Holds u.value second.1 := by
    simp only [List.forall_mem_cons, List.not_mem_nil, false_implies, implies_true, and_true]
    refine ⟨⟨trivial, ⟨_, encode_eq_ok_iff.2 ⟨0, by simp, rfl⟩⟩, ?_, ?_⟩,
      ⟨?_, ⟨_, encode_eq_ok_iff.2 ⟨1, by simp, rfl⟩⟩, ?_, ?_⟩⟩
    · rintro ⟨_, none, _⟩
      cases none
    · rintro ⟨_, none, _⟩
      cases none
    · change 0 < 3
      decide
    · exact fun holds => absurd (inner _ holds) (by decide)
    · exact fun holds => absurd (inner _ holds) (by decide)
  have only : ∀ step ∈ steps, step.1 = first.1 ∨ step.1 = second.1 := by decide
  obtain ⟨equal_after, _, _, keys⟩ := strictEqual_updateAll built array array' (by decide) equal
    ⟨_, encoded⟩ values only (by decide) (by decide)
  exact ⟨built, equal, encoded, equal_after, keys (by decide) none⟩

end Identity

end RuntimeTypes
