import RuntimeTypes.Error
import RuntimeTypes.Table.Basic
import Std.Data.ExtTreeMap

/-!
# The heap

The heap holds every array and every instance made so far. Nothing is ever removed, so a handle
stays good. An operation on an array changes that one cell, and everyone who holds its name sees
the change; the entries read before are not touched by it.
-/

namespace RuntimeTypes

/-- What an instance number stands for. -/
inductive Instance where
  /-- An object with its class and the fields set on it. -/
  | object (className : ClassName) (fields : Std.ExtTreeMap String Value)
  | resource (kind : ResourceKind)

/-- The shared cells: arrays, and objects and resources numbered together. -/
structure Heap where
  arrays : Array Table := #[]
  instances : Array Instance := #[]

namespace Heap

def empty : Heap := {}

/-! ## Arrays -/

/-- The contents of an array. A name that stands for no cell reads as an empty table. -/
def table (h : Heap) (a : ArrayRef) : Table :=
  h.arrays[a.index]?.getD .empty

def entries (h : Heap) (a : ArrayRef) : List (Key × Value) :=
  (h.table a).entries

def newArray (h : Heap) (t : Table) : ArrayRef × Heap :=
  (⟨h.arrays.size⟩, { h with arrays := h.arrays.push t })

def updateArray (h : Heap) (a : ArrayRef) (f : Table → Table) : Heap :=
  { h with arrays := h.arrays.modify a.index f }

def push (h : Heap) (a : ArrayRef) (v : Value) : Heap :=
  h.updateArray a (·.push v)

def insert (h : Heap) (a : ArrayRef) (k : Key) (v : Value) : Heap :=
  h.updateArray a (·.insert k v)

/-- Makes a new array of the given values, under the keys from zero up. -/
def newList (h : Heap) (vs : List Value) : ArrayRef × Heap :=
  h.newArray (.ofValues vs)

/-! ## Objects and resources -/

/-- Makes a new object of the given class. One leading separator is dropped from the name; what is
left has to be a class name. A refused name uses no instance number. -/
def newObject (h : Heap) (className : String) : Except Error (Object × Heap) :=
  let name := String.ofList (Text.dropLeading Name.separator className.toList)
  match ClassName.ofText? name with
  | some c =>
    .ok (⟨h.instances.size, c⟩, { h with instances := h.instances.push (.object c ∅) })
  | none => .error (.invalidSpec name .invalidClassName)

/-- Makes a new resource of the given kind. A refused kind uses no instance number. -/
def newResource (h : Heap) (kind : String) : Except Error (Resource × Heap) :=
  match ResourceKind.ofText? kind with
  | some k =>
    .ok (⟨h.instances.size, k⟩, { h with instances := h.instances.push (.resource k) })
  | none => .error (.invalidSpec kind .invalidResourceKind)

def setField (h : Heap) (o : Object) (name : String) (v : Value) : Heap :=
  let set : Instance → Instance
    | .object c fields => .object c (fields.insert name v)
    | .resource k => .resource k
  { h with instances := h.instances.modify o.slot set }

def field? (h : Heap) (o : Object) (name : String) : Option Value :=
  match h.instances[o.slot]? with
  | some (.object _ fields) => fields[name]?
  | _ => none

theorem entries_of_size_le {h : Heap} {a : ArrayRef} (ha : h.arrays.size ≤ a.index) :
    h.entries a = [] := by
  simp [entries, table, Array.getElem?_eq_none ha]

/-! ## What an operation changes -/

theorem table_newArray_self (h : Heap) (t : Table) :
    (h.newArray t).2.table (h.newArray t).1 = t := by
  simp [newArray, table]

theorem table_newArray_of_lt (h : Heap) (t : Table) {a : ArrayRef}
    (ha : a.index < h.arrays.size) : (h.newArray t).2.table a = h.table a := by
  simp [newArray, table, Array.getElem?_push, Nat.ne_of_lt ha]

theorem table_updateArray_self (h : Heap) {a : ArrayRef} (f : Table → Table)
    (ha : a.index < h.arrays.size) : (h.updateArray a f).table a = f (h.table a) := by
  simp [updateArray, table, ha, Array.getElem_modify]

theorem table_updateArray_of_ne (h : Heap) {a b : ArrayRef} (f : Table → Table) (hab : a ≠ b) :
    (h.updateArray a f).table b = h.table b := by
  have : a.index ≠ b.index := fun e => hab (by cases a; cases b; simp_all)
  simp [updateArray, table, Array.getElem?_modify, this]

theorem newObject_eq_ok {h h' : Heap} {name : String} {o : Object}
    (made : h.newObject name = .ok (o, h')) :
    o.slot = h.instances.size ∧
      h' = { h with instances := h.instances.push (.object o.className ∅) } := by
  unfold newObject at made
  dsimp only at made
  split at made
  · cases made
    exact ⟨rfl, rfl⟩
  · cases made

theorem newResource_eq_ok {h h' : Heap} {kind : String} {r : Resource}
    (made : h.newResource kind = .ok (r, h')) :
    r.slot = h.instances.size ∧
      h' = { h with instances := h.instances.push (.resource r.kind) } := by
  unfold newResource at made
  split at made
  · cases made
    exact ⟨rfl, rfl⟩
  · cases made

/-! ## Histories of arrays in a heap

Pushes and inserts on several arrays of one heap, in the order in which they come. Each array goes
through the operations that are for it.
-/

open Table (Update)

/-- An operation on one array. -/
def update (h : Heap) (a : ArrayRef) : Update → Heap
  | .push v => h.push a v
  | .insert k v => h.insert a k v

/-- Operations one after the other, each with the array that it is for. -/
def updateAll (h : Heap) (steps : List (ArrayRef × Update)) : Heap :=
  steps.foldl (fun h step => h.update step.1 step.2) h

/-- The operations that are for one array, in their order. -/
def updatesOf (a : ArrayRef) (steps : List (ArrayRef × Update)) : List Update :=
  (steps.filter fun step => step.1 = a).map Prod.snd

variable {h : Heap} {a b : ArrayRef} {steps : List (ArrayRef × Update)}

theorem update_eq_updateArray (h : Heap) (a : ArrayRef) (u : Update) :
    h.update a u = h.updateArray a (·.apply u) := by
  cases u <;> rfl

@[simp] theorem updateAll_nil (h : Heap) : h.updateAll [] = h := rfl

@[simp] theorem updateAll_cons (h : Heap) (step : ArrayRef × Update)
    (steps : List (ArrayRef × Update)) :
    h.updateAll (step :: steps) = (h.update step.1 step.2).updateAll steps := rfl

@[simp] theorem updatesOf_nil (a : ArrayRef) : updatesOf a [] = [] := rfl

theorem updatesOf_cons_self (a : ArrayRef) (u : Update) (steps : List (ArrayRef × Update)) :
    updatesOf a ((a, u) :: steps) = u :: updatesOf a steps := by
  simp [updatesOf]

theorem updatesOf_cons_of_ne (other : b ≠ a) (u : Update) (steps : List (ArrayRef × Update)) :
    updatesOf a ((b, u) :: steps) = updatesOf a steps := by
  simp [updatesOf, other]

theorem mem_updatesOf {u : Update} : u ∈ updatesOf a steps ↔ (a, u) ∈ steps := by
  simp [updatesOf]

theorem size_arrays_update (h : Heap) (a : ArrayRef) (u : Update) :
    (h.update a u).arrays.size = h.arrays.size := by
  rw [update_eq_updateArray, updateArray, Array.size_modify]

theorem table_updateAll (array : a.index < h.arrays.size) :
    (h.updateAll steps).table a = (h.table a).applyAll (updatesOf a steps) := by
  induction steps generalizing h with
  | nil => rfl
  | cons step steps ih =>
    obtain ⟨b, u⟩ := step
    rw [updateAll_cons, ih (by rwa [size_arrays_update]), update_eq_updateArray]
    by_cases here : b = a
    · subst here
      rw [table_updateArray_self h _ array, updatesOf_cons_self, Table.applyAll_cons]
    · rw [table_updateArray_of_ne h _ here, updatesOf_cons_of_ne here]

theorem table_updateAll_of_forall_ne (others : ∀ step ∈ steps, step.1 ≠ a) :
    (h.updateAll steps).table a = h.table a := by
  induction steps generalizing h with
  | nil => rfl
  | cons step steps ih =>
    obtain ⟨other, others⟩ := List.forall_mem_cons.1 others
    rw [updateAll_cons, ih others, update_eq_updateArray, table_updateArray_of_ne h _ other]

theorem instances_updateAll (h : Heap) (steps : List (ArrayRef × Update)) :
    (h.updateAll steps).instances = h.instances := by
  induction steps generalizing h with
  | nil => rfl
  | cons step steps ih =>
    rw [updateAll_cons, ih, update_eq_updateArray, updateArray]

/-! ## Heaps that operations lead to

A caller holds values whose handles were made in this heap. `Built` collects the heaps that come
about when such values alone are put into arrays and fields.
-/

/-- A value that a caller of this heap can hold: its handle names a cell of the heap, with the class
or kind that the cell has. -/
def Owns (h : Heap) : Value → Prop
  | .array a => a.index < h.arrays.size
  | .object o => ∃ fields, h.instances[o.slot]? = some (.object o.className fields)
  | .resource r => h.instances[r.slot]? = some (.resource r.kind)
  | _ => True

/-- The heaps that come about by the operations on heaps. -/
inductive Built : Heap → Prop where
  | empty : Built .empty
  | newList {h : Heap} {vs : List Value} (built : Built h) (owned : ∀ v ∈ vs, h.Owns v) :
    Built (h.newList vs).2
  | newObject {h h' : Heap} {name : String} {o : Object} (built : Built h)
    (made : h.newObject name = .ok (o, h')) : Built h'
  | newResource {h h' : Heap} {kind : String} {r : Resource} (built : Built h)
    (made : h.newResource kind = .ok (r, h')) : Built h'
  | push {h : Heap} {a : ArrayRef} {v : Value} (built : Built h) (array : h.Owns (.array a))
    (owned : h.Owns v) : Built (h.push a v)
  | insert {h : Heap} {a : ArrayRef} {k : Key} {v : Value} (built : Built h)
    (array : h.Owns (.array a)) (owned : h.Owns v) : Built (h.insert a k v)
  | setField {h : Heap} {o : Object} {name : String} {v : Value} (built : Built h)
    (object : h.Owns (.object o)) (owned : h.Owns v) : Built (h.setField o name v)

end Heap

end RuntimeTypes
