import RuntimeTypes.Heap.Basic

/-!
# Callers

A caller has a heap, variables, and entries of arrays that it has read and kept. It uses the heap by
the operations on arrays, objects and resources. These are data here, so that one can speak of every
state that a sequence of them leads to. A caller cannot write a handle: it gets one from a
constructor, and then finds it wherever it has put it.
-/

namespace RuntimeTypes

/-- A value as a caller gives it. -/
inductive Operand where
  | plain (v : Value) (noHandle : v.isHandle = false)
  /-- What a variable holds. -/
  | named (name : String)

/-- What a caller can do. The name in front is the variable or the snapshot that takes the result. -/
inductive Action where
  /-- Keeps a value. Of a handle this makes another handle to the same cell. -/
  | assign (name : String) (v : Operand)
  | forget (name : String)
  | newList (name : String) (vs : List Operand)
  | newObject (name className : String)
  | newResource (name kind : String)
  | push (array : String) (v : Operand)
  | insert (array : String) (k : Key) (v : Operand)
  | get (name array : String) (k : Key)
  /-- Keeps the entries of an array as they are now. -/
  | snapshot (name array : String)
  | readBack (name snapshot : String) (position : Nat)
  | setField (object field : String) (v : Operand)
  | getField (name object field : String)

structure Caller where
  heap : Heap := .empty
  /-- The number that the next instance gets. -/
  next : UInt64 := 1
  /-- The numbers of all instances made so far, in the order of their construction. -/
  issued : List InstanceId := []
  vars : Std.ExtTreeMap String Value := ∅
  snapshots : Std.ExtTreeMap String (List (Key × Value)) := ∅

namespace Caller

/-- A caller that has not done anything. -/
def initial : Caller := {}

def operand? (c : Caller) : Operand → Option Value
  | .plain v _ => some v
  | .named name => c.vars[name]?

def array? (c : Caller) (name : String) : Option ArrayRef :=
  c.vars[name]?.bind Value.toArray?

def object? (c : Caller) (name : String) : Option Object :=
  c.vars[name]?.bind Value.toObject?

def withHeap (c : Caller) (h : Heap) : Caller :=
  { c with heap := h }

def keep (c : Caller) (name : String) (v : Value) : Caller :=
  { c with vars := c.vars.insert name v }

/-- Takes in a new instance. It has got the next number. -/
def receive (c : Caller) (name : String) (v : Value) (h : Heap) : Caller :=
  ({ c with heap := h, next := c.next + 1, issued := c.issued ++ [⟨c.next⟩] } : Caller).keep name v

/-- Takes in what a constructor has made, unless it has refused to. -/
def construct? {α : Type} (c : Caller) (name : String) (handle : α → Value) :
    Except Error (α × Heap) → Option Caller
  | .ok (x, h) => some (c.receive name (handle x) h)
  | .error _ => none

/-- What an action leads to. There is no outcome where a variable does not hold what the action
needs, nothing is found, or a constructor refuses its argument. -/
def perform? (c : Caller) : Action → Option Caller
  | .assign name v => do
    let v ← c.operand? v
    return c.keep name v
  | .forget name => some { c with vars := c.vars.erase name }
  | .newList name vs => do
    let vs ← vs.mapM c.operand?
    let made := c.heap.newList vs
    return (c.withHeap made.2).keep name (.array made.1)
  | .newObject name className => c.construct? name .object (c.heap.newObject className)
  | .newResource name kind => c.construct? name .resource (c.heap.newResource kind)
  | .push array v => do
    let a ← c.array? array
    let v ← c.operand? v
    return c.withHeap (c.heap.push a v)
  | .insert array k v => do
    let a ← c.array? array
    let v ← c.operand? v
    return c.withHeap (c.heap.insert a k v)
  | .get name array k => do
    let a ← c.array? array
    let v ← (c.heap.table a).get? k
    return c.keep name v
  | .snapshot name array => do
    let a ← c.array? array
    return { c with snapshots := c.snapshots.insert name (c.heap.entries a) }
  | .readBack name snapshot position => do
    let es ← c.snapshots[snapshot]?
    let e ← es[position]?
    return c.keep name e.2
  | .setField object field v => do
    let o ← c.object? object
    let v ← c.operand? v
    return c.withHeap (c.heap.setField o field v)
  | .getField name object field => do
    let o ← c.object? object
    let v ← c.heap.field? o field
    return c.keep name v

/-- The caller after an action. An action without an outcome leaves it as it is. -/
def perform (c : Caller) (a : Action) : Caller :=
  (c.perform? a).getD c

def performAll (c : Caller) (as : List Action) : Caller :=
  as.foldl perform c

/-- A value that is somewhere in the state: in a variable, in an entry of an array, in a field of an
object, or in a snapshot. -/
inductive Holds (c : Caller) (v : Value) : Prop where
  | inVariable {name : String} (mem : c.vars[name]? = some v)
  | inArray {a : ArrayRef} {k : Key} (mem : (k, v) ∈ c.heap.entries a)
  | inField {o : Object} {name : String} (mem : c.heap.field? o name = some v)
  | inSnapshot {name : String} {es : List (Key × Value)} {k : Key}
    (kept : c.snapshots[name]? = some es) (mem : (k, v) ∈ es)

/-! ## Constructions -/

theorem perform_newObject (c : Caller) (name className : String) :
    c.perform (.newObject name className) =
      (c.construct? name .object (c.heap.newObject className)).getD c := rfl

theorem perform_newResource (c : Caller) (name kind : String) :
    c.perform (.newResource name kind) =
      (c.construct? name .resource (c.heap.newResource kind)).getD c := rfl

theorem construct?_eq_some {α : Type} {c d : Caller} {name : String} {handle : α → Value}
    {made : Except Error (α × Heap)} (outcome : c.construct? name handle made = some d) :
    ∃ x h, made = .ok (x, h) ∧ d = c.receive name (handle x) h := by
  cases made with
  | error e => cases outcome
  | ok result => exact ⟨result.1, result.2, rfl, (Option.some.inj outcome).symm⟩

end Caller

end RuntimeTypes
