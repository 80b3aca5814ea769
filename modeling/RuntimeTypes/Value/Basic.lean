import RuntimeTypes.Name

/-!
# Values

A value is a scalar or a handle. Arrays, objects and resources are shared: a value names the cell
that holds them, and copying the value copies the name. The cells themselves live in a heap.
-/

namespace RuntimeTypes

/-! ## Array keys

A key is an integer or a text. Texts that spell numbers stay texts. Integers come before texts,
integers in numeric order and texts in the order of their code points.
-/

/-- The key of an array entry. -/
inductive Key where
  | int (n : Int64)
  | text (s : String)
  deriving DecidableEq, Repr

namespace Key

def compareKeys : Key → Key → Ordering
  | int m, int n => compare m n
  | int _, text _ => .lt
  | text _, int _ => .gt
  | text s, text t => compare s t

instance : Ord Key := ⟨compareKeys⟩

end Key

/-! ## Values and handles -/

/-- The name of a shared array: its place among the arrays of the heap. -/
structure ArrayRef where
  index : Nat
  deriving DecidableEq, Repr

/-- Names of arrays are ordered by their places. -/
instance : Ord ArrayRef := ⟨compareOn ArrayRef.index⟩

instance : Std.TransOrd ArrayRef :=
  inferInstanceAs (Std.TransCmp (compareOn ArrayRef.index))

instance : Std.LawfulEqOrd ArrayRef where
  eq_of_compare {a b} h := by
    have same : a.index = b.index := Std.LawfulEqOrd.eq_of_compare h
    cases a
    exact congrArg ArrayRef.mk same

/-- The identity number of an object or a resource. -/
structure InstanceId where
  number : UInt64
  deriving DecidableEq, Repr

namespace InstanceId

/-- Objects and resources are numbered together, from one, in the order of their creation. The
numbers are words, so after `2 ^ 64 - 1` instances they start over at zero. -/
def ofSlot (slot : Nat) : InstanceId :=
  ⟨UInt64.ofNat (slot + 1)⟩

end InstanceId

/-- A handle to an object: its place among the instances of the heap, and its class. -/
structure Object where
  slot : Nat
  className : ClassName
  deriving DecidableEq

/-- A handle to a resource: its place among the instances of the heap, and its kind. -/
structure Resource where
  slot : Nat
  kind : ResourceKind
  deriving DecidableEq

def Object.id (o : Object) : InstanceId :=
  .ofSlot o.slot

def Resource.id (r : Resource) : InstanceId :=
  .ofSlot r.slot

inductive Value where
  | null
  | bool (b : Bool)
  | int (n : Int64)
  /-- A float, given by its bits. -/
  | float (bits : UInt64)
  | string (s : String)
  | array (a : ArrayRef)
  | object (o : Object)
  | resource (r : Resource)
  deriving DecidableEq

namespace Value

def kind : Value → Kind
  | null => .null
  | bool _ => .bool
  | int _ => .int
  | float _ => .float
  | string _ => .string
  | array _ => .array
  | object _ => .object
  | resource _ => .resource

def isNull : Value → Bool
  | null => true
  | _ => false

def toBool? : Value → Option Bool
  | bool b => some b
  | _ => none

def toInt? : Value → Option Int64
  | int n => some n
  | _ => none

def toFloatBits? : Value → Option UInt64
  | float bits => some bits
  | _ => none

def toText? : Value → Option String
  | string s => some s
  | _ => none

def toArray? : Value → Option ArrayRef
  | array a => some a
  | _ => none

def toObject? : Value → Option Object
  | object o => some o
  | _ => none

def toResource? : Value → Option Resource
  | resource r => some r
  | _ => none

/-- Whether a value is a handle to a shared cell. -/
def isHandle : Value → Bool
  | array _ | object _ | resource _ => true
  | _ => false

/-- The identity number of an object or a resource. -/
def instanceId? : Value → Option InstanceId
  | object o => some o.id
  | resource r => some r.id
  | _ => none

/-- Whether two values are handles to the same array, the same object or the same resource. There
is no answer unless both are arrays, both objects or both resources. -/
def sameInstance? : Value → Value → Option Bool
  | array a, array b => some (a = b)
  | object o, object p => some (o.slot = p.slot)
  | resource r, resource s => some (r.slot = s.slot)
  | _, _ => none

end Value

end RuntimeTypes
