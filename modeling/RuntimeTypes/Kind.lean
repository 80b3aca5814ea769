/-!
# Kinds and pseudotypes

Every value has one of eight basic kinds. Pseudotypes are names for categories of values that are
wider than one kind, or narrower. Both have a reserved name, as it stands in type texts, by which no
class can be called, and a tag, as it stands in documents.
-/

namespace RuntimeTypes

theorem find?_text {α : Type} (text : α → String) {members : List α} {x : α}
    (apart : (members.map text).Nodup) (mem : x ∈ members) :
    members.find? (text · = text x) = some x := by
  induction members with
  | nil => cases mem
  | cons y ys ih =>
    rw [List.map_cons, List.nodup_cons] at apart
    rcases List.mem_cons.1 mem with rfl | mem
    · simp
    · have other : text y ≠ text x := fun same => apart.1 (same ▸ List.mem_map_of_mem mem)
      rw [List.find?_cons_of_neg (by simpa using other), ih apart.2 mem]

/-! ## Kinds -/

/-- The basic kind of a value. -/
inductive Kind where
  | null
  | bool
  | int
  | float
  | string
  | array
  | object
  | resource
  deriving DecidableEq, Repr

namespace Kind

/-- Every kind, in declaration order. -/
def all : List Kind :=
  [null, bool, int, float, string, array, object, resource]

def name : Kind → String
  | null => "null"
  | bool => "bool"
  | int => "int"
  | float => "float"
  | string => "string"
  | array => "array"
  | object => "object"
  | resource => "resource"

/-- The tag of a kind in documents. -/
def tag : Kind → String
  | null => "Null"
  | bool => "Bool"
  | int => "Int"
  | float => "Float"
  | string => "String"
  | array => "Array"
  | object => "Object"
  | resource => "Resource"

def index (k : Kind) : Nat :=
  all.idxOf k

/-- The kind with the given reserved name. Case matters. -/
def ofName? (name : String) : Option Kind :=
  all.find? (·.name = name)

def ofTag? (tag : String) : Option Kind :=
  all.find? (·.tag = tag)

/-- The kinds that the pseudotype `scalar` covers. -/
def isScalar : Kind → Bool
  | bool | int | float | string => true
  | null | array | object | resource => false

theorem mem_all (k : Kind) : k ∈ all := by
  cases k <;> decide

theorem index_lt (k : Kind) : k.index < all.length :=
  List.idxOf_lt_length_of_mem (mem_all k)

theorem index_inj {k l : Kind} (h : k.index = l.index) : k = l := by
  have found (k : Kind) : all[k.index]? = some k := by
    rw [List.getElem?_eq_getElem (index_lt k)]
    exact congrArg some (List.getElem_idxOf (index_lt k))
  exact Option.some.inj ((found k).symm.trans (h ▸ found l))

theorem ofName?_name (k : Kind) : ofName? k.name = some k :=
  find?_text name (by decide) (mem_all k)

theorem name_of_ofName? {s : String} {k : Kind} (h : ofName? s = some k) : k.name = s := by
  simpa using List.find?_some h

theorem ofTag?_tag (k : Kind) : ofTag? k.tag = some k :=
  find?_text tag (by decide) (mem_all k)

end Kind

/-! ## Pseudotypes -/

/-- A category of values that has a reserved name. -/
inductive Pseudotype where
  | mixed
  /-- Booleans, integers, floats and strings. -/
  | scalar
  /-- Integers and floats. -/
  | number
  /-- Integers from zero up. -/
  | uint
  /-- Arrays, and objects that can be iterated. -/
  | iterable
  /-- Objects that can be invoked. -/
  | callable
  deriving DecidableEq, Repr

namespace Pseudotype

/-- Every pseudotype, in declaration order. -/
def all : List Pseudotype :=
  [mixed, scalar, number, uint, iterable, callable]

def name : Pseudotype → String
  | mixed => "mixed"
  | scalar => "scalar"
  | number => "number"
  | uint => "uint"
  | iterable => "iterable"
  | callable => "callable"

/-- The tag of a pseudotype in documents. -/
def tag : Pseudotype → String
  | mixed => "Mixed"
  | scalar => "Scalar"
  | number => "Number"
  | uint => "Uint"
  | iterable => "Iterable"
  | callable => "Callable"

def index (p : Pseudotype) : Nat :=
  all.idxOf p

/-- The pseudotype with the given reserved name. Case matters. -/
def ofName? (name : String) : Option Pseudotype :=
  all.find? (·.name = name)

def ofTag? (tag : String) : Option Pseudotype :=
  all.find? (·.tag = tag)

theorem mem_all (p : Pseudotype) : p ∈ all := by
  cases p <;> decide

theorem index_lt (p : Pseudotype) : p.index < all.length :=
  List.idxOf_lt_length_of_mem (mem_all p)

theorem index_inj {p q : Pseudotype} (h : p.index = q.index) : p = q := by
  have found (p : Pseudotype) : all[p.index]? = some p := by
    rw [List.getElem?_eq_getElem (index_lt p)]
    exact congrArg some (List.getElem_idxOf (index_lt p))
  exact Option.some.inj ((found p).symm.trans (h ▸ found q))

theorem ofName?_name (p : Pseudotype) : ofName? p.name = some p :=
  find?_text name (by decide) (mem_all p)

theorem name_of_ofName? {s : String} {p : Pseudotype} (h : ofName? s = some p) : p.name = s := by
  simpa using List.find?_some h

theorem ofTag?_tag (p : Pseudotype) : ofTag? p.tag = some p :=
  find?_text tag (by decide) (mem_all p)

end Pseudotype

end RuntimeTypes
