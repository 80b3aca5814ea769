import RuntimeTypes.TypeSet.Basic

/-!
# Default values

A zero value that a constraint set accepts: null where null is accepted, then `false`, the integer
zero, the float zero, the empty string and a new empty array, whichever is accepted first. A set
that accepts none of these has no default. Each choice goes by tokens that cover the zero, and every
token that covers a zero is among them.
-/

namespace RuntimeTypes

namespace TypeSet

/-- The kind of the default value of a set. -/
def defaultKind? (s : TypeSet) : Option Kind :=
  if s.acceptsNull then some .null
  else if s.contains (.basic .bool) then some .bool
  else if s.contains (.basic .int) || s.contains (.pseudo .uint) ||
      s.contains (.pseudo .number) || s.contains (.pseudo .scalar) then some .int
  else if s.contains (.basic .float) then some .float
  else if s.contains (.basic .string) then some .string
  else if s.contains (.basic .array) || s.contains (.pseudo .iterable) then some .array
  else none

end TypeSet

namespace Heap

/-- The zero value of a kind. Arrays are made anew; objects and resources have no zero. -/
def zero? (h : Heap) : Kind → Option (Value × Heap)
  | .null => some (.null, h)
  | .bool => some (.bool false, h)
  | .int => some (.int 0, h)
  | .float => some (.float 0, h)
  | .string => some (.string "", h)
  | .array =>
    let (a, h) := h.newArray .empty
    some (.array a, h)
  | .object => none
  | .resource => none

end Heap

/-- The default value of a set, in a heap where it is present. -/
def TypeSet.inferDefault? (s : TypeSet) (h : Heap) : Option (Value × Heap) :=
  s.defaultKind?.bind h.zero?

/-! ## The tokens that a default is looked up by -/

/-- The kinds whose values have a zero: all but objects and resources. -/
def Kind.withZero : List Kind :=
  [.null, .bool, .int, .float, .string, .array]

/-- The kind whose zero a token stands for. Tokens that cover objects or resources alone stand for
none. -/
def Token.zeroKind? : Token → Option Kind
  | .basic .object | .basic .resource => none
  | .basic kind => some kind
  | .pseudo .mixed => some .null
  | .pseudo .scalar | .pseudo .number | .pseudo .uint => some .int
  | .pseudo .iterable => some .array
  | .pseudo .callable => none
  | .resource _ | .named _ => none

namespace Heap

variable {h h' : Heap} {k : Kind} {v : Value}

theorem kind_of_zero? (zero : h.zero? k = some (v, h')) : v.kind = k := by
  cases k <;> cases zero <;> rfl

theorem isSome_zero?_iff : (h.zero? k).isSome = true ↔ k ∈ Kind.withZero := by
  cases k <;> simp [zero?, Kind.withZero]

end Heap

theorem Token.mem_withZero_of_zeroKind? {t : Token} {k : Kind} (stands : t.zeroKind? = some k) :
    k ∈ Kind.withZero := by
  cases t with
  | basic kind => cases kind <;> cases stands <;> decide
  | pseudo category => cases category <;> cases stands <;> decide
  | _ => cases stands

namespace TypeSet

variable {s : TypeSet} {k : Kind}

/-- The kind of a default is the one that a token of the set stands for, unless there is no token. -/
theorem exists_token_of_defaultKind? (found : s.defaultKind? = some k) :
    s.isEmpty = true ∧ k = .null ∨ ∃ t, s.contains t = true ∧ t.zeroKind? = some k := by
  unfold defaultKind? at found
  rcases or_of_ite_eq_some found with ⟨null, rfl⟩ | found
  · rcases acceptsNull_iff.1 null with own | any
    · exact Or.inr ⟨_, own, rfl⟩
    · rcases acceptsAny_iff.1 any with none | mixed
      · exact Or.inl ⟨none, rfl⟩
      · exact Or.inr ⟨_, mixed, rfl⟩
  rcases or_of_ite_eq_some found with ⟨bool, rfl⟩ | found
  · exact Or.inr ⟨_, bool, rfl⟩
  rcases or_of_ite_eq_some found with ⟨int, rfl⟩ | found
  · simp only [Bool.or_eq_true] at int
    rcases int with ((own | uint) | number) | scalar
    · exact Or.inr ⟨_, own, rfl⟩
    · exact Or.inr ⟨_, uint, rfl⟩
    · exact Or.inr ⟨_, number, rfl⟩
    · exact Or.inr ⟨_, scalar, rfl⟩
  rcases or_of_ite_eq_some found with ⟨float, rfl⟩ | found
  · exact Or.inr ⟨_, float, rfl⟩
  rcases or_of_ite_eq_some found with ⟨string, rfl⟩ | found
  · exact Or.inr ⟨_, string, rfl⟩
  rcases or_of_ite_eq_some found with ⟨array, rfl⟩ | found
  · rcases Bool.or_eq_true_iff.1 array with own | iterable
    · exact Or.inr ⟨_, own, rfl⟩
    · exact Or.inr ⟨_, iterable, rfl⟩
  · cases found

theorem isSome_defaultKind?_iff :
    s.defaultKind?.isSome = true ↔
      s.isEmpty = true ∨ ∃ t, s.contains t = true ∧ t.zeroKind?.isSome = true := by
  constructor
  · intro found
    obtain ⟨k, found⟩ := Option.isSome_iff_exists.1 found
    rcases exists_token_of_defaultKind? found with ⟨none, _⟩ | ⟨t, ht, stands⟩
    · exact Or.inl none
    · exact Or.inr ⟨t, ht, Option.isSome_of_eq_some stands⟩
  · simp only [defaultKind?, isSome_ite_some, Bool.or_eq_true, acceptsNull_iff, acceptsAny_iff]
    rintro (none | ⟨t, ht, stands⟩)
    · simp [none]
    · cases t with
      | basic kind =>
        cases kind with
        | object | resource => cases stands
        | _ => simp [ht]
      | pseudo category =>
        cases category with
        | callable => cases stands
        | _ => simp [ht]
      | _ => cases stands

theorem isSome_inferDefault?_iff (heap : Heap) :
    (s.inferDefault? heap).isSome = true ↔ s.defaultKind?.isSome = true := by
  rw [inferDefault?]
  cases found : s.defaultKind? with
  | none => simp
  | some k =>
    have zero : k ∈ Kind.withZero := by
      rcases exists_token_of_defaultKind? found with ⟨_, rfl⟩ | ⟨t, _, stands⟩
      · decide
      · exact Token.mem_withZero_of_zeroKind? stands
    rw [Option.bind_some, Heap.isSome_zero?_iff]
    exact iff_of_true zero rfl

end TypeSet

end RuntimeTypes
