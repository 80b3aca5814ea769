import RuntimeTypes.Spec.Basic

/-!
# Constraint sets

The tokens that a container enforces, without repetition and in the order of tokens. A set without
tokens, and one that holds `mixed`, accepts every value. Sets only grow.
-/

namespace RuntimeTypes

structure TypeSet where
  tokens : Std.ExtTreeSet Token
  deriving DecidableEq

namespace TypeSet

/-- The set without tokens, which accepts every value. -/
def empty : TypeSet := ⟨∅⟩

def contains (s : TypeSet) (t : Token) : Bool :=
  s.tokens.contains t

def insert (s : TypeSet) (t : Token) : TypeSet :=
  ⟨s.tokens.insert t⟩

def insertAll (s : TypeSet) (ts : List Token) : TypeSet :=
  ts.foldl insert s

def toList (s : TypeSet) : List Token :=
  s.tokens.toList

def size (s : TypeSet) : Nat :=
  s.tokens.size

def isEmpty (s : TypeSet) : Bool :=
  s.tokens.isEmpty

def ofTokens (ts : List Token) : TypeSet :=
  empty.insertAll ts

def union (s t : TypeSet) : TypeSet :=
  s.insertAll t.toList

/-- Adds every token of a specification. A specification with a fault adds none. -/
def add (s : TypeSet) (spec : TypeSpec) : Except Error TypeSet :=
  return s.insertAll (← spec.parse)

def ofSpec (spec : TypeSpec) : Except Error TypeSet :=
  empty.add spec

def ofText (text : String) : Except Error TypeSet :=
  ofSpec (.union text)

/-- Whether every token of a specification is in the set. -/
def containsAll (s : TypeSet) (spec : TypeSpec) : Except Error Bool :=
  return (← spec.parse).all s.contains

/-- Whether some token of a specification is in the set. -/
def containsAny (s : TypeSet) (spec : TypeSpec) : Except Error Bool :=
  return (← spec.parse).any s.contains

/-- Whether the set holds the tokens of a specification and no other. -/
def containsOnly (s : TypeSet) (spec : TypeSpec) : Except Error Bool :=
  return ofTokens (← spec.parse) = s

def acceptsAny (s : TypeSet) : Bool :=
  s.isEmpty || s.contains (.pseudo .mixed)

def acceptsNull (s : TypeSet) : Bool :=
  s.contains (.basic .null) || s.acceptsAny

/-- The set as a type text. A set without tokens reads `mixed`. -/
def render (s : TypeSet) : String :=
  if s.isEmpty then Pseudotype.mixed.name else "|".intercalate (s.toList.map Token.render)

/-- The set as it shows in messages about sets. -/
def renderLong (s : TypeSet) : String :=
  "TypeConstraintSet(" ++ s.render ++ ")"

/-! ## Membership -/

theorem contains_insert (s : TypeSet) (t u : Token) :
    (s.insert t).contains u = true ↔ u = t ∨ s.contains u = true := by
  simp only [contains, insert, Std.ExtTreeSet.contains_insert, Bool.or_eq_true, beq_iff_eq,
    Std.compare_eq_iff_eq]
  exact or_congr eq_comm Iff.rfl

theorem contains_insertAll (s : TypeSet) (ts : List Token) (u : Token) :
    (s.insertAll ts).contains u = true ↔ u ∈ ts ∨ s.contains u = true := by
  induction ts generalizing s with
  | nil => simp [insertAll]
  | cons t ts ih =>
    rw [insertAll, List.foldl_cons, ← insertAll, ih, contains_insert, List.mem_cons]
    grind

theorem mem_toList (s : TypeSet) (t : Token) : t ∈ s.toList ↔ s.contains t = true := by
  simp [toList, contains]

theorem isEmpty_eq_false_iff (s : TypeSet) :
    s.isEmpty = false ↔ ∃ t, s.contains t = true := by
  simp only [← mem_toList, toList]
  rw [isEmpty, ← Std.ExtTreeSet.isEmpty_toList, List.isEmpty_eq_false_iff_exists_mem]

theorem contains_insert_self (s : TypeSet) (t : Token) : (s.insert t).contains t = true :=
  (contains_insert s t t).2 (Or.inl rfl)

theorem isEmpty_insert (s : TypeSet) (t : Token) : (s.insert t).isEmpty = false :=
  (isEmpty_eq_false_iff _).2 ⟨t, contains_insert_self s t⟩

theorem contains_union (s t : TypeSet) (u : Token) :
    (s.union t).contains u = true ↔ t.contains u = true ∨ s.contains u = true := by
  rw [union, contains_insertAll, mem_toList]

theorem ext_contains {s t : TypeSet}
    (h : ∀ u, s.contains u = true ↔ t.contains u = true) : s = t := by
  obtain ⟨s⟩ := s
  obtain ⟨t⟩ := t
  exact congrArg mk (Std.ExtTreeSet.ext_mem fun u => by simpa [contains] using h u)

theorem contains_empty (t : Token) : empty.contains t = false :=
  Std.ExtTreeSet.contains_empty

theorem contains_ofTokens (ts : List Token) (t : Token) :
    (ofTokens ts).contains t = true ↔ t ∈ ts := by
  simp [ofTokens, contains_insertAll, contains_empty]

theorem ofTokens_eq_iff {s : TypeSet} {ts : List Token} :
    ofTokens ts = s ↔ ∀ t, t ∈ ts ↔ s.contains t = true := by
  simp only [← contains_ofTokens]
  exact ⟨fun same t => same ▸ Iff.rfl, ext_contains⟩

theorem ofTokens_toList (s : TypeSet) : ofTokens s.toList = s :=
  ofTokens_eq_iff.2 (mem_toList s)

theorem insertAll_eq_self_iff {s : TypeSet} {ts : List Token} :
    s.insertAll ts = s ↔ ∀ t ∈ ts, s.contains t = true := by
  constructor
  · intro same t mem
    rw [← same]
    exact (contains_insertAll s ts t).2 (Or.inl mem)
  · intro held
    refine ext_contains fun t => ?_
    rw [contains_insertAll]
    exact or_iff_right_of_imp (held t)

/-! ## Null and every value -/

theorem acceptsAny_iff {s : TypeSet} :
    s.acceptsAny = true ↔ s.isEmpty = true ∨ s.contains (.pseudo .mixed) = true :=
  Bool.or_eq_true_iff

theorem acceptsNull_iff {s : TypeSet} :
    s.acceptsNull = true ↔ s.contains (.basic .null) = true ∨ s.acceptsAny = true :=
  Bool.or_eq_true_iff

end TypeSet

/-! ## Choices that may give nothing -/

theorem isSome_ite_some {α : Type} {c : Prop} [Decidable c] {a : α} {o : Option α} :
    (if c then some a else o).isSome = true ↔ c ∨ o.isSome = true := by
  split <;> simp [*]

theorem or_of_ite_eq_some {α : Type} {c : Prop} [Decidable c] {a b : α} {o : Option α}
    (found : (if c then some a else o) = some b) : c ∧ b = a ∨ o = some b := by
  split at found
  · exact Or.inl ⟨‹_›, (Option.some.inj found).symm⟩
  · exact Or.inr found

end RuntimeTypes
