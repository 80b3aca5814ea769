import RuntimeTypes.TypeSet.Basic

/-!
# Histories of a set

A set grows by specifications, single tokens and other sets. Here the three are data, so that one
can speak of all sets that a sequence of them leads to. A specification with a fault leaves the set
as it is.

A token can be built from any text, but mostly tokens are read or taken from values. `Produced`
collects these, and the sets that grow by them alone.
-/

namespace RuntimeTypes

namespace TypeSet

/-- A way for a set to grow. -/
inductive Growth where
  | add (spec : TypeSpec)
  | insert (t : Token)
  | union (s : TypeSet)

def Growth.tokens : Growth → List Token
  | add spec =>
    match spec.parse with
    | .ok ts => ts
    | .error _ => []
  | insert t => [t]
  | union s => s.toList

def grow (s : TypeSet) : Growth → TypeSet
  | .add spec =>
    match s.add spec with
    | .ok s' => s'
    | .error _ => s
  | .insert t => s.insert t
  | .union t => s.union t

def growAll (s : TypeSet) (gs : List Growth) : TypeSet :=
  gs.foldl grow s

theorem add_eq_ok {s : TypeSet} {spec : TypeSpec} {ts : List Token} (h : spec.parse = .ok ts) :
    s.add spec = .ok (s.insertAll ts) := by
  rw [add, h]
  rfl

theorem add_eq_error {s : TypeSet} {spec : TypeSpec} {e : Error} (h : spec.parse = .error e) :
    s.add spec = .error e := by
  rw [add, h]
  rfl

theorem containsAll_eq_map (s : TypeSet) (spec : TypeSpec) :
    s.containsAll spec = spec.parse.map (·.all s.contains) := by
  rw [containsAll]
  cases spec.parse <;> rfl

theorem containsAny_eq_map (s : TypeSet) (spec : TypeSpec) :
    s.containsAny spec = spec.parse.map (·.any s.contains) := by
  rw [containsAny]
  cases spec.parse <;> rfl

theorem containsOnly_eq_map (s : TypeSet) (spec : TypeSpec) :
    s.containsOnly spec = spec.parse.map fun ts => decide (ofTokens ts = s) := by
  rw [containsOnly]
  cases spec.parse <;> rfl

theorem grow_eq_insertAll (s : TypeSet) (g : Growth) : s.grow g = s.insertAll g.tokens := by
  cases g with
  | add spec =>
    cases h : spec.parse with
    | ok ts => simp [grow, Growth.tokens, h, add_eq_ok h]
    | error e => simp [grow, Growth.tokens, h, add_eq_error h, insertAll]
  | insert t => rfl
  | union t => rfl

end TypeSet

/-- The tokens that reading a name, reading a specification, or naming the type of a value gives. -/
inductive Token.Produced : Token → Prop where
  | name {text : String} {t : Token} (read : Token.parse text = .ok t) : Produced t
  | spec {spec : TypeSpec} {ts : List Token} {t : Token} (read : spec.parse = .ok ts)
    (mem : t ∈ ts) : Produced t
  | value (v : Value) : Produced (.ofValue v)

/-- The sets that come about by specifications and produced tokens. -/
inductive TypeSet.Produced : TypeSet → Prop where
  | empty : Produced .empty
  | ofSpec {spec : TypeSpec} {s : TypeSet} (made : TypeSet.ofSpec spec = .ok s) : Produced s
  | ofText {text : String} {s : TypeSet} (made : TypeSet.ofText text = .ok s) : Produced s
  | ofTokens {ts : List Token} (produced : ∀ t ∈ ts, t.Produced) : Produced (.ofTokens ts)
  | add {s s' : TypeSet} {spec : TypeSpec} (grown : Produced s) (made : s.add spec = .ok s') :
    Produced s'
  | insert {s : TypeSet} {t : Token} (grown : Produced s) (produced : t.Produced) :
    Produced (s.insert t)
  | union {s t : TypeSet} (grown : Produced s) (other : Produced t) : Produced (s.union t)

end RuntimeTypes
