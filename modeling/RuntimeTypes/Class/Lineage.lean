import RuntimeTypes.Reach

/-!
# Lineages

Everything a class is and every trait it carries. The parents are followed from the class on, until
there is none or one comes up again. On the way each class adds itself, its interfaces and what
these lead to, and its traits and what those lead to; a name that an earlier class has added is not
followed again. The class is iterable or invocable as soon as one of its supertypes is.
-/

namespace RuntimeTypes

/-! ## Sources of class relations

What is asked about a name: its parent, its interfaces, its traits, and whether instances can be
iterated or invoked. No chain of parents, interfaces or traits may go on to ever new names; chains
that return to a name are fine.
-/

/-- A source of the direct relations between names. -/
structure Provider where
  parent : String → Option String
  interfaces : String → List String
  traits : String → List String
  iterable : String → Bool
  invocable : String → Bool
  parent_bounded : Bounded fun c => (parent c).toList
  interfaces_bounded : Bounded interfaces
  traits_bounded : Bounded traits

namespace Provider

/-- The parents of a name: one or none. -/
def parents (p : Provider) (c : String) : List String :=
  (p.parent c).toList

theorem parents_bounded (p : Provider) : Bounded p.parents :=
  p.parent_bounded

/-- The same relations, with nothing iterable and nothing invocable. -/
def withoutFlags (p : Provider) : Provider :=
  { p with iterable := fun _ => false, invocable := fun _ => false }

end Provider

/-! ## The way up from a class -/

/-- What is known of a class as a whole. -/
structure Lineage where
  /-- The class itself, its ancestors, and all their interfaces. -/
  supertypes : Std.ExtTreeSet String
  /-- The traits that the class or an ancestor uses, directly or through other traits. -/
  traits : Std.ExtTreeSet String
  iterable : Bool
  invocable : Bool
  deriving DecidableEq

namespace Lineage

/-- Whether the class is, extends or implements a name. -/
def isA (l : Lineage) (name : String) : Bool :=
  l.supertypes.contains name

def usesTrait (l : Lineage) (name : String) : Bool :=
  l.traits.contains name

end Lineage

/-- What following the parents of a class has collected. -/
structure Ascent where
  /-- The classes passed. -/
  chain : Std.ExtTreeSet String := ∅
  /-- The classes passed and all their interfaces. -/
  supertypes : Std.ExtTreeSet String := ∅
  traits : Std.ExtTreeSet String := ∅

namespace Provider

/-- Passes one class on the way up. -/
def pass (p : Provider) (s : Ascent) (c : String) : Ascent where
  chain := s.chain.insert c
  supertypes := spread p.interfaces_bounded (s.supertypes.insert c) (p.interfaces c)
  traits := spread p.traits_bounded s.traits (p.traits c)

/-- Goes up from `current`, which the parents of `start` lead to. -/
def ascend (p : Provider) (start : String) (s : Ascent) (current : Option String)
    (within : ∀ c ∈ current, c ∈ hull p.parents_bounded [start]) : Ascent :=
  match current with
  | none => s
  | some c =>
    if c ∈ s.chain then s
    else
      p.ascend start (p.pass s c) (p.parent c) fun d hd =>
        closed_hull p.parents_bounded [start] c (within c rfl) d (Option.mem_toList.2 hd)
termination_by unseen (hull p.parents_bounded [start]) s.chain
decreasing_by exact unseen_insert_lt (within c rfl) ‹_›

def ascent (p : Provider) (c : String) : Ascent :=
  p.ascend c {} (some c) fun _ hd =>
    Option.some.inj hd ▸ mem_hull p.parents_bounded (List.mem_singleton.2 rfl)

def lineage (p : Provider) (c : String) : Lineage :=
  let s := p.ascent c
  { supertypes := s.supertypes
    traits := s.traits
    iterable := s.supertypes.toList.any p.iterable
    invocable := s.supertypes.toList.any p.invocable }

end Provider

end RuntimeTypes
