import RuntimeTypes.Class.Lineage
import RuntimeTypes.Name
import Std.Data.ExtTreeMap

/-!
# The registry of declarations

Declarations by name. Declaring a name again replaces what was declared before. A name without a
declaration refers to nothing.
-/

namespace RuntimeTypes

/-! ## Declarations

What is declared about a class, an interface or a trait: its name and the names it refers to. All
names are brought to normal form when they are given, and none is checked; a name can stand for
anything that is declared later, or never.
-/

/-- The declaration of a class, an interface or a trait. -/
structure Declaration where
  name : String
  parent : Option String
  /-- The interfaces that it implements, or, for an interface, extends. -/
  interfaces : List String
  traits : List String
  iterable : Bool
  invocable : Bool
  deriving DecidableEq, Repr

namespace Declaration

/-- A declaration that refers to nothing. -/
def ofName (name : String) : Declaration :=
  ⟨Name.normalize name, none, [], [], false, false⟩

def withParent (d : Declaration) (name : String) : Declaration :=
  { d with parent := some (Name.normalize name) }

def withInterface (d : Declaration) (name : String) : Declaration :=
  { d with interfaces := d.interfaces ++ [Name.normalize name] }

def withTrait (d : Declaration) (name : String) : Declaration :=
  { d with traits := d.traits ++ [Name.normalize name] }

def withIteration (d : Declaration) : Declaration :=
  { d with iterable := true }

def withInvocation (d : Declaration) : Declaration :=
  { d with invocable := true }

end Declaration

/-! ## The registry -/

/-- The declarations made so far, by name. -/
structure Registry where
  declarations : Std.ExtTreeMap String Declaration

namespace Registry

def empty : Registry := ⟨∅⟩

/-- Adds a declaration, in place of an earlier one of the same name. -/
def declare (r : Registry) (d : Declaration) : Registry :=
  ⟨r.declarations.insert d.name d⟩

def get? (r : Registry) (name : String) : Option Declaration :=
  r.declarations[name]?

def size (r : Registry) : Nat :=
  r.declarations.size

def isEmpty (r : Registry) : Bool :=
  r.declarations.isEmpty

theorem bounded_of_get? (r : Registry) {next : String → List String}
    (h : ∀ c, r.get? c = none → next c = []) : Bounded next := by
  refine .of_support r.declarations.keys fun c hc => ?_
  rw [Std.ExtTreeMap.mem_keys]
  refine Decidable.byContradiction fun hn => hc (h c ?_)
  exact Std.ExtTreeMap.getElem?_eq_none hn

/-- The relations that are declared. -/
def provider (r : Registry) : Provider where
  parent c := (r.get? c).bind Declaration.parent
  interfaces c := ((r.get? c).map Declaration.interfaces).getD []
  traits c := ((r.get? c).map Declaration.traits).getD []
  iterable c := (r.get? c).any Declaration.iterable
  invocable c := (r.get? c).any Declaration.invocable
  parent_bounded := r.bounded_of_get? fun c h => by simp [h]
  interfaces_bounded := r.bounded_of_get? fun c h => by simp [h]
  traits_bounded := r.bounded_of_get? fun c h => by simp [h]

theorem get?_empty (c : String) : empty.get? c = none := by
  simp [empty, get?]

theorem get?_declare (r : Registry) (d : Declaration) (c : String) :
    (r.declare d).get? c = if d.name = c then some d else r.get? c := by
  simp [declare, get?, Std.ExtTreeMap.getElem?_insert]

end Registry

end RuntimeTypes
