import RuntimeTypes.Class.Registry
import RuntimeTypes.Reachable

/-!
# Supertypes and traits of a class

What a class is and what it carries, said by paths along parents, interfaces and traits. Where the
relations are those of a registry, the paths run along what is declared.
-/

namespace RuntimeTypes

open Relation (ReflTransGen TransGen)

namespace Provider

variable {p : Provider} {c d n t : String}

/-- Interfaces lead to the name from the class or from an ancestor. -/
def Supertype (p : Provider) (c n : String) : Prop :=
  ∃ d, Reachable p.parents c d ∧ Reachable p.interfaces d n

/-- The class or an ancestor uses a trait, and uses of traits lead from there to the name. -/
def Carries (p : Provider) (c t : String) : Prop :=
  ∃ d, Reachable p.parents c d ∧ ∃ u ∈ p.traits d, Reachable p.traits u t

theorem mem_parents : d ∈ p.parents c ↔ p.parent c = some d := by
  simp [parents]

theorem Supertype.mem_of_closed {nodes : List String} (parents : Closed p.parents nodes)
    (interfaces : Closed p.interfaces nodes) (start : c ∈ nodes) (above : p.Supertype c n) :
    n ∈ nodes := by
  obtain ⟨d, up, across⟩ := above
  exact interfaces.mem_of_reachable (parents.mem_of_reachable start up) across

theorem Carries.mem_of_closed {nodes carried : List String} (parents : Closed p.parents nodes)
    (uses : ∀ d ∈ nodes, ∀ u ∈ p.traits d, u ∈ carried) (traits : Closed p.traits carried)
    (start : c ∈ nodes) (above : p.Carries c t) : t ∈ carried := by
  obtain ⟨d, up, u, used, further⟩ := above
  exact traits.mem_of_reachable (uses d (parents.mem_of_reachable start up) u used) further

end Provider

namespace Registry

variable {r : Registry} {c d n t : String}

/-! ## Declared relations -/

/-- The first name is declared, and with the second as its parent. -/
def HasParent (r : Registry) (c d : String) : Prop :=
  ∃ declared, r.get? c = some declared ∧ declared.parent = some d

/-- The first name is declared, and with the second among its interfaces. -/
def HasInterface (r : Registry) (c n : String) : Prop :=
  ∃ declared, r.get? c = some declared ∧ n ∈ declared.interfaces

/-- The first name is declared, and with the second among its traits. -/
def HasTrait (r : Registry) (c t : String) : Prop :=
  ∃ declared, r.get? c = some declared ∧ t ∈ declared.traits

theorem mem_parents_provider : d ∈ r.provider.parents c ↔ r.HasParent c d := by
  rw [Provider.mem_parents]
  exact Option.bind_eq_some_iff

theorem mem_interfaces_provider : n ∈ r.provider.interfaces c ↔ r.HasInterface c n := by
  simp only [provider, HasInterface]
  cases r.get? c <;> simp

theorem mem_traits_provider : t ∈ r.provider.traits c ↔ r.HasTrait c t := by
  simp only [provider, HasTrait]
  cases r.get? c <;> simp

theorem supertype_provider_iff :
    r.provider.Supertype c n ↔
      ∃ d, ReflTransGen r.HasParent c d ∧ ReflTransGen r.HasInterface d n := by
  simp only [Provider.Supertype, Reachable, mem_parents_provider, mem_interfaces_provider]

theorem carries_provider_iff :
    r.provider.Carries c t ↔ ∃ d, ReflTransGen r.HasParent c d ∧ TransGen r.HasTrait d t := by
  simp only [Provider.Carries, Reachable, mem_parents_provider, mem_traits_provider,
    Relation.TransGen.head'_iff]

end Registry

end RuntimeTypes
