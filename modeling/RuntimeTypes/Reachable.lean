import Mathlib.Logic.Relation
import RuntimeTypes.Reach

/-!
# Reachability in a directed graph

One node is reachable from another when zero or more steps to a successor lead there. What is
reachable from a node is determined by the successors of the nodes reached on the way, and no path
leads out of a closed set. The search finds what is reachable, and nothing else.
-/

namespace RuntimeTypes

variable {α : Type _} {next next' : α → List α} {a b : α}

/-- Zero or more steps to a successor lead from the first node to the second. -/
abbrev Reachable (next : α → List α) : α → α → Prop :=
  Relation.ReflTransGen fun a b => b ∈ next a

theorem reachable_congr (agree : ∀ c, Reachable next a c → next c = next' c) :
    Reachable next a b ↔ Reachable next' a b := by
  constructor
  · intro path
    induction path with
    | refl => exact .refl
    | tail path edge ih => exact ih.tail (agree _ path ▸ edge)
  · intro path
    induction path with
    | refl => exact .refl
    | tail _ edge ih => exact ih.tail ((agree _ ih).symm ▸ edge)

theorem Closed.mem_of_reachable {nodes : List α} (closed : Closed next nodes) (start : a ∈ nodes)
    (path : Reachable next a b) : b ∈ nodes := by
  induction path with
  | refl => exact start
  | tail _ edge ih => exact closed _ ih _ edge

/-! ## What the search finds -/

section Search

variable [Ord α] [Std.TransOrd α]

theorem mem_explore_of_mem {bounded : Bounded next} {start todo : List α}
    {seen : Std.ExtTreeSet α} {within : ∀ a ∈ todo, a ∈ hull bounded start} {a : α}
    (h : a ∈ seen ∨ a ∈ todo) : a ∈ explore bounded start seen todo within := by
  fun_induction explore bounded start seen todo within with
  | case1 => simpa using h
  | case2 => grind
  | case3 _ b rest _ _ _ ih =>
    apply ih
    rcases h with h | h
    · exact Or.inl (Std.ExtTreeSet.mem_insert.2 (Or.inr h))
    · rcases List.mem_cons.1 h with rfl | h
      · exact Or.inl (Std.ExtTreeSet.mem_insert.2 (Or.inl (by simp)))
      · exact Or.inr (List.mem_append_right _ h)

variable [Std.LawfulEqOrd α]

theorem closed_explore {bounded : Bounded next} {start todo : List α} {seen : Std.ExtTreeSet α}
    {within : ∀ a ∈ todo, a ∈ hull bounded start}
    (h : ∀ a ∈ seen, ∀ b ∈ next a, b ∈ seen ∨ b ∈ todo) {a b : α}
    (ha : a ∈ explore bounded start seen todo within) (hb : b ∈ next a) :
    b ∈ explore bounded start seen todo within := by
  fun_induction explore bounded start seen todo within with
  | case1 => simpa using h a ha b hb
  | case2 _ c rest _ _ hc ih => exact ih (by grind) ha
  | case3 _ c rest _ _ hc ih =>
    refine ih ?_ ha
    intro d hd e he
    rcases mem_insert_iff.1 hd with rfl | hd
    · exact Or.inr (List.mem_append_left _ he)
    · rcases h d hd e he with h | h
      · exact Or.inl (mem_insert_iff.2 (Or.inr h))
      · rcases List.mem_cons.1 h with rfl | h
        · exact Or.inl (mem_insert_iff.2 (Or.inl rfl))
        · exact Or.inr (List.mem_append_right _ h)

theorem reachable_of_mem_explore {bounded : Bounded next} {start todo : List α}
    {seen : Std.ExtTreeSet α} {within : ∀ a ∈ todo, a ∈ hull bounded start} {b : α}
    (h : b ∈ explore bounded start seen todo within) :
    b ∈ seen ∨ ∃ a ∈ todo, Reachable next a b := by
  fun_induction explore bounded start seen todo within with
  | case1 => exact Or.inl h
  | case2 _ a rest _ _ _ ih =>
    rcases ih h with h | ⟨c, hc, hr⟩
    · exact Or.inl h
    · exact Or.inr ⟨c, List.mem_cons_of_mem _ hc, hr⟩
  | case3 _ a rest _ _ _ ih =>
    rcases ih h with h | ⟨c, hc, hr⟩
    · rcases mem_insert_iff.1 h with rfl | h
      · exact Or.inr ⟨b, by simp, .refl⟩
      · exact Or.inl h
    · rcases List.mem_append.1 hc with hc | hc
      · exact Or.inr ⟨a, by simp, hr.head hc⟩
      · exact Or.inr ⟨c, List.mem_cons_of_mem _ hc, hr⟩

/-- Where every successor of the set is in the set or among the given nodes, spreading adds exactly
what can be reached from the given nodes, though it follows nothing that was seen before. -/
theorem mem_spread {bounded : Bounded next} {seen : Std.ExtTreeSet α} {todo : List α}
    (closed : ∀ a ∈ seen, ∀ b ∈ next a, b ∈ seen ∨ b ∈ todo) {b : α} :
    b ∈ spread bounded seen todo ↔ b ∈ seen ∨ ∃ a ∈ todo, Reachable next a b := by
  constructor
  · exact reachable_of_mem_explore
  · rintro (hb | ⟨a, ha, path⟩)
    · exact mem_explore_of_mem (Or.inl hb)
    · induction path with
      | refl => exact mem_explore_of_mem (Or.inr ha)
      | tail _ edge ih => exact closed_explore closed ih edge

end Search

end RuntimeTypes
