import Std.Data.ExtTreeSet

/-!
# Searching a directed graph

A graph is given by the successors of each node. Where every node lies in a finite set that is
closed under taking successors, a search that keeps the nodes still to be looked at comes to an end.
`spread` adds what it finds to a set of nodes seen before.
-/

namespace RuntimeTypes

variable {α : Type _}

/-- A set of nodes that contains the successors of its members. -/
def Closed (next : α → List α) (nodes : List α) : Prop :=
  ∀ a ∈ nodes, ∀ b ∈ next a, b ∈ nodes

/-- Every node lies in a finite closed set: from no node can infinitely many others be reached. -/
def Bounded (next : α → List α) : Prop :=
  ∀ a, ∃ nodes, a ∈ nodes ∧ Closed next nodes

/-! ## Bounded graphs -/

theorem Closed.append {next : α → List α} {s t : List α} (hs : Closed next s)
    (ht : Closed next t) : Closed next (s ++ t) := by
  intro a ha b hb
  rcases List.mem_append.1 ha with h | h
  · exact List.mem_append_left _ (hs a h b hb)
  · exact List.mem_append_right _ (ht a h b hb)

theorem Bounded.exists_closed {next : α → List α} (h : Bounded next) (start : List α) :
    ∃ nodes, (∀ a ∈ start, a ∈ nodes) ∧ Closed next nodes := by
  induction start with
  | nil => exact ⟨[], by simp, by simp [Closed]⟩
  | cons a start ih =>
    obtain ⟨s, hs, hsc⟩ := ih
    obtain ⟨t, ht, htc⟩ := h a
    refine ⟨t ++ s, ?_, htc.append hsc⟩
    intro b hb
    rcases List.mem_cons.1 hb with rfl | hb
    · exact List.mem_append_left _ ht
    · exact List.mem_append_right _ (hs b hb)

theorem Bounded.of_support {next : α → List α} (nodes : List α)
    (h : ∀ a, next a ≠ [] → a ∈ nodes) : Bounded next := by
  have into : ∀ b c, c ∈ next b → c ∈ nodes.flatMap next := by
    intro b c hc
    exact List.mem_flatMap.2 ⟨b, h b (List.ne_nil_of_mem hc), hc⟩
  refine fun a => ⟨a :: nodes.flatMap next, by simp, ?_⟩
  intro b _ c hc
  exact List.mem_cons_of_mem _ (into b c hc)

/-- A finite closed set around the given nodes. -/
noncomputable def hull {next : α → List α} (bounded : Bounded next) (start : List α) : List α :=
  Classical.choose (bounded.exists_closed start)

theorem mem_hull {next : α → List α} (bounded : Bounded next) {start : List α} {a : α}
    (h : a ∈ start) : a ∈ hull bounded start :=
  (Classical.choose_spec (bounded.exists_closed start)).1 a h

theorem closed_hull {next : α → List α} (bounded : Bounded next) (start : List α) :
    Closed next (hull bounded start) :=
  (Classical.choose_spec (bounded.exists_closed start)).2

/-! ## The search -/

section Search

variable [Ord α] [Std.TransOrd α] {next : α → List α}

/-- The nodes of a list that a set leaves out. -/
def unseen (nodes : List α) (seen : Std.ExtTreeSet α) : Nat :=
  nodes.countP (· ∉ seen)

theorem unseen_insert_le (nodes : List α) (seen : Std.ExtTreeSet α) (a : α) :
    unseen nodes (seen.insert a) ≤ unseen nodes seen := by
  apply List.countP_mono_left
  intro b _ hb
  simp only [decide_eq_true_eq, Std.ExtTreeSet.mem_insert, not_or] at hb ⊢
  exact hb.2

theorem unseen_insert_lt {nodes : List α} {seen : Std.ExtTreeSet α} {a : α} (ha : a ∈ nodes)
    (hs : a ∉ seen) : unseen nodes (seen.insert a) < unseen nodes seen := by
  induction nodes with
  | nil => simp at ha
  | cons b nodes ih =>
    have tail := unseen_insert_le nodes seen a
    have head := unseen_insert_le [b] seen a
    simp only [unseen, List.countP_cons, List.countP_nil, Nat.zero_add] at ih head tail ⊢
    by_cases hb : b = a
    · subst hb
      simp [hs]
      simpa using Nat.lt_succ_of_le tail
    · have := ih (by simpa [Ne.symm hb] using ha)
      omega

/-- Adds to `seen` everything that can be reached from the nodes of `todo`. -/
def explore (bounded : Bounded next) (start : List α) (seen : Std.ExtTreeSet α) (todo : List α)
    (within : ∀ a ∈ todo, a ∈ hull bounded start) : Std.ExtTreeSet α :=
  match todo with
  | [] => seen
  | a :: rest =>
    if a ∈ seen then
      explore bounded start seen rest fun b hb => within b (List.mem_cons_of_mem _ hb)
    else
      explore bounded start (seen.insert a) (next a ++ rest) fun b hb => by
        rcases List.mem_append.1 hb with h | h
        · exact closed_hull bounded start a (within a (by simp)) b h
        · exact within b (List.mem_cons_of_mem _ h)
termination_by (unseen (hull bounded start) seen, todo.length)
decreasing_by
  · exact Prod.Lex.right _ (by simp)
  · exact Prod.Lex.left _ _ (unseen_insert_lt (within a (by simp)) ‹_›)

/-- Adds to a set the given nodes that it leaves out, and what these lead to. A node that is in the
set already is not followed again. -/
def spread (bounded : Bounded next) (seen : Std.ExtTreeSet α) (todo : List α) :
    Std.ExtTreeSet α :=
  explore bounded todo seen todo fun _ h => mem_hull bounded h

theorem mem_insert_iff [Std.LawfulEqOrd α] {s : Std.ExtTreeSet α} {a b : α} :
    b ∈ s.insert a ↔ b = a ∨ b ∈ s := by
  rw [Std.ExtTreeSet.mem_insert, Std.compare_eq_iff_eq]
  exact or_congr eq_comm Iff.rfl

end Search

end RuntimeTypes
