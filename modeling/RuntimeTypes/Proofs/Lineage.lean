import RuntimeTypes.Class.Ancestry
import RuntimeTypes.Proofs.Remembered

/-!
# Lineages are reachability

On the way up from a class, what was collected is at every moment what the classes passed so far
lead to. This is what makes it right to follow no name twice: a name that an earlier class added
has had its own successors added with it.
-/

namespace RuntimeTypes

/-- What holds on the way up from `start` when `current` is the class to pass next. -/
structure Ascent.Underway (p : Provider) (start : String) (s : Ascent) (current : Option String) :
    Prop where
  /-- Only parents are followed. -/
  reached : ∀ c, c ∈ s.chain ∨ current = some c → Reachable p.parents start c
  started : start ∈ s.chain ∨ current = some start
  /-- No parent is left out. -/
  closed : ∀ c ∈ s.chain, ∀ d, p.parent c = some d → d ∈ s.chain ∨ current = some d
  supertypes : ∀ n, n ∈ s.supertypes ↔ ∃ d ∈ s.chain, Reachable p.interfaces d n
  traits : ∀ t, t ∈ s.traits ↔ ∃ d ∈ s.chain, ∃ u ∈ p.traits d, Reachable p.traits u t

namespace Provider

variable {p : Provider} {start c : String} {s : Ascent}

theorem mem_chain_pass {d : String} : d ∈ (p.pass s c).chain ↔ d = c ∨ d ∈ s.chain :=
  mem_insert_iff

theorem mem_supertypes_pass (h : s.Underway p start (some c)) {n : String} :
    n ∈ (p.pass s c).supertypes ↔ n ∈ s.supertypes ∨ Reachable p.interfaces c n := by
  have closed : ∀ a ∈ s.supertypes.insert c, ∀ b ∈ p.interfaces a,
      b ∈ s.supertypes.insert c ∨ b ∈ p.interfaces c := by
    intro a ha b hb
    rcases mem_insert_iff.1 ha with rfl | old
    · exact Or.inr hb
    · obtain ⟨d, hd, path⟩ := (h.supertypes a).1 old
      exact Or.inl (mem_insert_iff.2 (Or.inr ((h.supertypes b).2 ⟨d, hd, path.tail hb⟩)))
  rw [pass, mem_spread closed, mem_insert_iff]
  constructor
  · rintro ((rfl | old) | ⟨a, ha, path⟩)
    · exact Or.inr .refl
    · exact Or.inl old
    · exact Or.inr (path.head ha)
  · rintro (old | path)
    · exact Or.inl (Or.inr old)
    · rcases path.cases_head with rfl | ⟨a, ha, path⟩
      · exact Or.inl (Or.inl rfl)
      · exact Or.inr ⟨a, ha, path⟩

theorem mem_traits_pass (h : s.Underway p start (some c)) {t : String} :
    t ∈ (p.pass s c).traits ↔ t ∈ s.traits ∨ ∃ u ∈ p.traits c, Reachable p.traits u t := by
  rw [pass, mem_spread]
  intro a ha b hb
  obtain ⟨d, hd, u, hu, path⟩ := (h.traits a).1 ha
  exact Or.inl ((h.traits b).2 ⟨d, hd, u, hu, path.tail hb⟩)

theorem underway_pass (h : s.Underway p start (some c)) :
    (p.pass s c).Underway p start (p.parent c) where
  reached d hd := by
    have here : Reachable p.parents start c := h.reached c (Or.inr rfl)
    rcases hd with hd | hd
    · rcases mem_chain_pass.1 hd with rfl | hd
      · exact here
      · exact h.reached d (Or.inl hd)
    · exact here.tail (mem_parents.2 hd)
  started := by
    refine Or.inl (mem_chain_pass.2 ?_)
    rcases h.started with passed | next
    · exact Or.inr passed
    · exact Or.inl (Option.some.inj next).symm
  closed d hd e he := by
    rcases mem_chain_pass.1 hd with rfl | hd
    · exact Or.inr he
    · refine Or.inl (mem_chain_pass.2 ?_)
      rcases h.closed d hd e he with passed | next
      · exact Or.inr passed
      · exact Or.inl (Option.some.inj next).symm
  supertypes n := by
    rw [mem_supertypes_pass h, h.supertypes]
    simp only [mem_chain_pass, or_and_right, exists_or, exists_eq_left]
    exact or_comm
  traits t := by
    rw [mem_traits_pass h, h.traits]
    simp only [mem_chain_pass, or_and_right, exists_or, exists_eq_left]
    exact or_comm

theorem underway_none (h : s.Underway p start (some c)) (hc : c ∈ s.chain) :
    s.Underway p start none where
  reached d hd := h.reached d (Or.inl (hd.resolve_right (by simp)))
  started := Or.inl (h.started.elim id fun next => Option.some.inj next ▸ hc)
  closed d hd e he := Or.inl ((h.closed d hd e he).elim id fun next => Option.some.inj next ▸ hc)
  supertypes := h.supertypes
  traits := h.traits

theorem underway_ascend {current : Option String}
    {within : ∀ c ∈ current, c ∈ hull p.parents_bounded [start]} (h : s.Underway p start current) :
    (p.ascend start s current within).Underway p start none := by
  fun_induction ascend p start s current within with
  | case1 => exact h
  | case2 s c _ passed => exact underway_none h passed
  | case3 s c _ _ _ ih => exact ih (underway_pass h)

theorem underway_ascent (p : Provider) (c : String) : (p.ascent c).Underway p c none :=
  underway_ascend
    { reached := by
        rintro d (hd | hd)
        · simp at hd
        · exact Option.some.inj hd ▸ .refl
      started := Or.inr rfl
      closed := by simp
      supertypes := by simp
      traits := by simp }

theorem mem_chain_ascent {d : String} : d ∈ (p.ascent c).chain ↔ Reachable p.parents c d := by
  have h := underway_ascent p c
  constructor
  · exact fun hd => h.reached d (Or.inl hd)
  · intro path
    induction path with
    | refl => exact h.started.resolve_right (by simp)
    | tail _ edge ih => exact (h.closed _ ih _ (mem_parents.1 edge)).resolve_right (by simp)

/-! ## The lineage of a class -/

theorem isA_lineage {n : String} : (p.lineage c).isA n = true ↔ p.Supertype c n := by
  rw [Lineage.isA, Std.ExtTreeSet.contains_iff_mem, lineage, (underway_ascent p c).supertypes]
  simp only [mem_chain_ascent, Supertype]

theorem usesTrait_lineage {t : String} : (p.lineage c).usesTrait t = true ↔ p.Carries c t := by
  rw [Lineage.usesTrait, Std.ExtTreeSet.contains_iff_mem, lineage, (underway_ascent p c).traits]
  simp only [mem_chain_ascent, Carries]

theorem iterable_lineage :
    (p.lineage c).iterable = true ↔ ∃ n, p.Supertype c n ∧ p.iterable n = true := by
  simp [lineage, (underway_ascent p c).supertypes, mem_chain_ascent, Supertype]

theorem invocable_lineage :
    (p.lineage c).invocable = true ↔ ∃ n, p.Supertype c n ∧ p.invocable n = true := by
  simp [lineage, (underway_ascent p c).supertypes, mem_chain_ascent, Supertype]

end Provider

namespace Hierarchy

open Relation (ReflTransGen TransGen)

/-- The lineage of a class is reachability in the graph of declarations, whatever cycles it has and
whatever was asked before: supertypes are what zero or more interfaces lead to from the class and
its ancestors, traits what one or more uses of traits lead to, and the flags are those of some
supertype. -/
theorem lineage_iff_reachable (r : Registry) (qs : List Question) (c : String) :
    let l := (((ofProvider r.provider).askAll qs).hierarchy.lineage c).answer.lineage
    (∀ n, l.isA n = true ↔
      ∃ d, ReflTransGen r.HasParent c d ∧ ReflTransGen r.HasInterface d n) ∧
    (∀ t, l.usesTrait t = true ↔ ∃ d, ReflTransGen r.HasParent c d ∧ TransGen r.HasTrait d t) ∧
    (l.iterable = true ↔
      ∃ n, l.isA n = true ∧ ∃ d, r.get? n = some d ∧ d.iterable = true) ∧
    (l.invocable = true ↔
      ∃ n, l.isA n = true ∧ ∃ d, r.get? n = some d ∧ d.invocable = true) := by
  intro l
  have computed : l = r.provider.lineage c :=
    lineage_lineage ((faithful_ofProvider r.provider).askAll qs) c
  rw [computed]
  refine ⟨fun n => ?_, fun t => ?_, ?_, ?_⟩
  · rw [Provider.isA_lineage, Registry.supertype_provider_iff]
  · rw [Provider.usesTrait_lineage, Registry.carries_provider_iff]
  · simp only [Provider.isA_lineage, Provider.iterable_lineage, Registry.provider,
      Option.any_eq_true]
  · simp only [Provider.isA_lineage, Provider.invocable_lineage, Registry.provider,
      Option.any_eq_true]

/-- Ferries and ships are each other's parents. Ships implement an interface that extends an iterable
one, and the trait of ferries uses a trait that is not declared. From a ferry one comes to the end of
both, but no trait is a supertype and no interface a trait. -/
theorem lineage_of_ferry :
    let r := ((((Registry.empty.declare
      (((Declaration.ofName "Ferry").withParent "Ship").withTrait "Ticketed")).declare
      (((Declaration.ofName "Ship").withParent "Ferry").withInterface "Moored")).declare
      ((Declaration.ofName "Moored").withInterface "Listed")).declare
      (Declaration.ofName "Listed").withIteration).declare
      ((Declaration.ofName "Ticketed").withTrait "Priced")
    let l := ((ofProvider r.provider).lineage "Ferry").answer.lineage
    l.isA "Listed" = true ∧ l.isA "Ticketed" = false ∧ l.usesTrait "Priced" = true ∧
      l.usesTrait "Listed" = false ∧ l.iterable = true ∧ l.invocable = false := by
  intro r l
  have ferry : r.get? "Ferry" = some ⟨"Ferry", some "Ship", [], ["Ticketed"], false, false⟩ := rfl
  have ship : r.get? "Ship" = some ⟨"Ship", some "Ferry", ["Moored"], [], false, false⟩ := rfl
  have moored : r.get? "Moored" = some ⟨"Moored", none, ["Listed"], [], false, false⟩ := rfl
  have listed : r.get? "Listed" = some ⟨"Listed", none, [], [], true, false⟩ := rfl
  have ticketed : r.get? "Ticketed" = some ⟨"Ticketed", none, [], ["Priced"], false, false⟩ := rfl
  have priced : r.get? "Priced" = none := rfl
  -- What the registry says of these names leads out of neither list.
  let supertypes := ["Ferry", "Ship", "Moored", "Listed"]
  let traits := ["Ticketed", "Priced"]
  have parentsClosed : Closed r.provider.parents supertypes := by
    simp [supertypes, Closed, Provider.parents, Registry.provider, ferry, ship, moored, listed]
  have interfacesClosed : Closed r.provider.interfaces supertypes := by
    simp [supertypes, Closed, Registry.provider, ferry, ship, moored, listed]
  have uses : ∀ d ∈ supertypes, ∀ u ∈ r.provider.traits d, u ∈ traits := by
    simp [supertypes, traits, Registry.provider, ferry, ship, moored, listed]
  have traitsClosed : Closed r.provider.traits traits := by
    simp [traits, Closed, Registry.provider, ticketed, priced]
  have uninvocable : ∀ n ∈ supertypes, r.provider.invocable n = false := by
    simp [supertypes, Registry.provider, ferry, ship, moored, listed]
  obtain ⟨isA, usesTrait, iterable, invocable⟩ := lineage_iff_reachable r [] "Ferry"
  have up : r.HasParent "Ferry" "Ship" := ⟨_, ferry, rfl⟩
  have isListed : l.isA "Listed" = true :=
    (isA "Listed").2 ⟨"Ship", .single up,
      .head ⟨_, ship, .head _⟩ (.single ⟨_, moored, .head _⟩)⟩
  have isA_mem {n : String} (above : l.isA n = true) : n ∈ supertypes :=
    (Registry.supertype_provider_iff.2 ((isA n).1 above)).mem_of_closed parentsClosed
      interfacesClosed (.head _)
  have usesTrait_mem {t : String} (used : l.usesTrait t = true) : t ∈ traits :=
    (Registry.carries_provider_iff.2 ((usesTrait t).1 used)).mem_of_closed parentsClosed uses
      traitsClosed (.head _)
  refine ⟨isListed, ?_, ?_, ?_, ?_, ?_⟩
  · exact Bool.eq_false_iff.2 fun above => absurd (isA_mem above) (by decide)
  · exact (usesTrait "Priced").2 ⟨"Ferry", .refl,
      .head ⟨_, ferry, .head _⟩ (.single ⟨_, ticketed, .head _⟩)⟩
  · exact Bool.eq_false_iff.2 fun used => absurd (usesTrait_mem used) (by decide)
  · exact iterable.2 ⟨"Listed", isListed, _, listed, rfl⟩
  · refine Bool.eq_false_iff.2 fun flag => ?_
    obtain ⟨n, above, d, declared, flagged⟩ := invocable.1 flag
    have plain := uninvocable n (isA_mem above)
    simp [Registry.provider, declared, flagged] at plain

end Hierarchy

end RuntimeTypes
