import RuntimeTypes.Proofs.Widening

/-!
# The first rule that applies

The rule that is found is the first that applies. At each step down the list of rules none of those
passed applies, so whichever applies comes later. What a rule asks for is a token, apart from names,
where it is the least name that decides. So more tokens can only bring in earlier rules, or another
name, and the order in which tokens came does not show.
-/

namespace RuntimeTypes

variable {p : Provider} {s t : TypeSet} {v : Value} {o : Object} {r r' : Rule}

/-! ## Names -/

namespace TypeSet

variable {n m : String}

theorem admits_named_iff :
    s.Admits p (.named n) (.object o) ↔
      s.contains (.named n) = true ∧
        (p.Supertype o.className.text n ∨ p.Carries o.className.text n) := by
  simp [Admits, Token.Accepts]

theorem Decides.unique (hn : s.Decides p v n) (hm : s.Decides p v m) : n = m := by
  have same : compare (Token.named n) (.named m) = .eq :=
    Std.OrientedCmp.isLE_antisymm (hn.2 m hm.1) (hm.2 n hn.1)
  exact Token.named.inj (Std.LawfulEqOrd.eq_of_compare same)

theorem decides_of_namedRule? (found : s.namedRule? (p.lineage o.className.text) = some r) :
    ∃ n, s.Decides p (.object o) n ∧ (p.lineage o.className.text).ruleOf? n = some r := by
  obtain ⟨before, t, after, tokens, rule, none⟩ := List.findSome?_eq_some_iff.1 found
  have ordered : s.toList.Pairwise fun t u => compare t u = .lt := Std.ExtTreeSet.ordered_toList
  rw [tokens, List.pairwise_append, List.pairwise_cons] at ordered
  cases t with
  | named n =>
    have rule : (p.lineage o.className.text).ruleOf? n = some r := rule
    have held : s.contains (.named n) = true := by
      rw [← mem_toList, tokens]
      simp
    refine ⟨n, ⟨admits_named_iff.2 ⟨held, isSome_ruleOf?_iff.1 ?_⟩, fun m admits => ?_⟩, rule⟩
    · rw [rule]
      rfl
    · obtain ⟨held, related⟩ := admits_named_iff.1 admits
      rw [← mem_toList, tokens, List.mem_append, List.mem_cons] at held
      rcases held with earlier | same | later
      · -- Had the name come before, it would have given a rule.
        have some_rule := isSome_ruleOf?_iff.2 related
        have no_rule : (p.lineage o.className.text).ruleOf? m = Option.none := none _ earlier
        rw [no_rule] at some_rule
        cases some_rule
      · rw [same, Std.ReflOrd.compare_self]
        rfl
      · rw [ordered.2.1.1 _ later]
        rfl
  | _ => cases rule

end TypeSet

/-! ## The order of rules -/

namespace Rule

theorem mem_general_or_named (r : Rule) : r ∈ general ∨ r = .classOrInterface ∨ r = .trait := by
  cases r <;> decide

theorem eq_of_rank (asks : r ∈ general) (same : r.rank = r'.rank) : r = r' :=
  (List.idxOf_inj asks).1 same

theorem not_trait_of_classOrInterface (applies : Rule.classOrInterface.Applies p s v) :
    ¬ Rule.trait.Applies p s v := by
  rintro ⟨o', n', same', decides', _, not_above⟩
  obtain ⟨o, n, same, decides, above⟩ := applies
  cases same.symm.trans same'
  exact not_above (decides.unique decides' ▸ above)

theorem eq_of_applies (applies : r.Applies p s v) (applies' : r'.Applies p s v)
    (same : r.rank = r'.rank) : r = r' := by
  rcases mem_general_or_named r with asks | rfl | rfl
  · exact eq_of_rank asks same
  · rcases mem_general_or_named r' with asks | rfl | rfl
    · exact (eq_of_rank asks same.symm).symm
    · rfl
    · exact absurd applies' (not_trait_of_classOrInterface applies)
  · rcases mem_general_or_named r' with asks | rfl | rfl
    · exact (eq_of_rank asks same.symm).symm
    · exact absurd applies (not_trait_of_classOrInterface applies')
    · rfl

theorem First.unique (first : r.First p s v) (first' : r'.First p s v) : r = r' :=
  eq_of_applies first.1 first'.1 (Nat.le_antisymm (first.2 r' first'.1) (first'.2 r first.1))

theorem Applies.exists_accepts (applies : r.Applies p s v) :
    s.isEmpty = true ∨ ∃ t, s.contains t = true ∧ t.Accepts p v := by
  cases r with
  | anyType => exact applies.imp id fun mixed => ⟨.pseudo .mixed, mixed, trivial⟩
  | exactKind => exact Or.inr ⟨_, applies, TypeSet.accepts_ofValue p v⟩
  | classOrInterface =>
    obtain ⟨o, n, _, decides, _⟩ := applies
    exact Or.inr ⟨_, decides.1⟩
  | trait =>
    obtain ⟨o, n, _, decides, _⟩ := applies
    exact Or.inr ⟨_, decides.1⟩
  | _ => exact Or.inr ⟨_, applies⟩

/-- A rule that is tried applies first if it applies, given that what applies does not come earlier.
If it does not apply, what applies comes later. -/
theorem first_or_rest {c : Prop} [Decidable c] {rest : Option Rule}
    (found : (if c then some r else rest) = some r')
    (later : ∀ other : Rule, other.Applies p s v → r.rank ≤ other.rank)
    (asks : r.Applies p s v ↔ c) (tried : r ∈ general) :
    r'.First p s v ∨
      rest = some r' ∧ ∀ other : Rule, other.Applies p s v → r.rank < other.rank := by
  split at found
  · rename_i hc
    cases found
    exact Or.inl ⟨asks.2 hc, later⟩
  · rename_i hc
    refine Or.inr ⟨found, fun other applies => Nat.lt_of_le_of_ne (later other applies) ?_⟩
    intro same
    cases eq_of_rank tried same
    exact hc (asks.1 applies)

end Rule

namespace TypeSet

/-! ## Trying the rules -/

theorem admits_iff {t : Token} {b : Bool} (covers : t.Accepts p v ↔ b = true) :
    s.Admits p t v ↔ (s.contains t && b) = true := by
  rw [Admits, covers, Bool.and_eq_true]

theorem accepts_resource_iff : Token.Accepts p (.basic .resource) v ↔ v.isResource = true := by
  cases v <;> simp [Token.Accepts, Value.kind, Value.isResource]

theorem admits_object_iff :
    s.Admits p (.basic .object) (.object o) ↔ s.contains (.basic .object) = true := by
  simp [Admits, Token.Accepts, Value.kind]

theorem applies_of_namedRule? (found : s.namedRule? (p.lineage o.className.text) = some r) :
    r.Applies p s (.object o) ∧ r.rank = Rule.general.length := by
  obtain ⟨n, decides, rule⟩ := decides_of_namedRule? found
  rw [Lineage.ruleOf?] at rule
  split at rule
  · rename_i above
    cases rule
    exact ⟨⟨o, n, rfl, decides, Provider.isA_lineage.1 above⟩, rfl⟩
  · rename_i not_above
    split at rule
    · rename_i carried
      cases rule
      exact ⟨⟨o, n, rfl, decides, Provider.usesTrait_lineage.1 carried,
        fun above => not_above (Provider.isA_lineage.2 above)⟩, rfl⟩
    · cases rule

theorem first_of_rule? (found : s.rule? v (lineageFor p v) = some r) : r.First p s v := by
  have later : ∀ other : Rule, other.Applies p s v → Rule.anyType.rank ≤ other.rank :=
    fun _ _ => Nat.zero_le _
  unfold rule? at found
  rcases Rule.first_or_rest found later acceptsAny_iff.symm (by decide) with first | ⟨found, later⟩
  · exact first
  rcases Rule.first_or_rest found later Iff.rfl (by decide) with first | ⟨found, later⟩
  · exact first
  rcases Rule.first_or_rest found later (admits_iff accepts_scalar_iff) (by decide) with
    first | ⟨found, later⟩
  · exact first
  rcases Rule.first_or_rest found later (admits_iff accepts_number_iff) (by decide) with
    first | ⟨found, later⟩
  · exact first
  rcases Rule.first_or_rest found later (admits_iff accepts_uint_iff) (by decide) with
    first | ⟨found, later⟩
  · exact first
  have iterable : Token.Accepts p (.pseudo .iterable) v ↔
      (v.isArray || (lineageFor p v).any Lineage.iterable) = true :=
    accepts_iterable_iff.trans Bool.or_eq_true_iff.symm
  rcases Rule.first_or_rest found later (admits_iff iterable) (by decide) with
    first | ⟨found, later⟩
  · exact first
  rcases Rule.first_or_rest found later (admits_iff accepts_callable_iff) (by decide) with
    first | ⟨found, later⟩
  · exact first
  rcases Rule.first_or_rest found later (admits_iff accepts_resource_iff) (by decide) with
    first | ⟨found, later⟩
  · exact first
  -- What is left asks for a lineage, and only objects have one.
  cases v with
  | object o =>
    rcases Rule.first_or_rest found later admits_object_iff (by decide) with
      first | ⟨found, later⟩
    · exact first
    · obtain ⟨applies, last⟩ := applies_of_namedRule? found
      exact ⟨applies, fun other applies' => last ▸ later other applies'⟩
  | _ => cases found

theorem exists_first (applies : r.Applies p s v) :
    ∃ r', s.rule? v (lineageFor p v) = some r' ∧ r'.rank ≤ r.rank := by
  have some_rule := isSome_rule?_iff_accepts.2 applies.exists_accepts
  obtain ⟨r', found⟩ := Option.isSome_iff_exists.1 some_rule
  exact ⟨r', found, (first_of_rule? found).2 r applies⟩

theorem rule?_eq_some_iff : s.rule? v (lineageFor p v) = some r ↔ r.First p s v := by
  refine ⟨first_of_rule?, fun first => ?_⟩
  obtain ⟨r', found, _⟩ := exists_first first.1
  rw [found, (first_of_rule? found).unique first]

theorem rule?_eq_none_iff :
    s.rule? v (lineageFor p v) = none ↔ ∀ r : Rule, ¬ r.Applies p s v := by
  constructor
  · intro none r applies
    obtain ⟨r', found, _⟩ := exists_first applies
    rw [none] at found
    cases found
  · intro none
    refine Option.eq_none_iff_forall_ne_some.2 fun r found => ?_
    exact none r (first_of_rule? found).1

/-! ## More tokens -/

theorem Admits.of_subset {u : Token} (sub : s ⊆ t) (admits : s.Admits p u v) : t.Admits p u v :=
  ⟨sub u admits.1, admits.2⟩

theorem exists_named_of_admits {n : String} (admits : s.Admits p (.named n) (.object o)) :
    ∃ r : Rule, r.Applies p s (.object o) ∧ r.rank = Rule.general.length := by
  have some_rule := isSome_namedRule?_iff.2 ⟨n, admits_named_iff.1 admits⟩
  obtain ⟨r, found⟩ := Option.isSome_iff_exists.1 some_rule
  exact ⟨r, applies_of_namedRule? found⟩

end TypeSet

theorem Rule.Applies.of_subset (applies : r.Applies p s v) (asks : r ∈ general) (sub : s ⊆ t)
    (some : s.isEmpty = false) : r.Applies p t v := by
  cases r with
  | anyType =>
    have mixed : s.contains (.pseudo .mixed) = true := applies.resolve_left (by simp [some])
    exact Or.inr (sub _ mixed)
  | exactKind => exact sub _ applies
  | classOrInterface => exact absurd asks (by decide)
  | trait => exact absurd asks (by decide)
  | _ => exact TypeSet.Admits.of_subset sub applies

/-- Where a rule applies to a set with tokens, one of its rank applies to a larger set: the same
rule, or one for another name. -/
theorem Rule.Applies.exists_of_subset (applies : r.Applies p s v) (sub : s ⊆ t)
    (some : s.isEmpty = false) : ∃ r' : Rule, r'.Applies p t v ∧ r'.rank = r.rank := by
  rcases r.mem_general_or_named with asks | rfl | rfl
  · exact ⟨r, applies.of_subset asks sub some, rfl⟩
  · obtain ⟨o, n, rfl, decides, _⟩ := applies
    exact TypeSet.exists_named_of_admits (decides.1.of_subset sub)
  · obtain ⟨o, n, rfl, decides, _⟩ := applies
    exact TypeSet.exists_named_of_admits (decides.1.of_subset sub)

namespace Hierarchy

open TypeSet (Growth)

/-- The rule that is found, after whatever questions, is the first that applies, and none is found
only where none applies. It depends on the tokens of the set alone, not on the additions by which
they came in, nor on their order. More tokens in a set that has some never make it a later one. -/
theorem matchingRule_first (p : Provider) (qs qs' : List Question) (s : TypeSet) (v : Value) :
    let h := ((ofProvider p).askAll qs).hierarchy
    let g := ((ofProvider p).askAll qs').hierarchy
    (∀ r, (h.matchingRule s v).answer = some r ↔ r.First p s v) ∧
    ((h.matchingRule s v).answer = none ↔ ∀ r : Rule, ¬ r.Applies p s v) ∧
    (∀ gs gs' : List Growth,
      (∀ t, (∃ grown ∈ gs, t ∈ grown.tokens) ↔ ∃ grown ∈ gs', t ∈ grown.tokens) →
      (h.matchingRule (TypeSet.empty.growAll gs) v).answer =
        (g.matchingRule (TypeSet.empty.growAll gs') v).answer) ∧
    (s.isEmpty = false → ∀ (gs : List Growth) (r : Rule), (h.matchingRule s v).answer = some r →
      ∃ r', (g.matchingRule (s.growAll gs) v).answer = some r' ∧ r'.rank ≤ r.rank) := by
  intro h g
  have hf : h.Faithful p := (faithful_ofProvider p).askAll qs
  have gf : g.Faithful p := (faithful_ofProvider p).askAll qs'
  have found (s : TypeSet) : (h.matchingRule s v).answer = s.rule? v (TypeSet.lineageFor p v) :=
    matchingRule_answer hf s v
  have found' (s : TypeSet) : (g.matchingRule s v).answer = s.rule? v (TypeSet.lineageFor p v) :=
    matchingRule_answer gf s v
  simp only [found, found']
  refine ⟨fun r => TypeSet.rule?_eq_some_iff, TypeSet.rule?_eq_none_iff, ?_, ?_⟩
  · intro gs gs' same
    have one_set : TypeSet.empty.growAll gs = TypeSet.empty.growAll gs' :=
      TypeSet.ext_contains fun u => by
        rw [TypeSet.contains_growAll, TypeSet.contains_growAll, same]
    rw [one_set]
  · intro some gs r before
    have first := TypeSet.first_of_rule? before
    obtain ⟨r', applies, rank⟩ := first.1.exists_of_subset (TypeSet.subset_growAll s gs) some
    obtain ⟨r'', after, le⟩ := TypeSet.exists_first applies
    exact ⟨r'', after, rank ▸ le⟩

/-- A memo is accepted as an object, though the set also names an interface of memos: the rule for
objects is the first that applies. It is found in both orders of the tokens, and once callables are
added no later rule is. -/
theorem matchingRule_first_of_memo :
    let p := (Registry.empty.declare ⟨"Memo", none, ["Readable"], [], false, false⟩).provider
    let h := ofProvider p
    let memo : Value := .object ⟨0, ⟨"Memo", by decide +kernel⟩⟩
    let objects := TypeSet.empty.insert (.basic .object)
    let gs : List Growth := [.insert (.named "Readable"), .union objects, .insert (.named "Readable")]
    let gs' : List Growth := [.union (objects.insert (.named "Readable"))]
    let s := TypeSet.empty.growAll gs
    ((∀ t, (∃ grown ∈ gs, t ∈ grown.tokens) ↔ ∃ grown ∈ gs', t ∈ grown.tokens) ∧
      s.isEmpty = false ∧ (h.matchingRule s memo).answer = some .anyObject) ∧
    Rule.anyObject.First p s memo ∧
    (h.matchingRule (TypeSet.empty.growAll gs') memo).answer = some .anyObject ∧
    ∃ r, (h.matchingRule (s.growAll [.insert (.pseudo .callable)]) memo).answer = some r ∧
      r.rank ≤ Rule.anyObject.rank := by
  intro p h memo objects gs gs' s
  have same (t : Token) : (∃ grown ∈ gs, t ∈ grown.tokens) ↔ ∃ grown ∈ gs', t ∈ grown.tokens := by
    simp only [gs, gs', objects, Growth.tokens, TypeSet.mem_toList, TypeSet.contains_insert,
      List.mem_cons, List.not_mem_nil, exists_eq_or_imp, exists_eq_left, or_false]
    grind
  have some_token : s.isEmpty = false :=
    (TypeSet.isEmpty_eq_false_iff s).2 ⟨.named "Readable", TypeSet.contains_insert_self _ _⟩
  have found : (h.matchingRule s memo).answer = some .anyObject := by
    decide +kernel
  obtain ⟨first, _, order, more⟩ := matchingRule_first p [] [] s memo
  exact ⟨⟨same, some_token, found⟩, (first _).1 found, (order gs gs' same).symm.trans found,
    more some_token [.insert (.pseudo .callable)] _ found⟩

end Hierarchy

end RuntimeTypes
