import RuntimeTypes.Matching.Accepts
import RuntimeTypes.Proofs.Lineage

/-!
# Matching is what the single tokens accept

The rules are tried in an order, and the first that applies decides. Whether any of them applies
does not depend on the order: each speaks for one token of the set, and no token is without a rule.
-/

namespace RuntimeTypes

namespace TypeSet

variable {s : TypeSet} {p : Provider} {v : Value}

theorem isSome_ruleOf?_iff {c n : String} :
    ((p.lineage c).ruleOf? n).isSome = true ↔ p.Supertype c n ∨ p.Carries c n := by
  rw [Lineage.ruleOf?, isSome_ite_some, isSome_ite_some, Provider.isA_lineage,
    Provider.usesTrait_lineage]
  simp

theorem isSome_namedRule?_iff {c : String} :
    (s.namedRule? (p.lineage c)).isSome = true ↔
      ∃ n, s.contains (.named n) = true ∧ (p.Supertype c n ∨ p.Carries c n) := by
  rw [namedRule?, List.isSome_findSome?]
  simp only [List.any_eq_true, mem_toList]
  constructor
  · rintro ⟨t, ht, found⟩
    cases t with
    | named n => exact ⟨n, ht, isSome_ruleOf?_iff.1 found⟩
    | _ => cases found
  · rintro ⟨n, hn, related⟩
    exact ⟨.named n, hn, isSome_ruleOf?_iff.2 related⟩

/-- Some rule applies when one of the conditions holds, in whatever order they are tried. -/
theorem isSome_rule?_iff {l : Option Lineage} :
    (s.rule? v l).isSome = true ↔
      s.acceptsAny = true ∨ s.contains (.ofValue v) = true ∨
      (s.contains (.pseudo .scalar) = true ∧ v.kind.isScalar = true) ∨
      (s.contains (.pseudo .number) = true ∧ v.isNumber = true) ∨
      (s.contains (.pseudo .uint) = true ∧ v.isUnsigned = true) ∨
      (s.contains (.pseudo .iterable) = true ∧
        (v.isArray = true ∨ l.any Lineage.iterable = true)) ∨
      (s.contains (.pseudo .callable) = true ∧ l.any Lineage.invocable = true) ∨
      (s.contains (.basic .resource) = true ∧ v.isResource = true) ∨
      ∃ l', l = some l' ∧
        (s.contains (.basic .object) = true ∨ (s.namedRule? l').isSome = true) := by
  simp only [rule?, isSome_ite_some, Bool.and_eq_true, Bool.or_eq_true]
  cases l <;> simp [isSome_ite_some]

/-- The lineage that decides about a value: that of its class, if it is an object. -/
def lineageFor (p : Provider) (v : Value) : Option Lineage :=
  v.toObject?.map fun o => p.lineage o.className.text

/-! ## The rules that speak for a token -/

theorem accepts_ofValue (p : Provider) (v : Value) : (Token.ofValue v).Accepts p v := by
  cases v with
  | object o => exact ⟨o, rfl, Or.inl ⟨_, .refl, .refl⟩⟩
  | resource r => exact ⟨r, rfl, rfl⟩
  | _ => rfl

theorem accepts_scalar_iff :
    Token.Accepts p (.pseudo .scalar) v ↔ v.kind.isScalar = true := by
  cases v <;> simp [Token.Accepts, Pseudotype.Accepts, Value.kind, Kind.isScalar]

theorem accepts_number_iff : Token.Accepts p (.pseudo .number) v ↔ v.isNumber = true := by
  cases v <;> simp [Token.Accepts, Pseudotype.Accepts, Value.kind, Value.isNumber]

theorem accepts_uint_iff : Token.Accepts p (.pseudo .uint) v ↔ v.isUnsigned = true := by
  cases v <;> simp [Token.Accepts, Pseudotype.Accepts, Value.isUnsigned, Int64.le_iff_toInt_le]

theorem accepts_iterable_iff :
    Token.Accepts p (.pseudo .iterable) v ↔
      v.isArray = true ∨ (lineageFor p v).any Lineage.iterable = true := by
  cases v <;> simp [Token.Accepts, Pseudotype.Accepts, Value.kind, Value.isArray, lineageFor,
    Value.toObject?, Provider.iterable_lineage]

theorem accepts_callable_iff :
    Token.Accepts p (.pseudo .callable) v ↔ (lineageFor p v).any Lineage.invocable = true := by
  cases v <;> simp [Token.Accepts, Pseudotype.Accepts, lineageFor, Value.toObject?,
    Provider.invocable_lineage]

theorem exists_accepts_of_isSome_rule? (applies : (s.rule? v (lineageFor p v)).isSome = true) :
    s.isEmpty = true ∨ ∃ t, s.contains t = true ∧ t.Accepts p v := by
  rcases isSome_rule?_iff.1 applies with any | own | ⟨ht, hv⟩ | ⟨ht, hv⟩ | ⟨ht, hv⟩ | ⟨ht, hv⟩ |
    ⟨ht, hv⟩ | ⟨ht, hv⟩ | ⟨l, hl, ht⟩
  · rcases acceptsAny_iff.1 any with empty | mixed
    · exact Or.inl empty
    · exact Or.inr ⟨_, mixed, trivial⟩
  · exact Or.inr ⟨_, own, accepts_ofValue p v⟩
  · exact Or.inr ⟨_, ht, accepts_scalar_iff.2 hv⟩
  · exact Or.inr ⟨_, ht, accepts_number_iff.2 hv⟩
  · exact Or.inr ⟨_, ht, accepts_uint_iff.2 hv⟩
  · exact Or.inr ⟨_, ht, accepts_iterable_iff.2 hv⟩
  · exact Or.inr ⟨_, ht, accepts_callable_iff.2 hv⟩
  · exact Or.inr ⟨_, ht, by cases v <;> first | rfl | cases hv⟩
  · obtain ⟨o, hv, rfl⟩ := Option.map_eq_some_iff.1 hl
    obtain rfl : v = .object o := by cases v <;> first | cases hv; rfl | cases hv
    rcases ht with ht | named
    · exact Or.inr ⟨_, ht, rfl⟩
    · obtain ⟨n, hn, related⟩ := isSome_namedRule?_iff.1 named
      exact Or.inr ⟨_, hn, o, rfl, related⟩

theorem isSome_rule?_of_accepts {t : Token} (ht : s.contains t = true) (accepts : t.Accepts p v) :
    (s.rule? v (lineageFor p v)).isSome = true := by
  rw [isSome_rule?_iff]
  cases t with
  | basic kind =>
    obtain rfl : v.kind = kind := accepts
    cases v with
    | object o =>
      have object : s.contains (.basic .object) = true := ht
      simp [lineageFor, Value.toObject?, object]
    | resource r =>
      have resource : s.contains (.basic .resource) = true := ht
      simp [Value.isResource, resource]
    | _ => exact Or.inr (Or.inl ht)
  | pseudo category =>
    cases category with
    | mixed => exact Or.inl (acceptsAny_iff.2 (Or.inr ht))
    | scalar => simp [ht, accepts_scalar_iff.1 accepts]
    | number => simp [ht, accepts_number_iff.1 accepts]
    | uint => simp [ht, accepts_uint_iff.1 accepts]
    | iterable => simp only [ht, accepts_iterable_iff.1 accepts, and_self, true_or, or_true]
    | callable => simp only [ht, accepts_callable_iff.1 accepts, and_self, true_or, or_true]
  | resource kind =>
    obtain ⟨r, rfl, rfl⟩ := accepts
    exact Or.inr (Or.inl ht)
  | named name =>
    obtain ⟨o, rfl, related⟩ := accepts
    have named := isSome_namedRule?_iff.2 ⟨name, ht, related⟩
    simp [lineageFor, Value.toObject?, named]

theorem isSome_rule?_iff_accepts :
    (s.rule? v (lineageFor p v)).isSome = true ↔
      s.isEmpty = true ∨ ∃ t, s.contains t = true ∧ t.Accepts p v := by
  constructor
  · exact exists_accepts_of_isSome_rule?
  · rintro (empty | ⟨t, ht, accepts⟩)
    · exact isSome_rule?_iff.2 (Or.inl (acceptsAny_iff.2 (Or.inl empty)))
    · exact isSome_rule?_of_accepts ht accepts

end TypeSet

namespace Hierarchy

variable {h : Hierarchy} {p : Provider} {s t : TypeSet} {v : Value}

/-- A set without tokens accepts every value, and another the values that one of its tokens does. -/
theorem accepts_answer_iff (hf : h.Faithful p) :
    (h.accepts s v).answer = true ↔
      s.isEmpty = true ∨ ∃ t, s.contains t = true ∧ t.Accepts p v := by
  rw [← TypeSet.isSome_rule?_iff_accepts, TypeSet.lineageFor, ← matchingRule_answer hf]
  rfl

/-- Matching is the union of what the single tokens accept, over every registry and after whatever
questions: a set accepts a value if and only if it has no tokens or one of its tokens accepts the
value. Two sets with tokens together accept what one of them accepts. -/
theorem accepts_iff_token_accepts (r : Registry) (qs : List Question) (v : Value) :
    let h := ((ofProvider r.provider).askAll qs).hierarchy
    (∀ s, (h.accepts s v).answer = true ↔
      s.isEmpty = true ∨ ∃ t, s.contains t = true ∧ t.Accepts r.provider v) ∧
    ∀ s t, s.isEmpty = false → t.isEmpty = false →
      ((h.accepts (s.union t) v).answer = true ↔
        (h.accepts s v).answer = true ∨ (h.accepts t v).answer = true) := by
  intro h
  have faithful : h.Faithful r.provider := (faithful_ofProvider r.provider).askAll qs
  refine ⟨fun s => accepts_answer_iff faithful, fun s t hs ht => ?_⟩
  have union : (s.union t).isEmpty = false := by
    obtain ⟨u, hu⟩ := (TypeSet.isEmpty_eq_false_iff t).1 ht
    exact (TypeSet.isEmpty_eq_false_iff _).2 ⟨u, (TypeSet.contains_union s t u).2 (Or.inl hu)⟩
  simp only [accepts_answer_iff faithful, hs, ht, union, Bool.false_eq_true, false_or,
    TypeSet.contains_union, or_and_right, exists_or]
  exact or_comm

/-- A post that uses a trait is accepted where the trait or an integer is, also after the lineage
of its class was asked for. -/
theorem accepts_union_of_trait :
    let r := Registry.empty.declare ((Declaration.ofName "Post").withTrait "Timestamps")
    let traits := TypeSet.empty.insert (.named "Timestamps")
    let ints := TypeSet.empty.insert (.basic .int)
    let post : Object := ⟨0, ⟨"Post", by decide +kernel⟩⟩
    traits.isEmpty = false ∧ ints.isEmpty = false ∧
      ((((ofProvider r.provider).askAll [.lineage "Post"]).hierarchy).accepts
        (traits.union ints) (.object post)).answer = true := by
  intro r traits ints post
  have some_traits : traits.isEmpty = false :=
    (TypeSet.isEmpty_eq_false_iff _).2 ⟨_, (TypeSet.contains_insert _ _ _).2 (Or.inl rfl)⟩
  have some_ints : ints.isEmpty = false :=
    (TypeSet.isEmpty_eq_false_iff _).2 ⟨_, (TypeSet.contains_insert _ _ _).2 (Or.inl rfl)⟩
  have law := accepts_iff_token_accepts r [.lineage "Post"] (.object post)
  have uses : "Timestamps" ∈ r.provider.traits "Post" := by
    have post_name : Name.normalize "Post" = "Post" := by decide +kernel
    have trait_name : Name.normalize "Timestamps" = "Timestamps" := by decide +kernel
    simp [r, Registry.provider, Registry.get?_declare, Declaration.withTrait, Declaration.ofName,
      post_name, trait_name]
  have carries : Token.Accepts r.provider (.named "Timestamps") (.object post) :=
    ⟨post, rfl, Or.inr ⟨_, .refl, _, uses, .refl⟩⟩
  have held : traits.contains (.named "Timestamps") = true :=
    (TypeSet.contains_insert _ _ _).2 (Or.inl rfl)
  exact ⟨some_traits, some_ints, (law.2 traits ints some_traits some_ints).2
    (Or.inl ((law.1 traits).2 (Or.inr ⟨_, held, carries⟩)))⟩

end Hierarchy

end RuntimeTypes
