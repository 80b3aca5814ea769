import Mathlib.Data.List.Dedup
import RuntimeTypes.Proofs.Refusal
import RuntimeTypes.Proofs.Widening
import RuntimeTypes.Token.Order

/-!
# Sets are unions in a fixed order

A set that grew from nothing holds the tokens that came in, and nothing else shows in it: not their
order, nor how often they came, nor how they were spread over calls and over the parts of
specifications. The tokens are listed in their own order. What a set says about a specification is
what it says about the tokens of the specification.
-/

namespace RuntimeTypes

open Text (IsBlank)

namespace TypeSet

variable {s : TypeSet} {ts : List Token} {spec : TypeSpec} {specs specs' : List TypeSpec}

/-! ## Growing from nothing -/

theorem contains_growAll_empty (gs : List Growth) (t : Token) :
    (empty.growAll gs).contains t = true ↔ ∃ g ∈ gs, t ∈ g.tokens := by
  simp [contains_growAll, contains_empty]

theorem growAll_eq_of_same_tokens {gs gs' : List Growth}
    (same : ∀ t, (∃ g ∈ gs', t ∈ g.tokens) ↔ ∃ g ∈ gs, t ∈ g.tokens) :
    s.growAll gs' = s.growAll gs :=
  ext_contains fun t => by rw [contains_growAll, contains_growAll, same]

theorem mem_tokens_add_iff (read : ∀ spec ∈ specs, ∃ ts, spec.parse = .ok ts) {t : Token} :
    (∃ g ∈ specs.map Growth.add, t ∈ g.tokens) ↔
      ∃ v, (∃ spec ∈ specs, spec.Mentions v) ∧ TypeSpec.nameToken v = .ok t := by
  have tokens {spec : TypeSpec} (mem : spec ∈ specs) :
      t ∈ (Growth.add spec).tokens ↔ ∃ v, spec.Mentions v ∧ TypeSpec.nameToken v = .ok t := by
    obtain ⟨ts, read⟩ := read spec mem
    rw [← TypeSpec.mem_iff_of_parse read, Growth.tokens, read]
  constructor
  · rintro ⟨g, hg, ht⟩
    obtain ⟨spec, mem, rfl⟩ := List.mem_map.1 hg
    obtain ⟨v, mentions, token⟩ := (tokens mem).1 ht
    exact ⟨v, ⟨spec, mem, mentions⟩, token⟩
  · rintro ⟨v, ⟨spec, mem, mentions⟩, token⟩
    exact ⟨.add spec, List.mem_map_of_mem mem, (tokens mem).2 ⟨v, mentions, token⟩⟩

theorem growAll_add_eq_of_same_mentions (s : TypeSet)
    (read : ∀ spec ∈ specs, ∃ ts, spec.parse = .ok ts)
    (same : ∀ v, (∃ spec ∈ specs', spec.Mentions v) ↔ ∃ spec ∈ specs, spec.Mentions v) :
    (∀ spec ∈ specs', ∃ ts, spec.parse = .ok ts) ∧
      s.growAll (specs'.map .add) = s.growAll (specs.map .add) := by
  have read' : ∀ spec ∈ specs', ∃ ts, spec.parse = .ok ts := by
    intro spec' mem'
    rw [TypeSpec.exists_parse_iff]
    intro v mentions'
    obtain ⟨spec, mem, mentions⟩ := (same v).1 ⟨spec', mem', mentions'⟩
    exact TypeSpec.exists_parse_iff.1 (read spec mem) v mentions
  refine ⟨read', growAll_eq_of_same_tokens fun t => ?_⟩
  simp only [mem_tokens_add_iff read, mem_tokens_add_iff read', same]

/-! ## The listing -/

theorem pairwise_toList (s : TypeSet) : s.toList.Pairwise Token.Before :=
  Std.ExtTreeSet.ordered_toList.imp Token.compare_eq_lt_iff_before.1

theorem nodup_toList (s : TypeSet) : s.toList.Nodup :=
  Std.ExtTreeSet.distinct_toList.imp fun distinct same => by
    subst same
    exact distinct Std.compare_self

theorem size_growAll_empty (gs : List Growth) :
    (empty.growAll gs).size = (gs.flatMap Growth.tokens).dedup.length := by
  have same : (empty.growAll gs).toList.Perm (gs.flatMap Growth.tokens).dedup := by
    rw [List.perm_ext_iff_of_nodup (nodup_toList _) (List.nodup_dedup _)]
    intro t
    rw [mem_toList, contains_growAll_empty, List.mem_dedup, List.mem_flatMap]
  rw [← same.length_eq, size, toList, Std.ExtTreeSet.length_toList]

/-! ## Sets and specifications -/

/-- A set that grew from nothing is the union of the tokens that came in, so runs that bring the same
tokens lead to one set with one text, and it makes no difference in which order, how often and in how
many calls they come. Specifications can be put together and taken apart, too, and their parts moved:
what counts is what they list. The listing has every token once, in the order of tokens. In place the
same calls have the same effects, and an insert tells whether the token is new. A question about a
specification that is read is one about its tokens, and about the set that adding it or starting with
it would make. -/
theorem growAll_canonical (gs : List Growth) :
    let s := empty.growAll gs
    (∀ t, s.contains t = true ↔ ∃ g ∈ gs, t ∈ g.tokens) ∧
    (∀ gs', (∀ t, (∃ g ∈ gs', t ∈ g.tokens) ↔ ∃ g ∈ gs, t ∈ g.tokens) →
      empty.growAll gs' = s ∧ (empty.growAll gs').render = s.render) ∧
    (∀ specs specs' : List TypeSpec, (∀ spec ∈ specs, ∃ ts, spec.parse = .ok ts) →
      (∀ v, (∃ spec ∈ specs', spec.Mentions v) ↔ ∃ spec ∈ specs, spec.Mentions v) →
      (∀ spec ∈ specs', ∃ ts, spec.parse = .ok ts) ∧
        s.growAll (specs'.map .add) = s.growAll (specs.map .add)) ∧
    (s.toList.Pairwise Token.Before ∧ s.toList.Nodup ∧ ∀ t, t ∈ s.toList ↔ s.contains t = true) ∧
    s.size = (gs.flatMap Growth.tokens).dedup.length ∧
    ((∀ spec, ((addInPlace spec).on s).2 = s.grow (.add spec)) ∧
      (∀ t, (insertInPlace t).on s = (.ok !s.contains t, s.grow (.insert t))) ∧
      ∀ other, (unionInPlace other).on s = (.ok (), s.grow (.union other))) ∧
    ∀ spec ts, spec.parse = .ok ts →
      (∃ b, s.containsAll spec = .ok b ∧ (b = true ↔ ∀ t ∈ ts, s.contains t = true) ∧
        (b = true ↔ s.add spec = .ok s)) ∧
      (∃ b, s.containsAny spec = .ok b ∧ (b = true ↔ ∃ t ∈ ts, s.contains t = true)) ∧
      ∃ b, s.containsOnly spec = .ok b ∧ (b = true ↔ ∀ t, t ∈ ts ↔ s.contains t = true) ∧
        (b = true ↔ ofSpec spec = .ok s) := by
  intro s
  refine ⟨contains_growAll_empty gs, fun gs' same => ?_,
    fun specs specs' => growAll_add_eq_of_same_mentions s,
    ⟨pairwise_toList s, nodup_toList s, mem_toList s⟩, size_growAll_empty gs,
    ⟨fun spec => ?_, fun t => insertInPlace_on t s, fun other => unionInPlace_on other s⟩,
    fun spec ts read => ⟨⟨ts.all s.contains, ?_, ?_, ?_⟩, ⟨ts.any s.contains, ?_, ?_⟩,
      ⟨ofTokens ts = s, ?_, ?_, ?_⟩⟩⟩
  · have equal : empty.growAll gs' = s := growAll_eq_of_same_tokens same
    exact ⟨equal, congrArg render equal⟩
  · rw [addInPlace_on, grow]
    cases s.add spec <;> rfl
  · rw [containsAll_eq_map, read, Except.map]
  · exact List.all_eq_true
  · rw [add_eq_ok read, Except.ok.injEq, insertAll_eq_self_iff, List.all_eq_true]
  · rw [containsAny_eq_map, read, Except.map]
  · exact List.any_eq_true
  · rw [containsOnly_eq_map, read, Except.map]
  · rw [decide_eq_true_iff, ofTokens_eq_iff]
  · rw [decide_eq_true_iff, ofSpec, add_eq_ok read, Except.ok.injEq, ofTokens]

/-- Null, integers and a class come in by two runs; in one of them a call fails. Then a text is added,
or a list with two of its parts and a text with the third. -/
theorem growAll_canonical_of_label :
    let gs : List Growth := [.add (.union "string|no good"), .add (.union " ?int"),
      .insert (.named "Label"), .union (ofTokens [.basic .int])]
    let gs' : List Growth := [.add (.names [.string "\\Label", .string "int"]),
      .insert (.basic .null)]
    let specs : List TypeSpec := [.union "?int|string"]
    let specs' : List TypeSpec := [.names [.string "string", .string "null"], .union "int"]
    let s := empty.growAll gs
    let spec : TypeSpec := .union "int|null|Label"
    empty.growAll gs' = s ∧
    (∀ spec ∈ specs', ∃ ts, spec.parse = .ok ts) ∧
    s.growAll (specs'.map .add) = s.growAll (specs.map .add) ∧
    s.containsAny spec = .ok true ∧ s.containsOnly spec = .ok true := by
  intro gs gs' specs specs' s spec
  have tokens : gs.flatMap Growth.tokens =
      [.basic .null, .basic .int, .named "Label", .basic .int] := by decide +kernel
  have tokens' : gs'.flatMap Growth.tokens = [.named "Label", .basic .int, .basic .null] := by
    decide +kernel
  have same (t : Token) : (∃ g ∈ gs', t ∈ g.tokens) ↔ ∃ g ∈ gs, t ∈ g.tokens := by
    rw [← List.mem_flatMap, ← List.mem_flatMap, tokens, tokens']
    grind
  have read : ∀ spec ∈ specs, ∃ ts, spec.parse = .ok ts := by
    have parsed : (TypeSpec.union "?int|string").parse =
        .ok [.basic .null, .basic .int, .basic .string] := by decide +kernel
    exact List.forall_mem_singleton.2 ⟨_, parsed⟩
  have parts : TypeSpec.Divided "int|string".toList 0 ["int".toList, "string".toList] :=
    TypeSpec.divided_of_unmarked (by simp) (by decide)
      (TypeSpec.unmarked_of_not_mem (by decide)) (by decide)
  have mark : TypeSpec.Divided "?int|string".toList 1 ["int".toList, "string".toList] := by
    have text : "?int|string".toList = [] ++ '?' :: "int|string".toList := by decide
    have solid : ¬ IsBlank "int|string".toList := fun blank =>
      absurd (blank 'i' (by decide)) (by decide)
    rw [text]
    exact .mark Text.isBlank_nil solid parts
  have plain : TypeSpec.Divided "int".toList 0 ["int".toList] :=
    TypeSpec.divided_of_unmarked (by simp) (by decide)
      (TypeSpec.unmarked_of_not_mem (by decide)) (by decide)
  have mentions (v : Value) :
      (∃ spec ∈ specs', spec.Mentions v) ↔ ∃ spec ∈ specs, spec.Mentions v := by
    simp only [specs, specs', List.exists_mem_cons_iff, List.not_mem_nil, false_and, exists_false,
      or_false, (TypeSpec.Lists.union mark).mentions_iff, (TypeSpec.Lists.names _).mentions_iff,
      (TypeSpec.Lists.union plain).mentions_iff, TypeSpec.listed]
    simp [Kind.name]
    grind
  have read_spec : spec.parse = .ok [.basic .int, .basic .null, .named "Label"] := by decide +kernel
  obtain ⟨contains, equal, regroup, _, _, _, questions⟩ := growAll_canonical gs
  obtain ⟨_, ⟨b, any, shared⟩, c, only, equal_tokens, _⟩ := questions spec _ read_spec
  have held (t : Token) :
      s.contains t = true ↔ t ∈ [.basic .null, .basic .int, .named "Label", .basic .int] := by
    rw [contains, ← List.mem_flatMap, tokens]
  have b_true : b = true := shared.2 ⟨.basic .int, by simp, (held _).2 (by simp)⟩
  have c_true : c = true := equal_tokens.2 fun t => by
    rw [held]
    grind
  exact ⟨(equal gs' same).1, (regroup specs specs' read mentions).1,
    (regroup specs specs' read mentions).2, b_true ▸ any, c_true ▸ only⟩

end TypeSet

end RuntimeTypes
