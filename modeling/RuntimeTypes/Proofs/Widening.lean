import RuntimeTypes.Proofs.Defaults
import RuntimeTypes.Proofs.Transparency
import RuntimeTypes.TypeSet.Growth

/-!
# Growing sets widen

A set never loses a token. Every rule by which a set with tokens accepts a value asks for a token,
so what was accepted stays accepted as long as the value is judged by the same lineage; and this it
is, where the source does not change, and where the lineage was consulted before and is remembered.
The same goes for the questions that look at tokens alone: for null, for every value, for a default.
-/

namespace RuntimeTypes

/-! ## Merged sets

A merge puts the tokens of two sets together. Where both sets have tokens, the merge accepts what
either of them accepts. A set without tokens accepts everything but brings nothing to a merge, which
then is the other set: what only the empty one accepted is lost.
-/

namespace TypeSet

variable {s t : TypeSet}

theorem contains_eq_false_of_isEmpty (h : s.isEmpty = true) (u : Token) : s.contains u = false := by
  cases held : s.contains u with
  | false => rfl
  | true =>
    have some_token : s.isEmpty = false := (isEmpty_eq_false_iff s).2 ⟨u, held⟩
    rw [h] at some_token
    cases some_token

theorem union_of_isEmpty_left (h : s.isEmpty = true) : s.union t = t := by
  apply ext_contains
  intro u
  rw [contains_union, contains_eq_false_of_isEmpty h]
  simp

theorem union_of_isEmpty_right (h : t.isEmpty = true) : s.union t = s := by
  apply ext_contains
  intro u
  rw [contains_union, contains_eq_false_of_isEmpty h]
  simp

theorem isEmpty_union (hs : s.isEmpty = false) : (s.union t).isEmpty = false := by
  obtain ⟨u, hu⟩ := (isEmpty_eq_false_iff s).1 hs
  exact (isEmpty_eq_false_iff _).2 ⟨u, (contains_union s t u).2 (Or.inr hu)⟩

end TypeSet

namespace Hierarchy

variable {h : Hierarchy} {p : Provider} {s t : TypeSet} {v : Value}

theorem accepts_answer_iff_of_tokens (hf : h.Faithful p) (hs : s.isEmpty = false) :
    (h.accepts s v).answer = true ↔ ∃ u, s.contains u = true ∧ u.Accepts p v := by
  rw [accepts_answer_iff hf, hs]
  simp

theorem accepts_union_of_tokens (hf : h.Faithful p) (hs : s.isEmpty = false)
    (ht : t.isEmpty = false) :
    (h.accepts (s.union t) v).answer = ((h.accepts s v).answer || (h.accepts t v).answer) := by
  rw [Bool.eq_iff_iff, Bool.or_eq_true, accepts_answer_iff_of_tokens hf hs,
    accepts_answer_iff_of_tokens hf ht, accepts_answer_iff_of_tokens hf (TypeSet.isEmpty_union hs)]
  simp only [TypeSet.contains_union, or_and_right, exists_or]
  exact or_comm

theorem accepts_answer_eq {g : Hierarchy} (hf : h.Faithful p) (gf : g.Faithful p) :
    (h.accepts s v).answer = (g.accepts s v).answer :=
  congrArg Option.isSome (matchingRule_answer_eq hf gf s v)

/-- A merge of two sets with tokens accepts what was accepted by either before, and nothing else; a
merge with a set without tokens accepts what the other accepted. -/
theorem accepts_merged (p : Provider) (qs later : List Question) (s t : TypeSet) (v : Value) :
    let before := ((ofProvider p).askAll qs).hierarchy
    let after := (before.askAll later).hierarchy
    (after.accepts (s.union t) v).answer =
      if s.isEmpty then (before.accepts t v).answer
      else if t.isEmpty then (before.accepts s v).answer
      else (before.accepts s v).answer || (before.accepts t v).answer := by
  intro before after
  have faithful : before.Faithful p := (faithful_ofProvider p).askAll qs
  have still : after.Faithful p := faithful.askAll later
  rw [accepts_answer_eq still faithful]
  cases hs : s.isEmpty with
  | true => rw [if_pos rfl, TypeSet.union_of_isEmpty_left hs]
  | false =>
    rw [if_neg (by simp)]
    cases ht : t.isEmpty with
    | true => rw [if_pos rfl, TypeSet.union_of_isEmpty_right ht]
    | false => rw [if_neg (by simp), accepts_union_of_tokens faithful hs ht]

/-- A set without tokens accepts null. Merged with the integers, in either order, it does not. -/
theorem merge_loses_null :
    let h := ofProvider Registry.empty.provider
    let ints := TypeSet.empty.insert (.basic .int)
    (h.accepts .empty .null).answer = true ∧
      (h.accepts (TypeSet.empty.union ints) .null).answer = false ∧
      (h.accepts (ints.union .empty) .null).answer = false := by
  decide +kernel

end Hierarchy

/-! ## Steps of growth -/

namespace TypeSet

variable {s t u : TypeSet} {g : Growth} {gs : List Growth} {v : Value} {l l' : Option Lineage}

/-- Every token of one set is in the other. -/
instance : HasSubset TypeSet where
  Subset s t := ∀ u, s.contains u = true → t.contains u = true

/-! ### Tokens along a history -/

theorem contains_grow (s : TypeSet) (g : Growth) (u : Token) :
    (s.grow g).contains u = true ↔ u ∈ g.tokens ∨ s.contains u = true := by
  rw [grow_eq_insertAll, contains_insertAll]

theorem contains_growAll (s : TypeSet) (gs : List Growth) (u : Token) :
    (s.growAll gs).contains u = true ↔ (∃ g ∈ gs, u ∈ g.tokens) ∨ s.contains u = true := by
  induction gs generalizing s with
  | nil => simp [growAll]
  | cons g gs ih =>
    rw [growAll, List.foldl_cons, ← growAll, ih, contains_grow, ← or_assoc]
    refine or_congr_left ?_
    simp only [List.mem_cons, exists_eq_or_imp]
    exact or_comm

theorem subset_growAll (s : TypeSet) (gs : List Growth) : s ⊆ s.growAll gs :=
  fun u held => (contains_growAll s gs u).2 (Or.inr held)

theorem isEmpty_eq_false_of_subset (sub : s ⊆ t) (some : s.isEmpty = false) :
    t.isEmpty = false := by
  obtain ⟨u, held⟩ := (isEmpty_eq_false_iff s).1 some
  exact (isEmpty_eq_false_iff t).2 ⟨u, sub u held⟩

/-! ### Questions about tokens -/

theorem acceptsAny_of_subset (sub : s ⊆ t) (some : s.isEmpty = false)
    (any : s.acceptsAny = true) : t.acceptsAny = true := by
  rcases acceptsAny_iff.1 any with none | mixed
  · rw [some] at none
    cases none
  · exact acceptsAny_iff.2 (Or.inr (sub _ mixed))

theorem acceptsNull_of_subset (sub : s ⊆ t) (some : s.isEmpty = false)
    (null : s.acceptsNull = true) : t.acceptsNull = true :=
  acceptsNull_iff.2 ((acceptsNull_iff.1 null).imp (sub _) (acceptsAny_of_subset sub some))

theorem isSome_inferDefault?_of_subset (sub : s ⊆ t) (some : s.isEmpty = false)
    {heap heap' : Heap} (found : (s.inferDefault? heap).isSome = true) :
    (t.inferDefault? heap').isSome = true := by
  rw [isSome_inferDefault?_iff, isSome_defaultKind?_iff] at found ⊢
  rcases found with none | ⟨u, held, stands⟩
  · rw [some] at none
    cases none
  · exact Or.inr ⟨u, sub u held, stands⟩

/-! ### Rules -/

theorem isSome_namedRule?_of_subset (sub : s ⊆ t) {l : Lineage}
    (found : (s.namedRule? l).isSome = true) : (t.namedRule? l).isSome = true := by
  rw [namedRule?, List.isSome_findSome?, List.any_eq_true] at found ⊢
  obtain ⟨u, held, rule⟩ := found
  rw [mem_toList] at held
  exact ⟨u, (mem_toList t u).2 (sub u held), rule⟩

/-- Where a rule of a set applies, one of a larger set does, if not the same. The lineage may become
known in between. -/
theorem isSome_rule?_of_subset (sub : s ⊆ t) (some : s.isEmpty = false)
    (known : ∀ m ∈ l, l' = Option.some m) (found : (s.rule? v l).isSome = true) :
    (t.rule? v l').isSome = true := by
  have flag (f : Lineage → Bool) (raised : l.any f = true) : l'.any f = true := by
    cases l with
    | none => cases raised
    | some m =>
      rw [known m rfl]
      exact raised
  rw [isSome_rule?_iff] at found ⊢
  rcases found with any | own | ⟨scalar, kind⟩ | ⟨number, kind⟩ | ⟨uint, sign⟩ |
    ⟨iterable, array | raised⟩ | ⟨callable, raised⟩ | ⟨resource, kind⟩ | ⟨m, hm, general⟩
  · exact Or.inl (acceptsAny_of_subset sub some any)
  · simp only [sub _ own, true_or, or_true]
  · simp only [sub _ scalar, kind, and_self, true_or, or_true]
  · simp only [sub _ number, kind, and_self, true_or, or_true]
  · simp only [sub _ uint, sign, and_self, true_or, or_true]
  · simp only [sub _ iterable, array, true_or, and_self, or_true]
  · simp only [sub _ iterable, flag _ raised, or_true, and_self, true_or]
  · simp only [sub _ callable, flag _ raised, and_self, true_or, or_true]
  · simp only [sub _ resource, kind, and_self, true_or, or_true]
  · have general' : ∃ m, l' = Option.some m ∧
        (t.contains (.basic .object) = true ∨ (t.namedRule? m).isSome = true) :=
      ⟨m, known m hm, general.imp (sub _) (isSome_namedRule?_of_subset sub)⟩
    simp only [general', or_true]

end TypeSet

namespace Hierarchy

variable {g h : Hierarchy} {p : Provider} {s t : TypeSet} {v : Value}

theorem matchingRule_answer_eq_rule? (h : Hierarchy) (s : TypeSet) (v : Value) :
    (h.matchingRule s v).answer = s.rule? v (h.lineageOf? v).answer := by
  cases v with
  | object o =>
    rw [matchingRule_object]
    split
    · rename_i early
      rcases Bool.or_eq_true_iff.1 early with any | own
      · simp [Reply.done, TypeSet.rule?, any]
      · simp [Reply.done, TypeSet.rule?, own]
    · rfl
  | _ => exact congrArg Reply.answer (matchingRule_of_not_object rfl)

theorem accepts_of_subset (sub : s ⊆ t) (some : s.isEmpty = false) {l : Option Lineage}
    (known : ∀ m ∈ l, (h.lineageOf? v).answer = Option.some m)
    (found : (s.rule? v l).isSome = true) : (h.accepts t v).answer = true := by
  show (h.matchingRule t v).answer.isSome = true
  rw [matchingRule_answer_eq_rule?]
  exact TypeSet.isSome_rule?_of_subset sub some known found

theorem accepts_of_faithful (sub : s ⊆ t) (some : s.isEmpty = false) (gf : g.Faithful p)
    (hf : h.Faithful p) (accepted : (g.accepts s v).answer = true) :
    (h.accepts t v).answer = true := by
  have same : (g.lineageOf? v).answer = (h.lineageOf? v).answer := by
    rw [lineageOf?, lineageOf?]
    cases v.toObject? with
    | none => rfl
    | some o =>
      have lineages := (lineage_lineage gf o.className.text).trans
        (lineage_lineage hf o.className.text).symm
      exact congrArg Option.some lineages
  have found : (s.rule? v (g.lineageOf? v).answer).isSome = true := by
    rwa [← matchingRule_answer_eq_rule?]
  exact accepts_of_subset sub some (fun m hm => same ▸ hm) found

/-- What was accepted once is accepted by a larger set, wherever the rows of the cache are still
there: either no lineage was consulted, or it is remembered. The source may be another one. -/
theorem accepts_of_longer (sub : s ⊆ t) (some : s.isEmpty = false)
    (longer : (g.accepts s v).hierarchy.cache <+: h.cache)
    (accepted : (g.accepts s v).answer = true) : (h.accepts t v).answer = true := by
  have asked := matchingRule_eq_consult g s v
  have found : (s.rule? v (g.consult (s.consultedClass? v)).answer).isSome = true := by
    rw [accepts, asked] at accepted
    exact accepted
  rw [accepts, asked] at longer
  refine accepts_of_subset sub some (fun m hm => ?_) found
  cases consulted : s.consultedClass? v with
  | none =>
    rw [consulted] at hm
    cases hm
  | some c =>
    obtain ⟨o, rfl, rfl⟩ : ∃ o, v = .object o ∧ o.className.text = c := by
      cases v with
      | object o =>
        rw [TypeSet.consultedClass?] at consulted
        split at consulted
        · cases consulted
        · exact ⟨o, rfl, Option.some.inj consulted⟩
      | _ => cases consulted
    rw [consulted] at hm longer
    have row := remembered?_of_longer longer (g.remembered?_lineage o.className.text)
    rw [lineageOf?, Value.toObject?]
    show Option.some (h.lineage o.className.text).answer.lineage = _
    rw [lineage_eq_done row]
    exact hm

/-- The contract of a set with tokens only widens. Between two points of a run of additions, some of
which may fail, nothing is lost that was there at the first: no token, and no accepted value,
whatever the classes are and whatever is asked at any time. Where the source of the classes changes
in between, that goes for the values that were asked about, since their lineages are remembered. A
set that accepts every value, or null, or has a default, keeps doing so. -/
theorem growAll_widens (s : TypeSet) (some : s.isEmpty = false) (gs more : List TypeSet.Growth) :
    let earlier := s.growAll gs
    let grown := earlier.growAll more
    (∀ (p : Provider) (qs later : List Question) (v : Value),
      let before := ((ofProvider p).askAll qs).hierarchy
      let after := (before.askAll later).hierarchy
      (before.accepts earlier v).answer = true → (after.accepts grown v).answer = true) ∧
    (∀ (g h : Hierarchy) (v : Value), (g.accepts earlier v).answer = true →
      (g.accepts earlier v).hierarchy.cache <+: h.cache → (h.accepts grown v).answer = true) ∧
    (∀ t, earlier.contains t = true → grown.contains t = true) ∧
    (earlier.acceptsAny = true → grown.acceptsAny = true) ∧
    (earlier.acceptsNull = true → grown.acceptsNull = true) ∧
    ∀ heap heap', (earlier.inferDefault? heap).isSome = true →
      (grown.inferDefault? heap').isSome = true := by
  intro earlier grown
  have nonempty : earlier.isEmpty = false :=
    TypeSet.isEmpty_eq_false_of_subset (TypeSet.subset_growAll s gs) some
  have sub : earlier ⊆ grown := TypeSet.subset_growAll earlier more
  refine ⟨fun p qs later v => ?_, fun g h v accepted longer => ?_, sub,
    TypeSet.acceptsAny_of_subset sub nonempty, TypeSet.acceptsNull_of_subset sub nonempty,
    fun heap heap' => TypeSet.isSome_inferDefault?_of_subset sub nonempty⟩
  · intro before after accepted
    have faithful : before.Faithful p := (faithful_ofProvider p).askAll qs
    exact accepts_of_faithful sub nonempty faithful (faithful.askAll later) accepted
  · exact accepts_of_longer sub nonempty longer accepted

/-- Reports are documents. A set that has come to hold documents accepts a report, and still does so
after a list of names with a fault and a set with null. It also does so where reports are no longer
declared, as long as their lineage is remembered. -/
theorem growAll_widens_of_report :
    let r := Registry.empty.declare ⟨"Report", some "Document", [], [], false, false⟩
    let ints := TypeSet.empty.insert (.basic .int)
    let earlier := ints.growAll [.insert (.named "Document")]
    let grown := earlier.growAll
      [.add (.names [.int 5]), .union (TypeSet.empty.insert (.basic .null))]
    let report : Value := .object ⟨0, ⟨"Report", by decide +kernel⟩⟩
    let first := (ofProvider r.provider).accepts earlier report
    let undeclared := { first.hierarchy with provider := Registry.empty.provider }
    ints.isEmpty = false ∧ first.answer = true ∧
      first.hierarchy.cache <+: undeclared.cache ∧
      earlier.contains (.named "Document") = true ∧
      (earlier.inferDefault? .empty).isSome = true ∧
      (first.hierarchy.accepts grown report).answer = true ∧
      (undeclared.accepts grown report).answer = true ∧
      grown.contains (.named "Document") = true ∧
      (grown.inferDefault? .empty).isSome = true := by
  intro r ints earlier grown report first undeclared
  have int : ints.contains (.basic .int) = true := TypeSet.contains_insert_self _ _
  have some : ints.isEmpty = false := TypeSet.isEmpty_insert _ _
  have held : earlier.contains (.named "Document") = true := TypeSet.contains_insert_self _ _
  have default : (earlier.inferDefault? .empty).isSome = true := by
    rw [TypeSet.isSome_inferDefault?_iff, TypeSet.isSome_defaultKind?_iff]
    exact Or.inr ⟨.basic .int, TypeSet.subset_growAll ints _ _ int, rfl⟩
  have up : r.provider.parent "Report" = Option.some "Document" := by
    simp [r, Registry.provider, Registry.get?_declare]
  have document : r.provider.Supertype "Report" "Document" :=
    ⟨"Document", .tail .refl (Provider.mem_parents.2 up), .refl⟩
  have accepted : first.answer = true :=
    (accepts_answer_iff (faithful_ofProvider _)).2
      (Or.inr ⟨.named "Document", held, _, rfl, Or.inl document⟩)
  have remembered : first.hierarchy.cache <+: undeclared.cache := List.prefix_refl _
  obtain ⟨still, elsewhere, contained, _, _, defaults⟩ :=
    growAll_widens ints some [.insert (.named "Document")]
      [.add (.names [.int 5]), .union (TypeSet.empty.insert (.basic .null))]
  exact ⟨some, accepted, remembered, held, default,
    still r.provider [] [.accepts earlier report] report accepted,
    elsewhere _ undeclared report accepted remembered,
    contained _ held, defaults .empty .empty default⟩

end Hierarchy

end RuntimeTypes
