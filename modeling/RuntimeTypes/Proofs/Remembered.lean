import RuntimeTypes.Matching.Check

/-!
# What a hierarchy remembers

A hierarchy over a source that does not change remembers for each class the lineage that the source
gives, after whatever questions. A lineage that was asked for is remembered, so a rule that asks
for it again is answered from memory, and trying the rules comes to asking once at most.
-/

namespace RuntimeTypes

namespace Hierarchy

variable {h : Hierarchy} {p : Provider} {s : TypeSet} {v : Value} {c : String}

/-- A hierarchy has the source, and remembers of it what the source says. -/
structure Faithful (h : Hierarchy) (p : Provider) : Prop where
  provider : h.provider = p
  cache : ∀ row ∈ h.cache, row.2 = p.lineage row.1

theorem faithful_ofProvider (p : Provider) : (ofProvider p).Faithful p :=
  ⟨rfl, by simp [ofProvider]⟩

theorem mem_cache_of_remembered? {known : Remembered} (found : h.remembered? c = some known) :
    (c, known.lineage) ∈ h.cache := by
  obtain ⟨row, hrow, rfl⟩ := Option.map_eq_some_iff.1 found
  have same : row.1.1 = c := by simpa using List.find?_some hrow
  have mem := List.fst_mem_of_mem_zipIdx (List.mem_of_find?_eq_some hrow)
  rwa [← same]

theorem lineage_lineage (hf : h.Faithful p) (c : String) :
    (h.lineage c).answer.lineage = p.lineage c := by
  unfold lineage
  split
  · rename_i known found
    exact hf.cache _ (mem_cache_of_remembered? found)
  · rw [← hf.provider]

theorem Faithful.lineage (hf : h.Faithful p) (c : String) :
    (h.lineage c).hierarchy.Faithful p := by
  unfold Hierarchy.lineage
  split
  · exact hf
  · refine ⟨hf.provider, fun row hrow => ?_⟩
    rcases List.mem_append.1 hrow with old | new
    · exact hf.cache row old
    · rw [List.mem_singleton.1 new, ← hf.provider]

theorem lineage_eq_done {known : Remembered} (found : h.remembered? c = some known) :
    h.lineage c = .done h known := by
  rw [lineage, found]
  rfl

theorem remembered?_lineage (h : Hierarchy) (c : String) :
    (h.lineage c).hierarchy.remembered? c = some (h.lineage c).answer := by
  cases known : h.remembered? c with
  | some known' =>
    rw [lineage_eq_done known]
    exact known
  | none =>
    have unknown : h.cache.zipIdx.find? (fun row => row.1.1 = c) = none := by
      simpa [remembered?] using known
    simp [lineage, remembered?, List.zipIdx_append, List.find?_append, unknown]

theorem lineage_again (h : Hierarchy) (c : String) :
    (h.lineage c).hierarchy.lineage c = .done (h.lineage c).hierarchy (h.lineage c).answer :=
  lineage_eq_done (h.remembered?_lineage c)

/-! ## Trying the rules -/

theorem done_andThen {α β : Type} (a : α) (next : α → Hierarchy → Reply β) :
    (Reply.done h a).andThen next = next a h := rfl

theorem done_map {α β : Type} (a : α) (f : α → β) : (Reply.done h a).map f = .done h (f a) := rfl

theorem lineageOf?_of_not_object (hv : v.toObject? = none) : h.lineageOf? v = .done h none := by
  rw [lineageOf?, hv]

theorem hasFlag_of_not_object (hv : v.toObject? = none) (wanted : Bool) (flag : Lineage → Bool) :
    h.hasFlag wanted flag v = .done h false := by
  rw [hasFlag, lineageOf?_of_not_object hv]
  cases wanted <;> rfl

theorem matchingRule_of_not_object (hv : v.toObject? = none) :
    h.matchingRule s v = .done h (s.rule? v none) := by
  simp only [matchingRule, TypeSet.rule?, hasFlag_of_not_object hv, lineageOf?_of_not_object hv,
    done_andThen, done_map, apply_ite (Reply.done h), Option.any_none, Bool.or_false,
    Bool.and_false, Bool.false_eq_true, if_false, Option.bind_none]

/-- Of an object the lineage of its class is asked for once, unless the set accepts everything or
holds the object's own token. -/
theorem matchingRule_object (h : Hierarchy) (s : TypeSet) (o : Object) :
    h.matchingRule s (.object o) =
      if s.acceptsAny || s.contains (.ofValue (.object o)) then
        .done h (s.rule? (.object o) none)
      else
        (h.lineage o.className.text).map fun known =>
          s.rule? (.object o) (some known.lineage) := by
  have again := h.lineage_again o.className.text
  by_cases any : s.acceptsAny = true
  · simp [matchingRule, TypeSet.rule?, any]
  by_cases own : s.contains (.ofValue (.object o)) = true
  · simp [matchingRule, TypeSet.rule?, any, own]
  simp only [matchingRule, TypeSet.rule?, any, own, hasFlag, lineageOf?, Value.toObject?,
    Value.kind, Kind.isScalar, Value.isNumber, Value.isUnsigned, Value.isArray, Value.isResource,
    Bool.and_false, Bool.false_eq_true, if_false, Bool.or_false, Bool.false_or]
  obtain ⟨⟨known, h', events⟩, asked⟩ : ∃ r, h.lineage o.className.text = r := ⟨_, rfl⟩
  rw [asked] at again
  cases s.contains (.pseudo .iterable) <;> cases s.contains (.pseudo .callable) <;>
    cases iterable : known.lineage.iterable <;> cases invocable : known.lineage.invocable <;>
    simp [Reply.map, Reply.andThen, Reply.done, asked, again, iterable, invocable]

/-- Trying the rules in turn comes to asking for the consulted lineage first, if there is one. -/
theorem matchingRule_eq (h : Hierarchy) (s : TypeSet) (v : Value) :
    h.matchingRule s v =
      match s.consultedClass? v with
      | none => .done h (s.rule? v none)
      | some c => (h.lineage c).map fun known => s.rule? v (some known.lineage) := by
  cases v with
  | object o =>
    rw [matchingRule_object, TypeSet.consultedClass?]
    split <;> rfl
  | _ => exact matchingRule_of_not_object rfl

theorem matchingRule_answer (hf : h.Faithful p) (s : TypeSet) (v : Value) :
    (h.matchingRule s v).answer =
      s.rule? v (v.toObject?.map fun o => p.lineage o.className.text) := by
  cases v with
  | object o =>
    rw [matchingRule_object]
    split
    · rename_i early
      rcases Bool.or_eq_true_iff.1 early with any | own
      · simp [Reply.done, TypeSet.rule?, any]
      · simp [Reply.done, TypeSet.rule?, own]
    · simp [Reply.map, lineage_lineage hf, Value.toObject?]
  | _ => exact congrArg Reply.answer (matchingRule_of_not_object rfl)

theorem matchingRule_answer_eq {g : Hierarchy} (hf : h.Faithful p) (gf : g.Faithful p)
    (s : TypeSet) (v : Value) : (h.matchingRule s v).answer = (g.matchingRule s v).answer := by
  rw [matchingRule_answer hf, matchingRule_answer gf]

theorem Faithful.matchingRule (hf : h.Faithful p) (s : TypeSet) (v : Value) :
    (h.matchingRule s v).hierarchy.Faithful p := by
  rw [matchingRule_eq]
  split
  · exact hf
  · exact hf.lineage _

/-! ## Series of questions -/

theorem hierarchy_check (h : Hierarchy) (s : TypeSet) (v : Value) (label : Option String) :
    (h.check s v label).hierarchy = (h.matchingRule s v).hierarchy := by
  rw [check]
  split <;> rfl

theorem Faithful.ask (hf : h.Faithful p) (q : Question) : (h.ask q).hierarchy.Faithful p := by
  cases q with
  | lineage c => exact hf.lineage c
  | rule s v => exact hf.matchingRule s v
  | accepts s v => exact hf.matchingRule s v
  | check s v label =>
    have after := hf.matchingRule s v
    rwa [← hierarchy_check h s v label] at after

theorem Faithful.askAll (hf : h.Faithful p) (qs : List Question) :
    (h.askAll qs).hierarchy.Faithful p := by
  induction qs generalizing h with
  | nil => exact hf
  | cons q qs ih => exact ih (hf.ask q)

end Hierarchy

end RuntimeTypes
