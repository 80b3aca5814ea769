import RuntimeTypes.Proofs.Inheritance

/-!
# What a declaration changes

A lineage is computed from what the source says of its supertypes and of its traits, and from
nothing else. So a declaration leaves every lineage as it is in which its name does not occur, also
where it replaces another. Where nothing was declared under its name before, it takes nothing away
either: all paths stay, and no lineage loses anything.
-/

namespace RuntimeTypes

namespace Provider

variable {p q : Provider} {c n t : String}

/-- Two sources say the same of a name. -/
structure AgreeAt (p q : Provider) (n : String) : Prop where
  parent : p.parent n = q.parent n
  interfaces : p.interfaces n = q.interfaces n
  traits : p.traits n = q.traits n
  iterable : p.iterable n = q.iterable n
  invocable : p.invocable n = q.invocable n

/-- All that one source says the other says as well. -/
structure Within (p q : Provider) : Prop where
  parents : ∀ n, ∀ m ∈ p.parents n, m ∈ q.parents n
  interfaces : ∀ n, ∀ m ∈ p.interfaces n, m ∈ q.interfaces n
  traits : ∀ n, ∀ m ∈ p.traits n, m ∈ q.traits n
  iterable : ∀ n, p.iterable n = true → q.iterable n = true
  invocable : ∀ n, p.invocable n = true → q.invocable n = true

/-! ## Sources that agree on a lineage -/

theorem reachable_parents_congr (agree : ∀ n, p.Supertype c n → p.AgreeAt q n) {d : String} :
    Reachable p.parents c d ↔ Reachable q.parents c d := by
  refine reachable_congr fun e path => ?_
  rw [parents, parents, (agree e ⟨e, path, .refl⟩).parent]

theorem supertype_congr (agree : ∀ n, p.Supertype c n → p.AgreeAt q n) :
    p.Supertype c n ↔ q.Supertype c n := by
  simp only [Supertype, ← reachable_parents_congr agree]
  refine exists_congr fun d => and_congr_right fun up => ?_
  exact reachable_congr fun e across => (agree e ⟨d, up, across⟩).interfaces

theorem carries_congr (agree : ∀ n, p.Supertype c n → p.AgreeAt q n)
    (uses : ∀ t, p.Carries c t → p.traits t = q.traits t) : p.Carries c t ↔ q.Carries c t := by
  simp only [Carries, ← reachable_parents_congr agree]
  refine exists_congr fun d => and_congr_right fun up => ?_
  rw [← (agree d ⟨d, up, .refl⟩).traits]
  refine exists_congr fun u => and_congr_right fun used => ?_
  exact reachable_congr fun e path => uses e ⟨d, up, u, used, path⟩

/-- The lineage of a class depends on what is said of its supertypes and its traits alone. -/
theorem lineage_congr (agree : ∀ n, p.Supertype c n → p.AgreeAt q n)
    (uses : ∀ t, p.Carries c t → p.traits t = q.traits t) : p.lineage c = q.lineage c := by
  have supertypes (n : String) : p.Supertype c n ↔ q.Supertype c n := supertype_congr agree
  have traits (t : String) : p.Carries c t ↔ q.Carries c t := carries_congr agree uses
  have agree' : ∀ n, q.Supertype c n → p.AgreeAt q n := fun n above =>
    agree n ((supertypes n).2 above)
  refine Lineage.eq_of_extends ?_ ?_ fun t => ?_
  · refine lineage_extends_across (fun n => (supertypes n).2) ?_ ?_
    · exact fun n above flag => (agree' n above).iterable ▸ flag
    · exact fun n above flag => (agree' n above).invocable ▸ flag
  · refine lineage_extends_across (fun n => (supertypes n).1) ?_ ?_
    · exact fun n above flag => (agree n above).iterable ▸ flag
    · exact fun n above flag => (agree n above).invocable ▸ flag
  · rw [usesTrait_lineage, usesTrait_lineage]
    exact traits t

/-! ## Sources that say more -/

theorem Supertype.of_within (more : p.Within q) (above : p.Supertype c n) : q.Supertype c n := by
  obtain ⟨d, up, across⟩ := above
  exact ⟨d, Relation.ReflTransGen.mono more.parents _ _ up,
    Relation.ReflTransGen.mono more.interfaces _ _ across⟩

theorem Carries.of_within (more : p.Within q) (above : p.Carries c t) : q.Carries c t := by
  obtain ⟨d, up, u, used, uses⟩ := above
  exact ⟨d, Relation.ReflTransGen.mono more.parents _ _ up, u, more.traits d u used,
    Relation.ReflTransGen.mono more.traits _ _ uses⟩

theorem lineage_extends_of_within (more : p.Within q) :
    (q.lineage c).Extends (p.lineage c) :=
  lineage_extends_across (fun _ => .of_within more) (fun n _ => more.iterable n)
    (fun n _ => more.invocable n)

theorem usesTrait_of_within (more : p.Within q) (used : (p.lineage c).usesTrait t = true) :
    (q.lineage c).usesTrait t = true :=
  usesTrait_lineage.2 (.of_within more (usesTrait_lineage.1 used))

end Provider

namespace Registry

variable {r : Registry} {d : Declaration} {n : String}

/-! ## Declarations -/

theorem get?_declare_of_ne (other : d.name ≠ n) : (r.declare d).get? n = r.get? n := by
  rw [get?_declare, if_neg other]

theorem agreeAt_declare (other : d.name ≠ n) : r.provider.AgreeAt (r.declare d).provider n := by
  have same : (r.declare d).get? n = r.get? n := get?_declare_of_ne other
  constructor <;> simp only [provider, same]

theorem within_declare (undeclared : r.get? d.name = none) :
    r.provider.Within (r.declare d).provider := by
  have same (n : String) : r.get? n = none ∨ (r.declare d).get? n = r.get? n := by
    by_cases here : d.name = n
    · exact Or.inl (here ▸ undeclared)
    · exact Or.inr (get?_declare_of_ne here)
  constructor <;> intro n
  all_goals
    rcases same n with none | kept
    · simp [provider, Provider.parents, none]
    · simp [provider, Provider.parents, kept]

end Registry

namespace Hierarchy

/-- What a declaration changes in the lineage of a class, whatever was asked before it and after it:
nothing where the lineage has its name neither among the supertypes nor among the traits, be it a new
declaration or one that replaces another. And where the name was not declared before, the lineage
loses nothing, and what a set accepted of the objects of the class it still accepts. -/
theorem lineage_declare (r : Registry) (d : Declaration) (qs qs' : List Question) (c : String) :
    let h := ((ofProvider r.provider).askAll qs).hierarchy
    let h' := ((ofProvider (r.declare d).provider).askAll qs').hierarchy
    let before := (h.lineage c).answer.lineage
    let after := (h'.lineage c).answer.lineage
    (before.isA d.name = false → before.usesTrait d.name = false → after = before) ∧
    (r.get? d.name = none →
      after.Extends before ∧ (∀ t, before.usesTrait t = true → after.usesTrait t = true) ∧
      ∀ (s : TypeSet) (o : Object), o.className.text = c →
        (h.accepts s (.object o)).answer = true → (h'.accepts s (.object o)).answer = true) := by
  intro h h' before after
  have hf : h.Faithful r.provider := (faithful_ofProvider r.provider).askAll qs
  have hf' : h'.Faithful (r.declare d).provider := (faithful_ofProvider _).askAll qs'
  have hBefore : before = r.provider.lineage c := lineage_lineage hf c
  have hAfter : after = (r.declare d).provider.lineage c := lineage_lineage hf' c
  rw [hBefore, hAfter]
  refine ⟨fun noSupertype noTrait => ?_, fun undeclared => ⟨?_, ?_, ?_⟩⟩
  · refine (Provider.lineage_congr (fun n above => ?_) fun t carried => ?_).symm
    · refine Registry.agreeAt_declare fun same => ?_
      rw [same, Provider.isA_lineage.2 above] at noSupertype
      cases noSupertype
    · refine (Registry.agreeAt_declare fun same => ?_).traits
      rw [same, Provider.usesTrait_lineage.2 carried] at noTrait
      cases noTrait
  · exact Provider.lineage_extends_of_within (Registry.within_declare undeclared)
  · exact fun t => Provider.usesTrait_of_within (Registry.within_declare undeclared)
  · rintro s o rfl accepts
    have more := Registry.within_declare undeclared
    exact accepts_of_extends hf' hf (Provider.lineage_extends_of_within more)
      (fun _ => Provider.usesTrait_of_within more) accepts

/-- Invoices are entries and audited, and entries are not declared. Orders do not occur in their
lineage, which so stays when orders are declared anew, as invoices. Once entries are declared, with a
parent of their own, invoices are still accepted where audited things are. -/
theorem lineage_declare_of_invoice :
    let r := (Registry.empty.declare ⟨"Order", none, [], [], true, false⟩).declare
      ⟨"Invoice", some "Entry", [], ["Audited"], false, false⟩
    let order : Declaration := ⟨"Order", some "Invoice", [], [], false, false⟩
    let entry : Declaration := ⟨"Entry", some "Record", [], ["Dated"], false, false⟩
    let h := ofProvider r.provider
    let before := (h.lineage "Invoice").answer.lineage
    let audited := TypeSet.empty.insert (.named "Audited")
    let invoice : Object := ⟨0, ⟨"Invoice", by decide +kernel⟩⟩
    ((r.get? "Order").isSome = true ∧ before.isA "Order" = false ∧
      before.usesTrait "Order" = false ∧ r.get? "Entry" = none ∧
      (h.accepts audited (.object invoice)).answer = true) ∧
    ((ofProvider (r.declare order).provider).lineage "Invoice").answer.lineage = before ∧
    ((ofProvider (r.declare entry).provider).accepts audited (.object invoice)).answer = true := by
  intro r order entry h before audited invoice
  have declared : r.provider.parents "Invoice" = ["Entry"] ∧ r.provider.parents "Entry" = [] ∧
      r.provider.interfaces "Invoice" = [] ∧ r.provider.interfaces "Entry" = [] ∧
      r.provider.traits "Invoice" = ["Audited"] ∧ r.provider.traits "Entry" = [] ∧
      r.provider.traits "Audited" = [] := by
    simp [r, Registry.provider, Provider.parents, Registry.get?_declare, Registry.get?_empty]
  have replaced : (r.get? "Order").isSome = true := by
    simp [r, Registry.get?_declare]
  have undeclared : r.get? "Entry" = none := by
    simp [r, Registry.get?_declare, Registry.get?_empty]
  have parents : Closed r.provider.parents ["Invoice", "Entry"] := by
    simp [Closed, declared]
  have interfaces : Closed r.provider.interfaces ["Invoice", "Entry"] := by
    simp [Closed, declared]
  have uses : ∀ d ∈ ["Invoice", "Entry"], ∀ u ∈ r.provider.traits d, u ∈ ["Audited"] := by
    simp [declared]
  have traits : Closed r.provider.traits ["Audited"] := by
    simp [Closed, declared]
  have isA : before.isA "Order" = false := by
    refine Bool.eq_false_iff.2 fun above => ?_
    have above : r.provider.Supertype "Invoice" "Order" := Provider.isA_lineage.1 above
    exact absurd (above.mem_of_closed parents interfaces (by simp)) (by decide)
  have usesTrait : before.usesTrait "Order" = false := by
    refine Bool.eq_false_iff.2 fun used => ?_
    have carried : r.provider.Carries "Invoice" "Order" := Provider.usesTrait_lineage.1 used
    exact absurd (carried.mem_of_closed parents uses traits (by simp)) (by decide)
  have accepted : (h.accepts audited (.object invoice)).answer = true :=
    (accepts_answer_iff (faithful_ofProvider _)).2 (Or.inr ⟨.named "Audited",
      TypeSet.contains_insert_self _ _, invoice, rfl,
      Or.inr ⟨_, .refl, "Audited", by simp [invoice, declared], .refl⟩⟩)
  obtain ⟨still, _⟩ := lineage_declare r order [] [] "Invoice"
  obtain ⟨_, more⟩ := lineage_declare r entry [] [] "Invoice"
  obtain ⟨_, _, accepts⟩ := more undeclared
  exact ⟨⟨replaced, isA, usesTrait, undeclared, accepted⟩, still isA usesTrait,
    accepts audited invoice rfl accepted⟩

end Hierarchy

end RuntimeTypes
