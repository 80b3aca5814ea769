import RuntimeTypes.Proofs.Matching

/-!
# Inheritance

A path of parents from a class to an ancestor starts every path of the ancestor, so the class has
the supertypes and the traits of the ancestor and is iterable or invocable where the ancestor is.
Whatever a set accepts of the ancestor's objects it accepts of the class's. An interface without a
parent of its own is inherited in the same way, except for traits, which interfaces do not hand on.
-/

namespace RuntimeTypes

namespace Lineage

/-- A class is everything that another is. Traits are not compared. -/
structure Extends (l m : Lineage) : Prop where
  supertypes : ∀ n, m.isA n = true → l.isA n = true
  iterable : m.iterable = true → l.iterable = true
  invocable : m.invocable = true → l.invocable = true

theorem eq_of_extends {l m : Lineage} (down : l.Extends m) (up : m.Extends l)
    (traits : ∀ t, l.usesTrait t = true ↔ m.usesTrait t = true) : l = m := by
  obtain ⟨lSupertypes, lTraits, lIterable, lInvocable⟩ := l
  obtain ⟨mSupertypes, mTraits, mIterable, mInvocable⟩ := m
  have supertypes : lSupertypes = mSupertypes := by
    apply Std.ExtTreeSet.ext_contains
    intro n
    exact Bool.eq_iff_iff.2 ⟨up.supertypes n, down.supertypes n⟩
  have traits : lTraits = mTraits := by
    apply Std.ExtTreeSet.ext_contains
    intro t
    exact Bool.eq_iff_iff.2 (traits t)
  have iterable : lIterable = mIterable := Bool.eq_iff_iff.2 ⟨up.iterable, down.iterable⟩
  have invocable : lInvocable = mInvocable := Bool.eq_iff_iff.2 ⟨up.invocable, down.invocable⟩
  rw [supertypes, traits, iterable, invocable]

end Lineage

namespace Provider

variable {p : Provider} {c d n t : String}

/-! ## Supertypes and traits along paths -/

theorem Supertype.of_parents (path : Reachable p.parents c d) (above : p.Supertype d n) :
    p.Supertype c n := by
  obtain ⟨e, up, across⟩ := above
  exact ⟨e, path.trans up, across⟩

theorem Carries.of_parents (path : Reachable p.parents c d) (above : p.Carries d t) :
    p.Carries c t := by
  obtain ⟨e, up, u, used, uses⟩ := above
  exact ⟨e, path.trans up, u, used, uses⟩

theorem eq_of_reachable_of_no_parent (root : p.parent d = none) {e : String}
    (path : Reachable p.parents d e) : e = d := by
  refine (Relation.reflTransGen_iff_eq fun f => ?_).1 path
  simp [mem_parents, root]

theorem Supertype.of_no_parent (root : p.parent d = none) (below : p.Supertype c d)
    (above : p.Supertype d n) : p.Supertype c n := by
  obtain ⟨e, up, across⟩ := below
  obtain ⟨f, none_up, further⟩ := above
  rw [eq_of_reachable_of_no_parent root none_up] at further
  exact ⟨e, up, across.trans further⟩

/-! ## Lineages -/

/-- A class that by one source has all that another has by another source has its flags as well,
where the one source raises the flags that the other does. -/
theorem lineage_extends_across {q : Provider} (inherits : ∀ n, p.Supertype d n → q.Supertype c n)
    (iterable : ∀ n, p.Supertype d n → p.iterable n = true → q.iterable n = true)
    (invocable : ∀ n, p.Supertype d n → p.invocable n = true → q.invocable n = true) :
    (q.lineage c).Extends (p.lineage d) where
  supertypes n above := isA_lineage.2 (inherits n (isA_lineage.1 above))
  iterable flag := by
    obtain ⟨n, above, hn⟩ := iterable_lineage.1 flag
    exact iterable_lineage.2 ⟨n, inherits n above, iterable n above hn⟩
  invocable flag := by
    obtain ⟨n, above, hn⟩ := invocable_lineage.1 flag
    exact invocable_lineage.2 ⟨n, inherits n above, invocable n above hn⟩

theorem lineage_extends (inherits : ∀ n, p.Supertype d n → p.Supertype c n) :
    (p.lineage c).Extends (p.lineage d) :=
  lineage_extends_across inherits (fun _ _ => id) (fun _ _ => id)

theorem lineage_extends_of_parents (path : Reachable p.parents c d) :
    (p.lineage c).Extends (p.lineage d) :=
  lineage_extends fun _ => Supertype.of_parents path

theorem usesTrait_of_parents (path : Reachable p.parents c d)
    (above : (p.lineage d).usesTrait t = true) : (p.lineage c).usesTrait t = true :=
  usesTrait_lineage.2 (.of_parents path (usesTrait_lineage.1 above))

theorem lineage_eq_of_cycle (there : Reachable p.parents c d) (back : Reachable p.parents d c) :
    p.lineage c = p.lineage d :=
  Lineage.eq_of_extends (lineage_extends_of_parents there) (lineage_extends_of_parents back)
    fun _ => ⟨usesTrait_of_parents back, usesTrait_of_parents there⟩

end Provider

/-! ## Objects -/

theorem Token.Accepts.of_extends {p q : Provider} {o o' : Object} {t : Token}
    (more : (q.lineage o.className.text).Extends (p.lineage o'.className.text))
    (traits : ∀ u, (p.lineage o'.className.text).usesTrait u = true →
      (q.lineage o.className.text).usesTrait u = true)
    (accepts : t.Accepts p (.object o')) : t.Accepts q (.object o) := by
  cases t with
  | basic kind => exact accepts
  | pseudo category =>
    cases category with
    | iterable =>
      rw [TypeSet.accepts_iterable_iff] at accepts ⊢
      exact accepts.imp id more.iterable
    | callable =>
      rw [TypeSet.accepts_callable_iff] at accepts ⊢
      exact more.invocable accepts
    | uint =>
      obtain ⟨_, same, _⟩ := accepts
      cases same
    | _ => exact accepts
  | resource kind =>
    obtain ⟨_, same, _⟩ := accepts
    cases same
  | named name =>
    obtain ⟨_, same, related⟩ := accepts
    cases same
    rw [← Provider.isA_lineage, ← Provider.usesTrait_lineage] at related
    refine ⟨o, rfl, ?_⟩
    rw [← Provider.isA_lineage, ← Provider.usesTrait_lineage]
    exact related.imp (more.supertypes name) (traits name)

namespace Hierarchy

theorem accepts_of_extends {h g : Hierarchy} {p q : Provider} (hf : h.Faithful q)
    (gf : g.Faithful p) {s : TypeSet} {o o' : Object}
    (more : (q.lineage o.className.text).Extends (p.lineage o'.className.text))
    (traits : ∀ u, (p.lineage o'.className.text).usesTrait u = true →
      (q.lineage o.className.text).usesTrait u = true)
    (accepts : (g.accepts s (.object o')).answer = true) :
    (h.accepts s (.object o)).answer = true := by
  rw [accepts_answer_iff gf] at accepts
  rw [accepts_answer_iff hf]
  refine accepts.imp id ?_
  rintro ⟨t, held, accepts⟩
  exact ⟨t, held, accepts.of_extends more traits⟩

theorem accepts_of_parents {h g : Hierarchy} {p : Provider} (hf : h.Faithful p)
    (gf : g.Faithful p) {s : TypeSet} {o o' : Object}
    (path : Reachable p.parents o.className.text o'.className.text)
    (accepts : (g.accepts s (.object o')).answer = true) :
    (h.accepts s (.object o)).answer = true :=
  accepts_of_extends hf gf (Provider.lineage_extends_of_parents path)
    (fun _ => Provider.usesTrait_of_parents path) accepts

/-- Over every registry, whatever cycles it has, and after whatever questions: a class has the
supertypes, traits and flags of its ancestors, its objects are accepted wherever theirs are, and two
classes that are each other's ancestors have the same lineage. From a supertype without a parent a
class has the supertypes and the flags. -/
theorem lineage_of_descendant (r : Registry) (qs qs' : List Question) (c d : String) :
    let h := ((ofProvider r.provider).askAll qs).hierarchy
    let g := ((ofProvider r.provider).askAll qs').hierarchy
    let below := (h.lineage c).answer.lineage
    let above := (g.lineage d).answer.lineage
    (Reachable r.provider.parents c d →
      below.Extends above ∧ (∀ t, above.usesTrait t = true → below.usesTrait t = true) ∧
      ∀ (s : TypeSet) (o o' : Object), o.className.text = c → o'.className.text = d →
        (g.accepts s (.object o')).answer = true → (h.accepts s (.object o)).answer = true) ∧
    (Reachable r.provider.parents c d → Reachable r.provider.parents d c → below = above) ∧
    (below.isA d = true → r.provider.parent d = none → below.Extends above) := by
  intro h g below above
  have hf : h.Faithful r.provider := (faithful_ofProvider r.provider).askAll qs
  have gf : g.Faithful r.provider := (faithful_ofProvider r.provider).askAll qs'
  have hBelow : below = r.provider.lineage c := lineage_lineage hf c
  have hAbove : above = r.provider.lineage d := lineage_lineage gf d
  rw [hBelow, hAbove]
  refine ⟨fun path => ⟨?_, ?_, ?_⟩, ?_, ?_⟩
  · exact Provider.lineage_extends_of_parents path
  · exact fun t => Provider.usesTrait_of_parents path
  · rintro s o o' rfl rfl accepts
    exact accepts_of_parents hf gf path accepts
  · exact Provider.lineage_eq_of_cycle
  · intro isA root
    exact Provider.lineage_extends fun n => .of_no_parent root (Provider.isA_lineage.1 isA)

/-- Pages and drafts are each other's parents. Pages carry a trait and implement an iterable
interface, so drafts carry the trait as well and a set of it accepts them as it accepts pages, the two
classes have one lineage, and it is iterable as the interface is. -/
theorem lineage_of_draft :
    let r := ((Registry.empty.declare
      ⟨"Page", some "Draft", ["Listing"], ["Timestamps"], false, false⟩).declare
      ⟨"Draft", some "Page", [], [], false, false⟩).declare
      ⟨"Listing", none, [], [], true, false⟩
    let h := ofProvider r.provider
    let marked := TypeSet.empty.insert (.named "Timestamps")
    let draft : Object := ⟨0, ⟨"Draft", by decide +kernel⟩⟩
    let page : Object := ⟨1, ⟨"Page", by decide +kernel⟩⟩
    let below := (h.lineage "Draft").answer.lineage
    (Reachable r.provider.parents "Draft" "Page" ∧ Reachable r.provider.parents "Page" "Draft" ∧
      (h.lineage "Page").answer.lineage.usesTrait "Timestamps" = true ∧
      (h.accepts marked (.object page)).answer = true ∧ below.isA "Listing" = true ∧
      r.provider.parent "Listing" = none ∧ (h.lineage "Listing").answer.lineage.iterable = true) ∧
    below.usesTrait "Timestamps" = true ∧ (h.accepts marked (.object draft)).answer = true ∧
      below = (h.lineage "Page").answer.lineage ∧ below.iterable = true := by
  intro r h marked draft page below
  have declared : r.provider.parent "Draft" = some "Page" ∧ r.provider.parent "Page" = some "Draft" ∧
      r.provider.parent "Listing" = none ∧ r.provider.interfaces "Page" = ["Listing"] ∧
      r.provider.traits "Page" = ["Timestamps"] ∧ r.provider.iterable "Listing" = true := by
    simp [r, Registry.provider, Registry.get?_declare]
  obtain ⟨draftUp, pageUp, root, interfaces, traits, iterable⟩ := declared
  have faithful : h.Faithful r.provider := faithful_ofProvider _
  have down : Reachable r.provider.parents "Draft" "Page" :=
    .tail .refl (Provider.mem_parents.2 draftUp)
  have up : Reachable r.provider.parents "Page" "Draft" :=
    .tail .refl (Provider.mem_parents.2 pageUp)
  have carries : r.provider.Carries "Page" "Timestamps" :=
    ⟨_, .refl, "Timestamps", by simp [traits], .refl⟩
  have used : (h.lineage "Page").answer.lineage.usesTrait "Timestamps" = true := by
    rw [lineage_lineage faithful]
    exact Provider.usesTrait_lineage.2 carries
  have accepted : (h.accepts marked (.object page)).answer = true :=
    (accepts_answer_iff faithful).2 (Or.inr ⟨.named "Timestamps",
      (TypeSet.contains_insert _ _ _).2 (Or.inl rfl), page, rfl, Or.inr carries⟩)
  have isA : below.isA "Listing" = true := by
    have listed : r.provider.Supertype "Draft" "Listing" :=
      ⟨"Page", down, .tail .refl (by simp [interfaces])⟩
    show (h.lineage "Draft").answer.lineage.isA "Listing" = true
    rw [lineage_lineage faithful]
    exact Provider.isA_lineage.2 listed
  have flagged : (h.lineage "Listing").answer.lineage.iterable = true := by
    rw [lineage_lineage faithful]
    exact Provider.iterable_lineage.2 ⟨"Listing", ⟨_, .refl, .refl⟩, iterable⟩
  obtain ⟨descends, cycle, _⟩ := lineage_of_descendant r [] [] "Draft" "Page"
  obtain ⟨_, traitsOf, accepts⟩ := descends down
  obtain ⟨_, _, inherits⟩ := lineage_of_descendant r [] [] "Draft" "Listing"
  exact ⟨⟨down, up, used, accepted, isA, root, flagged⟩, traitsOf "Timestamps" used,
    accepts marked draft page rfl rfl accepted, cycle down up, (inherits isA root).iterable flagged⟩

end Hierarchy

end RuntimeTypes
