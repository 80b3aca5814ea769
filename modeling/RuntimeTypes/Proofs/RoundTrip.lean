import RuntimeTypes.Class.Registry
import RuntimeTypes.Matching.Check
import RuntimeTypes.Proofs.Grammar
import RuntimeTypes.TypeSet.Default
import RuntimeTypes.TypeSet.Growth

/-!
# What is written reads back

A token can be written when its own text spells it. Every token that comes from a text or a value
can be, for the names of classes and kinds of resources that values have follow the grammar. The
text of a set is a sequence of such tokens, so it reads back as the tokens of the set. A set without
tokens has the text of a set that accepts everything, as it does.
-/

namespace RuntimeTypes

namespace Token

variable {name : List Char} {t : Token}

/-- The text of a token spells the token. -/
def Spellable (t : Token) : Prop :=
  Spells t.render.toList t

theorem Spells.render_eq (spells : Spells name t) : t.render.toList = name := by
  cases spells with
  | resource some chars => simp [render]
  | _ => simp [render]

theorem Spells.spellable (spells : Spells name t) : t.Spellable := by
  rw [Spellable, spells.render_eq]
  exact spells

theorem spellable_ofValue (v : Value) : (ofValue v).Spellable := by
  cases v with
  | object o => exact (spells_named_iff.2 ⟨rfl, o.className.valid⟩).spellable
  | resource r => exact (spells_resource_iff.2 ⟨rfl, r.kind.valid⟩).spellable
  | _ => exact .basic _

theorem spellable_of_parse {text : String} (read : parse text = .ok t) : t.Spellable :=
  (parse_eq_ok_iff.1 read).spellable

theorem Spellable.parse_render (spellable : t.Spellable) : parse t.render = .ok t := by
  rw [parse_eq_ok_iff, spellable.bare_eq]
  exact spellable

theorem spellable_of_forall₂ {α : Type} {gives : α → Token → Prop} {xs : List α}
    {tokens : List Token} (each : List.Forall₂ gives xs tokens)
    (spellable : ∀ x t, gives x t → t.Spellable) : ∀ t ∈ tokens, t.Spellable := by
  induction each with
  | nil => simp
  | cons first _ ih => exact List.forall_mem_cons.2 ⟨spellable _ _ first, ih⟩

end Token

open Token (Spellable)

namespace TypeSpec

theorem spellable_of_marked {text : List Char} {tokens : List Token} (marked : Marked text tokens) :
    ∀ t ∈ tokens, Spellable t := by
  induction marked with
  | parts _ spell => exact Token.spellable_of_forall₂ spell fun _ _ spells => spells.spellable
  | mark _ _ ih => exact List.forall_mem_cons.2 ⟨.basic .null, ih⟩

theorem spellable_of_nameToken {v : Value} {t : Token} (read : nameToken v = .ok t) :
    t.Spellable := by
  cases v with
  | string text => exact Token.spellable_of_parse read
  | _ => cases read

theorem spellable_of_parse {spec : TypeSpec} {tokens : List Token}
    (read : spec.parse = .ok tokens) : ∀ t ∈ tokens, Spellable t := by
  cases spec with
  | union text =>
    have marked := unionTokens_eq_ok_iff.1 (parse_union_eq_ok_iff.1 read)
    exact spellable_of_marked marked
  | names elements =>
    have each := mapM_eq_ok_iff.1 read
    exact Token.spellable_of_forall₂ each fun _ _ => spellable_of_nameToken

theorem parse_union_of_spellable {tokens : List Token} (some : tokens ≠ [])
    (spellable : ∀ t ∈ tokens, Spellable t) :
    (union ("|".intercalate (tokens.map Token.render))).parse = .ok tokens := by
  have spell : PartsSpell (tokens.map fun t => t.render.toList) tokens := by
    rw [PartsSpell, List.forall₂_map_left_iff, List.forall₂_same]
    intro t ht
    rw [(spellable t ht).bare_eq]
    exact spellable t ht
  rw [parse_union_eq_ok_iff, String.toList_intercalate, List.map_map]
  exact unionTokens_of_parts (by simpa using some) spell

theorem parse_union_render {t : Token} (spellable : t.Spellable) :
    (union t.render).parse = .ok [t] := by
  have read := parse_union_of_spellable (List.cons_ne_nil t []) (by simpa using spellable)
  rwa [List.map_singleton, String.intercalate_singleton] at read

end TypeSpec

theorem Token.Produced.spellable {t : Token} (produced : t.Produced) : t.Spellable := by
  cases produced with
  | name read => exact spellable_of_parse read
  | spec read mem => exact TypeSpec.spellable_of_parse read t mem
  | value v => exact spellable_ofValue v

namespace TypeSet

variable {s s' t : TypeSet} {u : Token}

/-! ## Sets of tokens that can be written -/

/-- Every token of the set can be written. -/
def Spellable (s : TypeSet) : Prop :=
  ∀ t, s.contains t = true → t.Spellable

theorem spellable_empty : Spellable empty := fun t ht => by
  simp [contains, empty] at ht

theorem Spellable.insertAll {ts : List Token} (hs : s.Spellable) (hts : ∀ t ∈ ts, t.Spellable) :
    (s.insertAll ts).Spellable := fun t ht =>
  ((contains_insertAll s ts t).1 ht).elim (hts t) (hs t)

theorem Spellable.add {spec : TypeSpec} (hs : s.Spellable) (made : s.add spec = .ok s') :
    s'.Spellable := by
  cases read : spec.parse with
  | error e =>
    rw [add_eq_error read] at made
    cases made
  | ok ts =>
    rw [add_eq_ok read] at made
    cases made
    exact hs.insertAll (TypeSpec.spellable_of_parse read)

theorem Produced.spellable (produced : s.Produced) : s.Spellable := by
  -- Whatever a set grows by, it takes a list of tokens, each of which can be written.
  induction produced with
  | empty => exact spellable_empty
  | ofSpec made => exact spellable_empty.add made
  | ofText made => exact spellable_empty.add made
  | ofTokens each => exact spellable_empty.insertAll fun t ht => (each t ht).spellable
  | add _ made ih => exact ih.add made
  | insert _ one ih => exact ih.insertAll (List.forall_mem_singleton.2 one.spellable)
  | union _ _ ihs iht => exact ihs.insertAll fun u hu => iht u ((mem_toList _ u).1 hu)

theorem Spellable.ofText_render (spellable : s.Spellable) (some : s.isEmpty = false) :
    ofText s.render = .ok s := by
  have tokens : s.toList ≠ [] := by
    obtain ⟨t, ht⟩ := (isEmpty_eq_false_iff s).1 some
    exact List.ne_nil_of_mem ((mem_toList s t).2 ht)
  have read := TypeSpec.parse_union_of_spellable tokens fun t ht =>
    spellable t ((mem_toList s t).1 ht)
  rw [ofText, ofSpec, render, some, if_neg Bool.false_ne_true, add_eq_ok read]
  exact congrArg _ (ofTokens_toList s)

/-! ## Sets that accept everything -/

theorem render_of_isEmpty (none : s.isEmpty = true) :
    s.render = (Token.pseudo .mixed).render := by
  rw [render, none, if_pos rfl, Token.render]

theorem ofText_render_of_isEmpty (none : s.isEmpty = true) :
    ofText s.render = .ok (ofTokens [.pseudo .mixed]) := by
  have mixed : (Token.pseudo .mixed).Spellable := .pseudo .mixed
  have read := TypeSpec.parse_union_render mixed
  rw [render_of_isEmpty none, ofText, ofSpec, add_eq_ok read, ofTokens]

theorem acceptsAny_ofTokens_mixed : (ofTokens [.pseudo .mixed]).acceptsAny = true := by
  have mixed : (ofTokens [.pseudo .mixed]).contains (.pseudo .mixed) = true :=
    (contains_insertAll _ _ _).2 (Or.inl (List.mem_singleton_self _))
  rw [acceptsAny, mixed, Bool.or_true]

theorem acceptsAny_of_isEmpty (none : s.isEmpty = true) : s.acceptsAny = true := by
  rw [acceptsAny, none, Bool.true_or]

theorem acceptsNull_of_acceptsAny (any : s.acceptsAny = true) : s.acceptsNull = true := by
  rw [acceptsNull, any, Bool.or_true]

theorem inferDefault?_of_acceptsAny (any : s.acceptsAny = true) (heap : Heap) :
    s.inferDefault? heap = some (.null, heap) := by
  rw [inferDefault?, defaultKind?, acceptsNull_of_acceptsAny any, if_pos rfl]
  rfl

end TypeSet

theorem Hierarchy.accepts_of_acceptsAny {s : TypeSet} (any : s.acceptsAny = true) (h : Hierarchy)
    (v : Value) : h.accepts s v = .done h true := by
  rw [accepts, matchingRule, any, if_pos rfl]
  rfl

namespace TypeSet

/-- Writing and reading are inverse. Every token that is read, or taken from a value, is read back
from its text. Of the sets that grow by such tokens, each that has tokens is read back from its
text, and so told from the others by it. A set without tokens reads back as the set of `mixed`,
which accepts the same values and has the same default. -/
theorem ofText_render_of_produced :
    (∀ t : Token, t.Produced → Token.parse t.render = .ok t) ∧
    (∀ s : TypeSet, s.Produced → s.isEmpty = false → ofText s.render = .ok s) ∧
    (∀ s : TypeSet, s.isEmpty = true →
      let mixed := ofTokens [.pseudo .mixed]
      ofText s.render = .ok mixed ∧
      (∀ (h : Hierarchy) (v : Value), h.accepts mixed v = h.accepts s v) ∧
      mixed.acceptsAny = s.acceptsAny ∧ mixed.acceptsNull = s.acceptsNull ∧
      ∀ heap : Heap, mixed.inferDefault? heap = s.inferDefault? heap) ∧
    ∀ s t : TypeSet, s.Produced → t.Produced → s.isEmpty = false → t.isEmpty = false →
      s.render = t.render → s = t := by
  have reads (s : TypeSet) (produced : s.Produced) (some : s.isEmpty = false) :
      ofText s.render = .ok s := produced.spellable.ofText_render some
  refine ⟨fun t produced => produced.spellable.parse_render, reads, ?_, ?_⟩
  · intro s none mixed
    have any := acceptsAny_of_isEmpty none
    have any' : mixed.acceptsAny = true := acceptsAny_ofTokens_mixed
    refine ⟨ofText_render_of_isEmpty none, fun h v => ?_, ?_, ?_, fun heap => ?_⟩
    · rw [Hierarchy.accepts_of_acceptsAny any, Hierarchy.accepts_of_acceptsAny any']
    · rw [any, any']
    · rw [acceptsNull_of_acceptsAny any, acceptsNull_of_acceptsAny any']
    · rw [inferDefault?_of_acceptsAny any, inferDefault?_of_acceptsAny any']
  · intro s t hs ht some some' same
    have read := reads s hs some
    rw [same, reads t ht some'] at read
    exact (Except.ok.inj read).symm

/-- A class and a kind of resources, inserted in either order: the two sets have one text, and each
is read back from it. -/
theorem ofText_render_of_either_order :
    let post : Token := .named "Acme\\Post"
    let stream : Token := .resource " .x"
    let s := (empty.insert stream).insert post
    let t := (empty.insert post).insert stream
    (Token.parse post.render = .ok post ∧ Token.parse stream.render = .ok stream) ∧
      (s.Produced ∧ s.isEmpty = false ∧ ofText s.render = .ok s) ∧
      (t.Produced ∧ t.isEmpty = false ∧ s.render = t.render ∧ s = t) ∧
      empty.isEmpty = true ∧ ofText empty.render = .ok (ofTokens [.pseudo .mixed]) := by
  intro post stream s t
  have readPost : Token.parse "\\Acme\\Post " = .ok post := by decide +kernel
  have readStream : Token.parse "resource ( .x)" = .ok stream := by decide +kernel
  have hs : s.Produced := .insert (.insert .empty (.name readStream)) (.name readPost)
  have ht : t.Produced := .insert (.insert .empty (.name readPost)) (.name readStream)
  have some (u : TypeSet) (v : Token) : (u.insert v).isEmpty = false :=
    (isEmpty_eq_false_iff _).2 ⟨v, (contains_insert u v v).2 (Or.inl rfl)⟩
  have same : s.render = t.render := congrArg render <| ext_contains fun u => by
    simp only [s, t, contains_insert]
    exact or_left_comm
  have law := ofText_render_of_produced
  exact ⟨⟨law.1 post (.name readPost), law.1 stream (.name readStream)⟩,
    ⟨hs, some _ _, law.2.1 s hs (some _ _)⟩,
    ⟨ht, some _ _, same, law.2.2.2 s t hs ht (some _ _) (some _ _) same⟩,
    rfl, (law.2.2.1 empty rfl).1⟩

/-! ## The token of a value admits it

Whatever a set accepts, it accepts a value once the value's own token is in it, and that token can
be written. So the error of a check names its own remedy: the type that was found, added to the
set, lets the check pass.
-/

variable {s : TypeSet} {t : Token}

theorem add_render (spellable : t.Spellable) :
    ∀ spec ∈ [TypeSpec.union t.render, .names [.string t.render]],
      s.add spec = .ok (s.insert t) := by
  intro spec form
  have read : spec.parse = .ok [t] := by
    rcases List.mem_pair.1 form with rfl | rfl
    · exact TypeSpec.parse_union_render spellable
    · exact mapM_eq_ok_iff.2 (.cons spellable.parse_render .nil)
  exact add_eq_ok read

end TypeSet

namespace Hierarchy

variable {s : TypeSet} {v : Value} {label : Option String} {e : Error}

theorem exists_matchingRule (own : s.contains (.ofValue v) = true) (h : Hierarchy) :
    ∃ rule, h.matchingRule s v = .done h (some rule) := by
  by_cases any : s.acceptsAny = true
  · exact ⟨.anyType, by rw [matchingRule, if_pos any]⟩
  · exact ⟨.exactKind, by rw [matchingRule, if_neg any, if_pos own]⟩

theorem accepts_of_contains (own : s.contains (.ofValue v) = true) (h : Hierarchy) :
    (h.accepts s v).answer = true := by
  obtain ⟨rule, found⟩ := exists_matchingRule own h
  rw [accepts, found]
  rfl

theorem check_of_contains (own : s.contains (.ofValue v) = true) (h : Hierarchy) :
    (h.check s v label).answer = .ok () := by
  obtain ⟨rule, found⟩ := exists_matchingRule own h
  rw [check, found]
  rfl

theorem eq_of_check_eq_error {h : Hierarchy} (failed : (h.check s v label).answer = .error e) :
    e = .disallowed (Token.ofValue v).render s.render label := by
  rw [check] at failed
  split at failed
  · cases failed
  · exact (Except.error.inj failed).symm

/-- The text of a value's own token adds it to any set, and nothing else, and the set then accepts
the value whatever the classes are. The error of a check holds this text. -/
theorem check_add_own (s : TypeSet) (v : Value) :
    let own := Token.ofValue v
    (∀ spec ∈ [TypeSpec.union own.render, .names [.string own.render]],
      ∃ s', s.add spec = .ok s' ∧
        (∀ t, s'.contains t = true ↔ t = own ∨ s.contains t = true) ∧
        ∀ h : Hierarchy, (h.accepts s' v).answer = true ∧
          ∀ label, (h.check s' v label).answer = .ok ()) ∧
    ∀ (h : Hierarchy) (label : Option String) (e : Error),
      (h.check s v label).answer = .error e →
      ∃ actual, e = .disallowed actual s.render label ∧
        ∀ spec ∈ [TypeSpec.union actual, .names [.string actual]],
          ∃ s', s.add spec = .ok s' ∧ ∀ h' : Hierarchy, (h'.check s' v label).answer = .ok () := by
  intro own
  have added := TypeSet.add_render (s := s) (Token.spellable_ofValue v)
  have held : (s.insert own).contains own = true :=
    (TypeSet.contains_insert s own own).2 (Or.inl rfl)
  refine ⟨fun spec form => ?_, fun h label e failed => ?_⟩
  · exact ⟨s.insert own, added spec form, TypeSet.contains_insert s own, fun h =>
      ⟨accepts_of_contains held h, fun label => check_of_contains held h⟩⟩
  · refine ⟨own.render, eq_of_check_eq_error failed, fun spec form => ?_⟩
    exact ⟨s.insert own, added spec form, fun h' => check_of_contains held h'⟩

/-- A stream is refused where integers are wanted, and accepted once its token is added. -/
theorem check_add_own_of_stream :
    let s := TypeSet.empty.insert (.basic .int)
    let stream : Value := .resource ⟨0, ⟨"stream", by decide⟩⟩
    let h := ofProvider Registry.empty.provider
    (h.check s stream none).answer = .error (.disallowed "resource (stream)" "int" none) ∧
      ∃ actual s', s.add (.union actual) = .ok s' ∧ (h.check s' stream none).answer = .ok () := by
  intro s stream h
  have failed :
      (h.check s stream none).answer = .error (.disallowed "resource (stream)" "int" none) := by
    decide +kernel
  obtain ⟨actual, _, remedy⟩ := (check_add_own s stream).2 h none _ failed
  obtain ⟨s', added, passes⟩ := remedy (.union actual) (List.mem_cons_self ..)
  exact ⟨failed, actual, s', added, passes h⟩

end Hierarchy

end RuntimeTypes
