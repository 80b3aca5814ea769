import Mathlib.Data.List.Basic
import RuntimeTypes.Spec.Grammar

/-!
# Reading a part of a type text

A bare name is read as the token that the grammar says it spells, and as no other. The readings are
tried in an order, and they overlap nowhere: reserved names hold no parenthesis, class names are
not reserved, and what opens like a resource holds a parenthesis, which no class name does.

A name that spells a token is itself bare, so a token that is written out reads back.
-/

namespace RuntimeTypes

/-! ## The characters of names

No name holds a bar or a question mark, and no class name holds white space or a parenthesis. Of
the tables of letters and numbers nothing else is needed to read type texts.
-/

namespace Name

open Unicode (isWhiteSpace)

variable {c : Char} {cs : List Char} {name kind : String}

theorem isWhiteSpace_eq_false_of_continuesIdentifier (h : continuesIdentifier c = true) :
    isWhiteSpace c = false := by
  refine Bool.eq_false_iff.2 fun white => ?_
  have letter := Unicode.isAlphabetic_eq_false_of_isWhiteSpace white
  have number := Unicode.isNumeric_eq_false_of_isWhiteSpace white
  have underscore : c = '_' := by simpa [continuesIdentifier, letter, number] using h
  subst underscore
  exact absurd white (by decide)

theorem continuesIdentifier_mark (hc : c ∈ ['|', '?', '(', separator]) :
    continuesIdentifier c = false := by
  have none : ['|', '?', '(', separator].any continuesIdentifier = false := by decide +kernel
  exact Bool.eq_false_iff.2 (List.any_eq_false.1 none c hc)

theorem isResourceChar_mark (hc : c ∈ ['|', '?']) : isResourceChar c = false := by
  have none : ['|', '?'].any isResourceChar = false := by decide
  exact Bool.eq_false_iff.2 (List.any_eq_false.1 none c hc)

theorem continuesIdentifier_of_opensIdentifier (h : opensIdentifier c = true) :
    continuesIdentifier c = true := by
  rcases Bool.or_eq_true_iff.1 h with letter | underscore
  · simp [continuesIdentifier, letter]
  · simp [continuesIdentifier, underscore]

theorem isIdentifier_ne_nil (h : isIdentifier cs = true) : cs ≠ [] := by
  rintro rfl
  cases h

theorem continuesIdentifier_of_mem (h : isIdentifier cs = true) (hc : c ∈ cs) :
    continuesIdentifier c = true := by
  cases cs with
  | nil => cases hc
  | cons d ds =>
    obtain ⟨opens, continues⟩ := Bool.and_eq_true_iff.1 h
    rcases List.mem_cons.1 hc with rfl | rest
    · exact continuesIdentifier_of_opensIdentifier opens
    · exact List.all_eq_true.1 continues c rest

theorem separator_not_mem (h : isIdentifier cs = true) : separator ∉ cs := fun mem => by
  have no : continuesIdentifier separator = false := continuesIdentifier_mark (by simp)
  rw [continuesIdentifier_of_mem h mem] at no
  cases no

/-! ### Sequences of identifiers -/

theorem mem_intercalate {d : Char} {segments : List (List Char)}
    (hc : c ∈ [d].intercalate segments) : c = d ∨ ∃ s ∈ segments, c ∈ s := by
  induction segments with
  | nil => cases hc
  | cons s segments ih =>
    by_cases none : segments = []
    · subst none
      rw [List.intercalate_singleton] at hc
      exact Or.inr ⟨s, by simp, hc⟩
    · rw [List.intercalate_cons_of_ne_nil none, List.mem_append, List.mem_append,
        List.mem_singleton] at hc
      rcases hc with (here | mark) | rest
      · exact Or.inr ⟨s, by simp, here⟩
      · exact Or.inl mark
      · exact (ih rest).imp_right fun ⟨t, ht, mem⟩ => ⟨t, List.mem_cons_of_mem _ ht, mem⟩

theorem isClassName_ofList_iff :
    isClassName (String.ofList cs) = true ↔ isReserved (String.ofList cs) = false ∧
      ∃ segments ≠ [], (∀ s ∈ segments, isIdentifier s = true) ∧
        cs = [separator].intercalate segments := by
  simp only [isClassName, Bool.and_eq_true, Bool.not_eq_true', String.toList_ofList,
    List.all_eq_true]
  refine and_congr_right fun _ => ⟨fun identifiers => ?_, ?_⟩
  · exact ⟨cs.splitOn separator, List.splitOn_ne_nil separator cs, identifiers,
      (List.intercalate_splitOn separator).symm⟩
  · rintro ⟨segments, some, identifiers, rfl⟩
    rwa [List.splitOn_intercalate separator (fun s hs => separator_not_mem (identifiers s hs)) some]

theorem isResourceKind_ofList_iff :
    isResourceKind (String.ofList cs) = true ↔
      cs ≠ [] ∧ ∀ c ∈ cs, isResourceChar c = true := by
  simp [isResourceKind]

theorem isReserved_eq_false_iff :
    isReserved name = false ↔ Kind.ofName? name = none ∧ Pseudotype.ofName? name = none := by
  simp [isReserved]

end Name

/-! ## Names that spell tokens -/

namespace Token

open Text (IsBlank)
open Unicode (isWhiteSpace)

variable {name part : List Char} {t : Token} {c : Char}

/-! ### The characters of spelled names -/

theorem Spells.not_mem (spells : Spells name t) (hc : c ∈ ['|', '?']) : c ∉ name := by
  cases spells with
  | basic kind => rcases List.mem_pair.1 hc with rfl | rfl <;> cases kind <;> decide
  | pseudo category => rcases List.mem_pair.1 hc with rfl | rfl <;> cases category <;> decide
  | resource some chars =>
    have around : c ∉ resourceOpening.toList ∧ c ∉ [')'] := by
      rcases List.mem_pair.1 hc with rfl | rfl <;> decide
    intro mem
    rcases List.mem_append.1 mem with front | back
    · rcases List.mem_append.1 front with opening | inner
      · exact around.1 opening
      · have no := Name.isResourceChar_mark hc
        rw [chars c inner] at no
        cases no
    · exact around.2 back
  | named some identifiers free =>
    intro mem
    rcases Name.mem_intercalate mem with rfl | ⟨s, hs, inner⟩
    · revert hc
      decide
    · have no : Name.continuesIdentifier c = false := Name.continuesIdentifier_mark (by grind)
      rw [Name.continuesIdentifier_of_mem (identifiers s hs) inner] at no
      cases no

theorem Spells.exists_head (spells : Spells name t) :
    ∃ c rest, name = c :: rest ∧ isWhiteSpace c = false ∧ c ≠ Name.separator := by
  cases spells with
  | basic kind => cases kind <;> exact ⟨_, _, rfl, by decide, by decide⟩
  | pseudo category => cases category <;> exact ⟨_, _, rfl, by decide, by decide⟩
  | resource some chars => exact ⟨_, _, rfl, by decide, by decide⟩
  | @named segments some identifiers free =>
    obtain ⟨s, others, rfl⟩ := List.exists_cons_of_ne_nil some
    have identifier := identifiers s (List.mem_cons_self ..)
    obtain ⟨c, rest, rfl⟩ := List.exists_cons_of_ne_nil (Name.isIdentifier_ne_nil identifier)
    have opens := Name.continuesIdentifier_of_mem identifier (List.mem_cons_self ..)
    refine ⟨c, _, List.intercalate_cons_cons_left, ?_, ?_⟩
    · exact Name.isWhiteSpace_eq_false_of_continuesIdentifier opens
    · rintro rfl
      exact Name.separator_not_mem identifier (List.mem_cons_self ..)

theorem Spells.getLast (spells : Spells name t) :
    ∀ c ∈ name.getLast?, isWhiteSpace c = false := by
  intro c hc
  cases spells with
  | basic kind => cases kind <;> cases hc <;> decide
  | pseudo category => cases category <;> cases hc <;> decide
  | resource some chars =>
    rw [List.getLast?_concat] at hc
    cases hc
    decide
  | named some identifiers free =>
    rcases Name.mem_intercalate (List.mem_of_getLast? hc) with rfl | ⟨s, hs, inner⟩
    · decide
    · exact Name.isWhiteSpace_eq_false_of_continuesIdentifier
        (Name.continuesIdentifier_of_mem (identifiers s hs) inner)

theorem Spells.ne_nil (spells : Spells name t) : name ≠ [] := by
  obtain ⟨c, rest, rfl, _⟩ := spells.exists_head
  exact List.cons_ne_nil c rest

theorem Spells.dropLeading_eq (spells : Spells name t) :
    Text.dropLeading Name.separator name = name := by
  obtain ⟨c, rest, rfl, _, other⟩ := spells.exists_head
  rw [Text.dropLeading, if_neg other]

/-- A text that spells a token but for a leading separator has no white space at its ends. -/
theorem Spells.solid_ends (spells : Spells (Text.dropLeading Name.separator part) t) :
    (∀ d ∈ part.head?, isWhiteSpace d = false) ∧ ∀ d ∈ part.getLast?, isWhiteSpace d = false := by
  obtain ⟨lead, one, eq⟩ := Text.exists_append_dropLeading Name.separator part
  obtain ⟨c, rest, name, solid, _⟩ := spells.exists_head
  have last := spells.getLast
  rw [name] at eq last
  rw [eq]
  rcases one with rfl | rfl
  · refine ⟨fun d hd => ?_, last⟩
    cases hd
    exact solid
  · rw [List.singleton_append, List.getLast?_cons_cons]
    refine ⟨fun d hd => ?_, last⟩
    cases hd
    decide

theorem Spells.bare_eq_dropLeading (spells : Spells (Text.dropLeading Name.separator part) t) :
    bare part = Text.dropLeading Name.separator part := by
  rw [bare, Text.trim_eq_self spells.solid_ends.1 spells.solid_ends.2]

theorem Spells.bare_eq (spells : Spells name t) : bare name = name := by
  have same : Spells (Text.dropLeading Name.separator name) t := by
    rwa [spells.dropLeading_eq]
  rw [same.bare_eq_dropLeading, spells.dropLeading_eq]

/-! ### Names of classes and kinds of resources -/

theorem spells_named_iff {text : String} :
    Spells name (.named text) ↔ name = text.toList ∧ Name.isClassName text = true := by
  constructor
  · intro spells
    cases spells with
    | named some identifiers free =>
      rw [String.toList_ofList]
      exact ⟨rfl, Name.isClassName_ofList_iff.2 ⟨free, _, some, identifiers, rfl⟩⟩
  · rintro ⟨rfl, valid⟩
    obtain ⟨cs, rfl⟩ : ∃ cs, text = String.ofList cs := ⟨_, String.ofList_toList.symm⟩
    obtain ⟨free, segments, some, identifiers, rfl⟩ := Name.isClassName_ofList_iff.1 valid
    rw [String.toList_ofList]
    exact .named some identifiers free

theorem spells_resource_iff {kind : String} :
    Spells name (.resource kind) ↔
      name = resourceOpening.toList ++ kind.toList ++ [')'] ∧ Name.isResourceKind kind = true := by
  constructor
  · intro spells
    cases spells with
    | resource some chars =>
      rw [String.toList_ofList]
      exact ⟨rfl, Name.isResourceKind_ofList_iff.2 ⟨some, chars⟩⟩
  · rintro ⟨rfl, valid⟩
    obtain ⟨cs, rfl⟩ : ∃ cs, kind = String.ofList cs := ⟨_, String.ofList_toList.symm⟩
    obtain ⟨some, chars⟩ := Name.isResourceKind_ofList_iff.1 valid
    rw [String.toList_ofList]
    exact .resource some chars

/-! ### White space around a part -/

theorem bare_append_append {front back : List Char} (hf : IsBlank front) (hb : IsBlank back)
    (part : List Char) : bare (front ++ part ++ back) = bare part := by
  rw [bare, Text.trim_append_append hf hb, bare]

theorem spellsPart_iff : SpellsPart part t ↔ Spells (bare part) t := by
  constructor
  · rintro ⟨front, lead, name, back, hf, one, spells, hb, rfl⟩
    have leading : Text.dropLeading Name.separator (lead ++ name) = name := by
      rcases one with rfl | rfl
      · exact spells.dropLeading_eq
      · rw [List.singleton_append, Text.dropLeading, if_pos rfl]
    have dropped : Spells (Text.dropLeading Name.separator (lead ++ name)) t := by
      rwa [leading]
    rwa [List.append_assoc front, bare_append_append hf hb, dropped.bare_eq_dropLeading]
  · intro spells
    obtain ⟨front, back, hf, hb, eq⟩ := Text.exists_append_trim_append part
    obtain ⟨lead, one, eq'⟩ := Text.exists_append_dropLeading Name.separator (Text.trim part)
    refine ⟨front, lead, bare part, back, hf, one, spells, hb, ?_⟩
    rw [List.append_assoc front, bare, ← eq', ← eq]

theorem mem_bare (hc : c ∈ part) (solid : isWhiteSpace c = false) (other : c ≠ Name.separator) :
    c ∈ bare part := by
  have inside := Text.mem_trim hc solid
  obtain ⟨lead, one, eq⟩ := Text.exists_append_dropLeading Name.separator (Text.trim part)
  rw [eq] at inside
  refine (List.mem_append.1 inside).resolve_left ?_
  rcases one with rfl | rfl
  · exact List.not_mem_nil
  · exact fun mem => other (List.mem_singleton.1 mem)

theorem Spells.not_mem_part (spells : Spells (bare part) t) (hc : c ∈ ['|', '?']) : c ∉ part := by
  have solid : isWhiteSpace c = false ∧ c ≠ Name.separator := by
    rcases List.mem_pair.1 hc with rfl | rfl <;> decide
  exact fun mem => spells.not_mem hc (mem_bare mem solid.1 solid.2)

/-! ### Which token a name stands for -/

theorem isReserved_eq_false_of_mem (paren : '(' ∈ name) :
    Name.isReserved (String.ofList name) = false := by
  rw [Name.isReserved_eq_false_iff]
  refine ⟨Option.eq_none_iff_forall_ne_some.2 fun kind found => ?_,
    Option.eq_none_iff_forall_ne_some.2 fun category found => ?_⟩
  · have same : kind.name.toList = name := by
      rw [Kind.name_of_ofName? found, String.toList_ofList]
    rw [← same] at paren
    cases kind <;> revert paren <;> decide
  · have same : category.name.toList = name := by
      rw [Pseudotype.name_of_ofName? found, String.toList_ofList]
    rw [← same] at paren
    cases category <;> revert paren <;> decide

theorem resourceKind?_eq_none (paren : '(' ∉ name) : resourceKind? name = none := by
  have other : resourceOpening.toList.isPrefixOf name = false := by
    refine Bool.eq_false_iff.2 fun opens => paren ?_
    have front := List.isPrefixOf_iff_prefix.1 opens
    exact front.subset (by decide)
  rw [resourceKind?, Text.afterOpening?, other]
  rfl

theorem resourceKind?_eq (kind : List Char) :
    resourceKind? (resourceOpening.toList ++ kind ++ [')']) =
      if Name.isResourceKind (String.ofList kind) then
        some (.ok (.resource (String.ofList kind)))
      else some (.error (.malformedResource
        (String.ofList (resourceOpening.toList ++ kind ++ [')'])))) := by
  have opens : resourceOpening.toList.isPrefixOf (resourceOpening.toList ++ kind ++ [')']) = true :=
    List.isPrefixOf_iff_prefix.2 ⟨kind ++ [')'], (List.append_assoc ..).symm⟩
  have rest : (resourceOpening.toList ++ kind ++ [')']).drop resourceOpening.toList.length =
      kind ++ [')'] := by
    rw [List.append_assoc, List.drop_left]
  simp only [resourceKind?, Text.afterOpening?, opens, if_true, rest, Text.beforeFinal?,
    List.getLast?_concat, List.dropLast_concat]

theorem eq_of_resourceKind?_eq_ok (read : resourceKind? name = some (.ok t)) :
    ∃ kind, name = resourceOpening.toList ++ kind ++ [')'] ∧
      Name.isResourceKind (String.ofList kind) = true ∧ t = .resource (String.ofList kind) := by
  unfold resourceKind? Text.afterOpening? at read
  split at read
  · cases read
  · rename_i rest opens
    split at opens
    · rename_i prefixed
      cases opens
      obtain ⟨rest, rfl⟩ := List.isPrefixOf_iff_prefix.1 prefixed
      rw [List.drop_left, Text.beforeFinal?] at read
      split at read
      · cases read
      · rename_i kind ends
        split at ends
        · rename_i last
          cases ends
          obtain ⟨kind, rfl⟩ := List.getLast?_eq_some_iff.1 last
          rw [List.dropLast_concat] at read
          split at read
          · rename_i valid
            cases read
            exact ⟨kind, (List.append_assoc ..).symm, valid, rfl⟩
          · cases read
        · cases ends
    · cases opens

theorem ofBare_of_spells (spells : Spells name t) : ofBare name = .ok t := by
  rw [ofBare, List.isEmpty_eq_false_iff.2 spells.ne_nil]
  cases spells with
  | basic kind => simp [Kind.ofName?_name]
  | pseudo category =>
    have other : Kind.ofName? category.name = none := by cases category <;> decide
    simp [Pseudotype.ofName?_name, other]
  | @resource kind some chars =>
    have paren : '(' ∈ resourceOpening.toList ++ kind ++ [')'] := by simp [resourceOpening]
    obtain ⟨noKind, noCategory⟩ :=
      Name.isReserved_eq_false_iff.1 (isReserved_eq_false_of_mem paren)
    have valid := Name.isResourceKind_ofList_iff.2 ⟨some, chars⟩
    simp only [Bool.false_eq_true, if_false, noKind, noCategory, resourceKind?_eq, valid, if_true]
  | @named segments some identifiers free =>
    obtain ⟨noKind, noCategory⟩ := Name.isReserved_eq_false_iff.1 free
    have noParen : '(' ∉ [Name.separator].intercalate segments := by
      intro mem
      rcases Name.mem_intercalate mem with sep | ⟨s, hs, inner⟩
      · exact absurd sep (by decide)
      · have no : Name.continuesIdentifier '(' = false := Name.continuesIdentifier_mark (by simp)
        rw [Name.continuesIdentifier_of_mem (identifiers s hs) inner] at no
        cases no
    have valid := Name.isClassName_ofList_iff.2 ⟨free, segments, some, identifiers, rfl⟩
    simp only [Bool.false_eq_true, if_false, noKind, noCategory, resourceKind?_eq_none noParen,
      valid, if_true]

theorem spells_of_ofBare (read : ofBare name = .ok t) : Spells name t := by
  have text (s : String) (h : s = String.ofList name) : name = s.toList := by
    rw [h, String.toList_ofList]
  unfold ofBare at read
  split at read
  · cases read
  · split at read
    · rename_i kind found
      cases read
      rw [text kind.name (Kind.name_of_ofName? found)]
      exact .basic kind
    · rename_i noKind
      split at read
      · rename_i category found
        cases read
        rw [text category.name (Pseudotype.name_of_ofName? found)]
        exact .pseudo category
      · rename_i noCategory
        split at read
        · rename_i result opens
          rw [read] at opens
          obtain ⟨kind, rfl, valid, rfl⟩ := eq_of_resourceKind?_eq_ok opens
          exact spells_resource_iff.2 ⟨by rw [String.toList_ofList], valid⟩
        · split at read
          · rename_i valid
            cases read
            exact spells_named_iff.2 ⟨String.toList_ofList.symm, valid⟩
          · cases read

/-- A bare name is read as the token that it spells. -/
theorem ofBare_eq_ok_iff : ofBare name = .ok t ↔ Spells name t :=
  ⟨spells_of_ofBare, ofBare_of_spells⟩

theorem ofPart_eq_ok_iff : ofPart part = .ok t ↔ Spells (bare part) t :=
  ofBare_eq_ok_iff

theorem parse_eq_ok_iff {text : String} : parse text = .ok t ↔ Spells (bare text.toList) t := by
  rw [← ofPart_eq_ok_iff, parse]
  cases ofPart text.toList <;> simp

end Token

end RuntimeTypes
